import CatalogTypes.Json.Reader

/-! # Readers of records

A record is read from an object, whose members stand in any order, or from an array of its fields in
order. While it is read, the values that have come in are kept in a draft.
-/

namespace CatalogTypes.Json

/-- One field of a record, as a place in a draft. -/
structure Slot (Draft : Type) where
  name : String
  /-- Whether the field may be left out. -/
  hasDefault : Bool
  isFilled : Draft → Bool
  fill : Draft → Reader Draft

/-- The fields of a record, in order. -/
structure Fields (Draft Value : Type) where
  slots : List (Slot Draft)
  blank : Draft
  /-- The record, or the name of the first field that is missing. -/
  finish : Draft → Except String Value

namespace Slot

variable {D E : Type}

def onFst (slot : Slot D) : Slot (D × E) where
  name := slot.name
  hasDefault := slot.hasDefault
  isFilled d := slot.isFilled d.1
  fill d := (slot.fill d.1).map (·, d.2)

def onSnd (slot : Slot E) : Slot (D × E) where
  name := slot.name
  hasDefault := slot.hasDefault
  isFilled d := slot.isFilled d.2
  fill d := (slot.fill d.2).map (d.1, ·)

end Slot

namespace Fields

variable {D E V W : Type}

/-- A single field, which is missing if it has no default and is left out. -/
def single (name : String) (reader : Reader V) (default? : Option V) : Fields (Option V) V where
  slots := [⟨name, default?.isSome, Option.isSome, fun _ => reader.map some⟩]
  blank := none
  finish d :=
    match d.or default? with
    | some x => .ok x
    | none => .error name

def required (name : String) (reader : Reader V) : Fields (Option V) V := single name reader none

def optional (name : String) (reader : Reader V) (default : V) : Fields (Option V) V :=
  single name reader (some default)

/-- The fields of two records, one after the other. -/
def and (fields : Fields D V) (more : Fields E W) : Fields (D × E) (V × W) where
  slots := fields.slots.map Slot.onFst ++ more.slots.map Slot.onSnd
  blank := (fields.blank, more.blank)
  finish d := do
    let x ← fields.finish d.1
    let y ← more.finish d.2
    pure (x, y)

def map (f : V → W) (fields : Fields D V) : Fields D W :=
  ⟨fields.slots, fields.blank, fun d => (fields.finish d).map f⟩

end Fields

/-! ## Objects -/

/-- What follows in an object; `first` holds after its bracket. -/
def nextKey (first : Bool) (s : List Char) : Except Fault Turn :=
  match skipBlanks s with
  | [] => .error (.within .endInObject [])
  | '\x7d' :: r => .ok (.done r)
  | c :: r =>
    if first then
      if c = '"' then .ok (.more r) else .error (.within .keyNotString (c :: r))
    else if c = ',' then
      match skipBlanks r with
      | [] => .error (.within .endInValue [])
      | '"' :: t => .ok (.more t)
      | '\x7d' :: t => .error (.within .trailingComma ('\x7d' :: t))
      | t => .error (.within .keyNotString t)
    else .error (.within .expectedCommaInObject (c :: r))

theorem length_of_nextKey {first : Bool} {s : List Char} :
    (∀ t, nextKey first s = .ok (.more t) → t.length < s.length) ∧
      ∀ r, nextKey first s = .ok (.done r) → r.length < s.length := by
  have hs := length_skipBlanks_le s
  unfold nextKey
  split
  · simp
  · next heq =>
    simp only [heq, List.length_cons] at hs
    exact ⟨fun t h => by simp at h, fun r h => by cases h; omega⟩
  · next c r _ heq =>
    simp only [heq, List.length_cons] at hs
    split
    · split
      · exact ⟨fun t h => by cases h; omega, fun r h => by simp at h⟩
      · simp
    · split
      · have hr := length_skipBlanks_le r
        split
        · simp
        · next heq =>
          simp only [heq, List.length_cons] at hr
          exact ⟨fun t h => by cases h; omega, fun r h => by simp at h⟩
        · simp
        · simp
      · simp

/-- The place at which a repeated key is reported: after the key, and after the end of the object if
the object ends there. -/
def afterRepeatedKey (s : List Char) : List Char :=
  match skipBlanks s with
  | '\x7d' :: r => r
  | r => r

/-- The value of a member after its key. Members that are no fields are passed over. -/
def member {D : Type} (slots : List (Slot D)) (d : D) (name : String) (s : List Char) :
    Except Fault (D × List Char) :=
  match slots.find? (·.name == name) with
  | none => do
    let s ← colon s
    let r ← skipValue s
    pure (d, r)
  | some slot =>
    if slot.isFilled d then .error (.before (.duplicateField name) (afterRepeatedKey s))
    else do
      let s ← colon s
      (slot.fill d).run s

theorem length_lt_of_member {D : Type} {slots : List (Slot D)} {d : D} {name : String} :
    Shortens (member slots d name) := by
  intro s d' r h
  unfold member at h
  split at h
  · obtain ⟨s₁, h₁, h⟩ := bind_eq_ok.mp h
    obtain ⟨s₂, h₂, h⟩ := bind_eq_ok.mp h
    have := length_lt_of_colon h₁
    have := length_lt_of_skipValue h₂
    cases h
    omega
  · split at h
    · simp at h
    · obtain ⟨s₁, h₁, h⟩ := bind_eq_ok.mp h
      have := length_lt_of_colon h₁
      exact Nat.lt_trans (Reader.shortens _ h) this

/-- The members of an object up to its end. -/
def members {D : Type} (slots : List (Slot D)) (first : Bool) (d : D) (s : List Char) :
    Except Fault (D × List Char) :=
  match _hk : nextKey first s with
  | .error f => .error f
  | .ok (.done r) => .ok (d, r)
  | .ok (.more t) =>
    match _ht : text [] t with
    | .error f => .error f
    | .ok (name, u) =>
      match _hm : member slots d (String.ofList name) u with
      | .error f => .error f
      | .ok (d, r) => members slots false d r
termination_by s.length
decreasing_by
  have := length_of_nextKey.1 _ _hk
  have := length_lt_of_text _ _ht
  have := length_lt_of_member _hm
  omega

theorem length_lt_of_members {D : Type} (slots : List (Slot D)) (first : Bool) (d : D) :
    Shortens (members slots first d) := by
  intro s d' r h
  fun_induction members slots first d s with
  | case1 => simp at h
  | case2 first d s r' hk =>
    cases h
    exact length_of_nextKey.2 _ hk
  | case3 => simp at h
  | case4 => simp at h
  | case5 first d s t hk name u ht d₁ r' hm ih =>
    have := ih h
    have := length_of_nextKey.1 _ hk
    have := length_lt_of_text _ ht
    have := length_lt_of_member hm
    omega

/-! ## Arrays -/

/-- The end of an array whose elements have all been read. -/
def arrayEnd (s : List Char) : Except Fault (List Char) :=
  match skipBlanks s with
  | [] => .error (.within .endInArray [])
  | ']' :: r => .ok r
  | ',' :: r =>
    match skipBlanks r with
    | ']' :: t => .error (.within .trailingComma (']' :: t))
    | t => .error (.within .trailingCharacters t)
  | t => .error (.within .trailingCharacters t)

theorem length_lt_of_arrayEnd {s r : List Char} (h : arrayEnd s = .ok r) :
    r.length < s.length := by
  have hs := length_skipBlanks_le s
  unfold arrayEnd at h
  split at h
  · simp at h
  · next heq =>
    cases h
    simp only [heq, List.length_cons] at hs
    omega
  · split at h <;> simp at h
  · simp at h

/-- The fields from the `n`-th on, as the elements of an array up to its end. An array may end early
if the fields that are left have defaults; else the count up to the first that has none is
reported. -/
def positional {D : Type} (record : String) (total n : Nat) (first : Bool) (d : D)
    (slots : List (Slot D)) (s : List Char) : Except Fault (D × List Char) :=
  match slots with
  | [] => (arrayEnd s).map (d, ·)
  | slot :: more =>
    match nextElement first s with
    | .error f => .error f
    | .ok (.done r) =>
      match (slot :: more).findIdx? (!·.hasDefault) with
      | some i => .error (.before (.invalidLength (n + i) record total) r)
      | none => .ok (d, r)
    | .ok (.more t) =>
      match (slot.fill d).run t with
      | .error f => .error f
      | .ok (d, r) => positional record total (n + 1) false d more r

theorem length_lt_of_positional {D : Type} (record : String) (total n : Nat) (first : Bool) (d : D)
    (slots : List (Slot D)) : Shortens (positional record total n first d slots) := by
  intro s d' r h
  induction slots generalizing n first d s with
  | nil =>
    obtain ⟨r', h', h⟩ := map_eq_ok.mp h
    cases h
    exact length_lt_of_arrayEnd h'
  | cons slot more ih =>
    rw [positional] at h
    split at h
    · simp at h
    · next hn =>
      split at h
      · simp at h
      · cases h
        exact length_of_nextElement.2 _ hn
    · next hn =>
      split at h
      · simp at h
      · next hr =>
        have := ih _ _ _ h
        have := Reader.shortens _ hr
        have := length_of_nextElement.1 _ hn
        omega

/-! ## Records -/

/-- Reads a record. `name` is what messages call it. -/
def Reader.record {D V : Type} (name : String) (fields : Fields D V) : Reader V where
  run s :=
    match lead s with
    | .error f => .error f
    | .ok (.atom a, r) => .error ((Found.atom a).mismatch (.record name) r)
    | .ok (found, r) =>
      let filled :=
        if found = .array then
          positional name fields.slots.length 0 true fields.blank fields.slots r
        else members fields.slots true fields.blank r
      match filled with
      | .error f => .error f
      | .ok (d, r) =>
        match fields.finish d with
        | .ok x => .ok (x, r)
        | .error missing => .error (.before (.missingField missing) r)
  shortens s x r h := by
    dsimp only at h
    split at h
    · simp at h
    · simp at h
    · next hl =>
      have := length_lt_of_lead hl
      split at h
      · simp at h
      · next hf =>
        split at h
        · cases h
          split at hf
          · exact Nat.lt_trans (length_lt_of_positional _ _ _ _ _ _ hf) this
          · exact Nat.lt_trans (length_lt_of_members _ _ _ hf) this
        · simp at h

end CatalogTypes.Json
