import CatalogTypes.Json.Skip

/-! # Readers of typed values

A value of the wrong kind is read as far as it can be: its own faults come before the fault that it
is not of the kind expected.
-/

namespace CatalogTypes.Json

/-- Reads a value of a type from the front of a text. -/
structure Reader (α : Type) where
  run : Scanner α
  shortens : Shortens run

/-- What kind of value stands in front: an atom, which is read, or a bracket, which is passed. -/
def lead (s : List Char) : Except Fault (Found × List Char) :=
  match skipBlanks s with
  | '[' :: r => .ok (.array, r)
  | '\x7b' :: r => .ok (.object, r)
  | t => (atom t).map fun (a, r) => (.atom a, r)

theorem length_lt_of_lead : Shortens lead := by
  intro s found r h
  have hs := length_skipBlanks_le s
  unfold lead at h
  split at h
  · next heq => cases h; simp only [heq, List.length_cons] at hs; omega
  · next heq => cases h; simp only [heq, List.length_cons] at hs; omega
  · obtain ⟨⟨a, r'⟩, h', h⟩ := map_eq_ok.mp h
    have := length_lt_of_atom h'
    cases h
    omega

/-- The fault that a value is of another kind: after an atom, before a bracket. -/
def Found.mismatch (found : Found) (expected : Expected) (rest : List Char) : Fault :=
  match found with
  | .atom _ => .before (.invalidType found expected) rest
  | .array | .object => ⟨.invalidType found expected, bytes rest + 1⟩

namespace Reader

variable {α β : Type}

def map (f : α → β) (reader : Reader α) : Reader β where
  run s := (reader.run s).map fun (x, r) => (f x, r)
  shortens s y r h := by
    obtain ⟨⟨x, r'⟩, h', h⟩ := map_eq_ok.mp h
    cases h
    exact reader.shortens h'

/-! ## Atoms -/

/-- Reads an atom that is accepted, or else refused with a cause. -/
def ofAtom (expected : Expected) (accept : Atom → Except Cause α) : Reader α where
  run s :=
    match lead s with
    | .error f => .error f
    | .ok (.atom a, r) =>
      match accept a with
      | .ok x => .ok (x, r)
      | .error cause => .error (.before cause r)
    | .ok (found, r) => .error (found.mismatch expected r)
  shortens s x r h := by
    dsimp only at h
    split at h
    · simp at h
    · next h' =>
      split at h
      · cases h
        exact length_lt_of_lead h'
      · simp at h
    · simp at h

def uint32 : Reader UInt32 :=
  ofAtom .uint32 fun
    | .number (.integer n) =>
      if 0 ≤ n ∧ n < UInt32.size then .ok (UInt32.ofNat n.toNat)
      else .error (.invalidValue n .uint32)
    | a => .error (.invalidType (.atom a) .uint32)

def text : Reader String :=
  ofAtom .text fun
    | .text s => .ok s
    | a => .error (.invalidType (.atom a) .text)

def boolean : Reader Bool :=
  ofAtom .boolean fun
    | .boolean b => .ok b
    | a => .error (.invalidType (.atom a) .boolean)

def unit : Reader Unit :=
  ofAtom .unit fun
    | .null => .ok ()
    | a => .error (.invalidType (.atom a) .unit)

/-- Reads null as none. -/
def orNull (reader : Reader α) : Reader (Option α) where
  run s :=
    match skipBlanks s with
    | 'n' :: r => (literal ['u', 'l', 'l'] r).map (none, ·)
    | t => (reader.run t).map fun (x, r) => (some x, r)
  shortens s x r h := by
    have hs := length_skipBlanks_le s
    dsimp only at h
    split at h
    · next heq =>
      obtain ⟨r', h', h⟩ := map_eq_ok.mp h
      have := length_le_of_literal h'
      cases h
      simp only [heq, List.length_cons] at hs
      omega
    · obtain ⟨⟨y, r'⟩, h', h⟩ := map_eq_ok.mp h
      have := reader.shortens h'
      cases h
      dsimp only
      omega

end Reader

/-! ## Arrays -/

/-- What follows in an array or object: an element or key, or the end. -/
inductive Turn where
  /-- From the first character of the element, or after the opening quote of the key. -/
  | more (s : List Char)
  /-- After the closing bracket. -/
  | done (r : List Char)
deriving DecidableEq, Repr

/-- What follows in an array; `first` holds after its bracket. -/
def nextElement (first : Bool) (s : List Char) : Except Fault Turn :=
  match skipBlanks s with
  | [] => .error (.within .endInArray [])
  | ']' :: r => .ok (.done r)
  | c :: r =>
    if first then .ok (.more (c :: r))
    else if c = ',' then
      match skipBlanks r with
      | [] => .error (.within .endInValue [])
      | ']' :: t => .error (.within .trailingComma (']' :: t))
      | t => .ok (.more t)
    else .error (.within .expectedCommaInArray (c :: r))

theorem length_of_nextElement {first : Bool} {s : List Char} :
    (∀ t, nextElement first s = .ok (.more t) → t.length ≤ s.length) ∧
      ∀ r, nextElement first s = .ok (.done r) → r.length < s.length := by
  have hs := length_skipBlanks_le s
  unfold nextElement
  split
  · simp
  · next heq =>
    simp only [heq, List.length_cons] at hs
    refine ⟨fun t h => by simp at h, fun r h => ?_⟩
    cases h
    omega
  · next c r _ heq =>
    simp only [heq, List.length_cons] at hs
    split
    · exact ⟨fun t h => by cases h; simpa using hs, fun r h => by simp at h⟩
    · split
      · have hr := length_skipBlanks_le r
        split
        · simp
        · simp
        · exact ⟨fun t h => by cases h; omega, fun r h => by simp at h⟩
      · simp

/-- The elements of an array up to its end. Those already read are given in reverse. -/
def elements {α : Type} (reader : Reader α) (first : Bool) (xs : List α) (s : List Char) :
    Except Fault (List α × List Char) :=
  match _hn : nextElement first s with
  | .error f => .error f
  | .ok (.done r) => .ok (xs.reverse, r)
  | .ok (.more t) =>
    match _hr : reader.run t with
    | .error f => .error f
    | .ok (x, r) => elements reader false (x :: xs) r
termination_by s.length
decreasing_by
  have := length_of_nextElement.1 _ _hn
  have := reader.shortens _hr
  omega

theorem length_lt_of_elements {α : Type} (reader : Reader α) (first : Bool) (xs : List α) :
    Shortens (elements reader first xs) := by
  intro s ys r h
  fun_induction elements reader first xs s with
  | case1 => simp at h
  | case2 first xs s r' hn =>
    cases h
    exact length_of_nextElement.2 _ hn
  | case3 => simp at h
  | case4 first xs s t hn x r' hr ih =>
    have := ih h
    have := reader.shortens hr
    have := length_of_nextElement.1 _ hn
    omega

def Reader.list {α : Type} (reader : Reader α) : Reader (List α) where
  run s :=
    match lead s with
    | .error f => .error f
    | .ok (.array, r) => elements reader true [] r
    | .ok (found, r) => .error (found.mismatch .array r)
  shortens s xs r h := by
    dsimp only at h
    split at h
    · simp at h
    · next h' => exact Nat.lt_trans (length_lt_of_elements _ _ _ h) (length_lt_of_lead h')
    · simp at h

/-! ## Enumerations -/

/-- The value that a name stands for, the name being read up to `rest`. -/
def variant {α : Type} (known : List (String × α)) (name rest : List Char) : Except Fault α :=
  match known.lookup (String.ofList name) with
  | some x => .ok x
  | none => .error (.before (.unknownVariant (String.ofList name) (known.map (·.1))) rest)

/-- The null after the name that is the one key of an object, and the end of the object. -/
def unitMember (s : List Char) : Except Fault (List Char) := do
  let s ← colon s
  let (_, s) ← Reader.unit.run s
  match skipBlanks s with
  | '\x7d' :: r => pure r
  | [] => .error (.before .endInObject [])
  | r => .error (.before .expectedValue r)

theorem length_lt_of_unitMember {s r : List Char} (h : unitMember s = .ok r) :
    r.length < s.length := by
  obtain ⟨s₁, h₁, h⟩ := bind_eq_ok.mp h
  obtain ⟨⟨u, s₂⟩, h₂, h⟩ := bind_eq_ok.mp h
  have := length_lt_of_colon h₁
  have := Reader.unit.shortens h₂
  have hs := length_skipBlanks_le s₂
  dsimp only at h
  split at h
  · next heq =>
    cases h
    simp only [heq, List.length_cons] at hs
    omega
  · simp at h
  · simp at h

/-- Reads one of the known names, alone or as the one key of an object with the value null. -/
def Reader.oneOf {α : Type} (known : List (String × α)) : Reader α where
  run s :=
    match skipBlanks s with
    | [] => .error (.within .endInValue [])
    | '"' :: r => do
      let (name, r) ← Json.text [] r
      let x ← variant known name r
      pure (x, r)
    | '\x7b' :: r =>
      match skipBlanks r with
      | [] => .error (.within .endInObject [])
      | '"' :: r => do
        let (name, r) ← Json.text [] r
        let x ← variant known name r
        let r ← unitMember r
        pure (x, r)
      | '\x7d' :: r => .error (.within .expectedValue ('\x7d' :: r))
      | r => .error (.within .keyNotString r)
    | t => .error (.within .expectedValue t)
  shortens s x r h := by
    have hs := length_skipBlanks_le s
    dsimp only at h
    split at h
    · simp at h
    · next heq =>
      obtain ⟨⟨name, r₁⟩, h₁, h⟩ := bind_eq_ok.mp h
      obtain ⟨y, -, h⟩ := bind_eq_ok.mp h
      have := length_lt_of_text _ h₁
      cases h
      simp only [heq, List.length_cons] at hs
      dsimp only
      omega
    · next t heq =>
      simp only [heq, List.length_cons] at hs
      have ht := length_skipBlanks_le t
      split at h
      · simp at h
      · next heq' =>
        obtain ⟨⟨name, r₁⟩, h₁, h⟩ := bind_eq_ok.mp h
        obtain ⟨y, -, h⟩ := bind_eq_ok.mp h
        obtain ⟨r₂, h₂, h⟩ := bind_eq_ok.mp h
        have := length_lt_of_text _ h₁
        have := length_lt_of_unitMember h₂
        cases h
        simp only [heq', List.length_cons] at ht
        dsimp only at *
        omega
      · simp at h
      · simp at h
    · simp at h

/-! ## Whole texts -/

/-- Reads a text that holds one value and nothing else. -/
def Reader.decode {α : Type} (reader : Reader α) (input : String) : Except Error α :=
  let cs := input.toList
  match reader.run cs with
  | .error f => .error (f.locate cs)
  | .ok (x, r) =>
    match skipBlanks r with
    | [] => .ok x
    | t => .error ((Fault.within .trailingCharacters t).locate cs)

end CatalogTypes.Json
