import CatalogTypes.Proofs.Readings
import Mathlib.Data.List.Perm.Basic

/-!
# Objects with members permuted or left out

A writer gives the members of every object in one order and leaves none out. A reader takes more
than that: `Shape.Recasts` says which values stand for one that was written, and `Reader.Reads` that
a reader reads them all alike. What a record reader has seen of an object at some point depends on
the names read so far and not on their order; `Fields.Fills` gives the draft for any such names.
-/

namespace CatalogTypes.Json

open Text (quote escapeChar)

/-! ## Shapes -/

/-- Which parts of a value may be left out, and in which places objects may be permuted. -/
inductive Shape where
  /-- The value as it is. -/
  | plain
  /-- An array of values of one shape. -/
  | list (element : Shape)
  /-- An object whose members may be permuted. A member may be left out if it holds its default. -/
  | record (member : String → Shape) (default? : String → Option Value)

/-- Members of an object: each of them as `R` allows, or left out if it holds its default. -/
inductive Trims (R : String → Value → Value → Prop) (default? : String → Option Value) :
    List (String × Value) → List (String × Value) → Prop
  | nil : Trims R default? [] []
  | keep {name : String} {v v' : Value} {ms ms' : List (String × Value)} (h : R name v v')
      (rest : Trims R default? ms ms') : Trims R default? ((name, v) :: ms) ((name, v') :: ms')
  | drop {name : String} {v : Value} {ms ms' : List (String × Value)}
      (h : default? name = some v) (rest : Trims R default? ms ms') :
      Trims R default? ((name, v) :: ms) ms'

namespace Shape

/-- The second value is the first one with objects permuted and defaults left out, as far as the
shape allows. -/
def Recasts : Shape → Value → Value → Prop
  | list element, .array vs, .array vs' => List.Forall₂ element.Recasts vs vs'
  | record member default?, .object ms, .object ms' =>
    ∃ kept, Trims (fun name => (member name).Recasts) default? ms kept ∧ kept.Perm ms'
  | _, v, v' => v' = v

/-- An object with the shapes of some of its members and the defaults of some. -/
def object (members : List (String × Shape)) (defaults : List (String × Value)) : Shape :=
  record (fun name => (members.lookup name).getD plain) fun name => defaults.lookup name

end Shape

namespace Trims

variable {R : String → Value → Value → Prop} {default? : String → Option Value}
  {ms ms' : List (String × Value)}

theorem refl (h : ∀ name v, R name v v) (ms : List (String × Value)) : Trims R default? ms ms := by
  induction ms with
  | nil => exact .nil
  | cons m ms ih => exact .keep (h m.1 m.2) ih

/-- What is kept comes from a member of the name. -/
theorem exists_of_mem (h : Trims R default? ms ms') :
    ∀ m ∈ ms', ∃ v, (m.1, v) ∈ ms ∧ R m.1 v m.2 := by
  induction h with
  | nil => simp
  | keep h _ ih =>
    intro m hm
    rcases List.mem_cons.mp hm with rfl | hm
    · exact ⟨_, List.mem_cons_self, h⟩
    · obtain ⟨v, hv, hR⟩ := ih m hm
      exact ⟨v, List.mem_cons_of_mem _ hv, hR⟩
  | drop _ _ ih =>
    intro m hm
    obtain ⟨v, hv, hR⟩ := ih m hm
    exact ⟨v, List.mem_cons_of_mem _ hv, hR⟩

theorem names_sublist (h : Trims R default? ms ms') :
    (ms'.map (·.1)).Sublist (ms.map (·.1)) := by
  induction h with
  | nil => exact .slnil
  | keep _ _ ih => exact ih.cons_cons _
  | drop _ _ ih => exact ih.cons _

/-- A member whose name is gone holds its default. -/
theorem default?_of_not_mem (h : Trims R default? ms ms') :
    ∀ m ∈ ms, m.1 ∉ ms'.map (·.1) → default? m.1 = some m.2 := by
  induction h with
  | nil => simp
  | keep _ _ ih =>
    intro m hm gone
    rcases List.mem_cons.mp hm with rfl | hm
    · simp at gone
    · exact ih m hm fun mem => gone (List.mem_cons_of_mem _ mem)
  | drop h _ ih =>
    intro m hm gone
    rcases List.mem_cons.mp hm with rfl | hm
    · exact h
    · exact ih m hm gone

end Trims

namespace Shape

theorem Recasts.refl (shape : Shape) (v : Value) : shape.Recasts v v := by
  induction shape generalizing v with
  | plain => rfl
  | list element ih =>
    cases v with
    | array vs => exact List.forall₂_same.mpr fun v _ => ih v
    | _ => rfl
  | record member default? ih =>
    cases v with
    | object ms => exact ⟨ms, .refl ih ms, .refl ms⟩
    | _ => rfl

theorem Recasts.array {element : Shape} {vs : List Value} {v' : Value}
    (h : (list element).Recasts (.array vs) v') :
    ∃ vs', v' = .array vs' ∧ List.Forall₂ element.Recasts vs vs' := by
  cases v' with
  | array vs' => exact ⟨vs', rfl, h⟩
  | _ => cases h

theorem Recasts.object {member : String → Shape} {default? : String → Option Value}
    {ms : List (String × Value)} {v' : Value}
    (h : (record member default?).Recasts (.object ms) v') :
    ∃ kept ms', v' = .object ms' ∧ Trims (fun name => (member name).Recasts) default? ms kept ∧
      kept.Perm ms' := by
  cases v' with
  | object ms' =>
    obtain ⟨kept, trims, perm⟩ := h
    exact ⟨kept, ms', rfl, trims, perm⟩
  | _ => cases h

end Shape

/-! ## Readings -/

variable {α D E V W : Type}

/-- The reader takes every recast of `v` as `x`. -/
def Reader.Reads (reader : Reader α) (shape : Shape) (x : α) (v : Value) : Prop :=
  ∀ v', shape.Recasts v v' → reader.Takes x v'

theorem Reader.Takes.reads {reader : Reader α} {x : α} {v : Value} (h : reader.Takes x v) :
    reader.Reads .plain x v := by
  intro v' recast
  obtain rfl : v' = v := by simpa [Shape.Recasts] using recast
  exact h

theorem Reader.Reads.map {β : Type} {reader : Reader α} {shape : Shape} {x : α} {v : Value}
    (h : reader.Reads shape x v) (f : α → β) : (reader.map f).Reads shape (f x) v :=
  fun v' recast => (h v' recast).map f

theorem Reader.reads_list {reader : Reader α} {element : Shape} {write : α → Value}
    (h : ∀ x, reader.Reads element x (write x)) (xs : List α) :
    reader.list.Reads (.list element) xs (.array (xs.map write)) := by
  intro v' recast
  obtain ⟨vs, rfl, recasts⟩ := recast.array
  refine Reader.takes_list ?_
  rw [List.forall₂_map_left_iff] at recasts
  exact recasts.imp fun x v' recast => h x v' recast

/-! ## Members -/

/-- From a draft that is made from other names, the slot of the member takes it. -/
def TakesMember (slots : List (Slot D)) (draft : List String → D) (m : String × Value) : Prop :=
  ∃ slot, slots.find? (·.name == m.1) = some slot ∧
    ∀ read, m.1 ∉ read → slot.isFilled (draft read) = false ∧
      (slot.fill (draft read)).Takes (draft (m.1 :: read)) m.2

section Keys

variable {first : Bool} {name : String} {ts : List (List Char)} {cs : List Char}

theorem nextKey_done (h : Spaced (['\x7d'] :: ts) cs) :
    ∃ r, nextKey first cs = .ok (.done r) ∧ Spaced ts r := by
  obtain ⟨r, skipped, rest⟩ := h.skip_cons rfl
  refine ⟨r, ?_, rest⟩
  simp only [nextKey, skipped, List.nil_append]

theorem nextKey_first (h : Spaced ((quote name).toList :: ts) cs) :
    ∃ r, nextKey true cs = .ok (.more (name.toList.flatMap escapeChar ++ '"' :: r)) ∧
      Spaced ts r := by
  obtain ⟨r, skipped, rest⟩ := h.skip_quote
  refine ⟨r, ?_, rest⟩
  unfold nextKey
  rw [skipped]
  rfl

theorem nextKey_later (h : Spaced ([','] :: (quote name).toList :: ts) cs) :
    ∃ r, nextKey false cs = .ok (.more (name.toList.flatMap escapeChar ++ '"' :: r)) ∧
      Spaced ts r := by
  obtain ⟨s, comma, rest⟩ := h.skip_cons rfl
  obtain ⟨r, skipped, rest⟩ := rest.skip_quote
  refine ⟨r, ?_, rest⟩
  unfold nextKey
  rw [comma]
  split
  · next heq => cases heq
  · next heq => exact absurd (List.cons.inj heq).1 (by decide)
  · next heq =>
    obtain ⟨rfl, rfl⟩ := List.cons.inj heq
    rw [if_neg (by decide), if_pos rfl, List.nil_append, skipped]
    rfl

theorem colon_eq (h : Spaced ([':'] :: ts) cs) : ∃ r, colon cs = .ok r ∧ Spaced ts r := by
  obtain ⟨r, skipped, rest⟩ := h.skip_cons rfl
  refine ⟨r, ?_, rest⟩
  simp only [colon, skipped, List.nil_append]

end Keys

section Members

variable {slots : List (Slot D)} {first : Bool} {d : D} {s : List Char}

theorem members_done {r : List Char} (h : nextKey first s = .ok (.done r)) :
    members slots first d s = .ok (d, r) := by
  rw [members]
  split
  all_goals simp_all

theorem members_more {t u r : List Char} {name : List Char} {d' : D}
    (h : nextKey first s = .ok (.more t)) (ht : text [] t = .ok (name, u))
    (hm : member slots d (String.ofList name) u = .ok (d', r)) :
    members slots first d s = members slots false d' r := by
  rw [members]
  split
  · next heq => simp [h] at heq
  · next heq => simp [h] at heq
  · next heq =>
    obtain rfl : t = _ := by simpa [h] using heq
    split
    · next heq => simp [ht] at heq
    · next heq =>
      obtain ⟨rfl, rfl⟩ : name = _ ∧ u = _ := by simpa [ht] using heq
      split
      · next heq => simp [hm] at heq
      · next heq =>
        obtain ⟨rfl, rfl⟩ : d' = _ ∧ r = _ := by simpa [hm] using heq
        rfl

variable {draft : List String → D} {m : String × Value} {ms : List (String × Value)}
  {read : List String} {ts : List (List Char)} {cs : List Char}

/-- A member whose key stands next is read into the draft. -/
theorem members_key (h : TakesMember slots draft m) (new : m.1 ∉ read) {u : List Char}
    (next : nextKey first cs = .ok (.more (m.1.toList.flatMap escapeChar ++ '"' :: u)))
    (follows : Follows ts) (spaced : Spaced ([':'] :: (m.2.tokens ++ ts)) u) :
    ∃ r, members slots first (draft read) cs = members slots false (draft (m.1 :: read)) r ∧
      Spaced ts r := by
  obtain ⟨slot, found, takes⟩ := h
  obtain ⟨unfilled, takes⟩ := takes read new
  obtain ⟨s, colon, spaced⟩ := colon_eq spaced
  obtain ⟨r, run, rest⟩ := takes follows spaced
  refine ⟨r, members_more next (text_quoted _ _) ?_, rest⟩
  rw [String.ofList_toList, member, found]
  simp only [unfilled, Bool.false_eq_true, if_false]
  exact bind_eq_ok.mpr ⟨s, colon, run⟩

theorem members_later (h : ∀ m ∈ ms, TakesMember slots draft m)
    (distinct : (ms.map (·.1) ++ read).Nodup)
    (spaced : Spaced (Value.laterMembers ms ++ ['\x7d'] :: ts) cs) :
    ∃ r, members slots false (draft read) cs = .ok (draft ((ms.map (·.1)).reverse ++ read), r) ∧
      Spaced ts r := by
  -- With each member its name goes over to those read; all of them stay distinct.
  induction ms generalizing read cs with
  | nil =>
    obtain ⟨r, next, rest⟩ := nextKey_done spaced
    exact ⟨r, members_done next, rest⟩
  | cons m ms ih =>
    have new : m.1 ∉ read := fun mem =>
      (List.nodup_cons.mp distinct).1 (List.mem_append_right _ mem)
    rw [Value.laterMembers, List.flatMap_cons, List.append_assoc, Value.pairTokens_eq,
      List.cons_append] at spaced
    obtain ⟨u, next, spaced⟩ := nextKey_later spaced
    obtain ⟨s, step, spaced⟩ := members_key (h m List.mem_cons_self) new next
      (follows_laterMembers ms ts) spaced
    have distinct : (ms.map (·.1) ++ m.1 :: read).Nodup :=
      List.perm_middle.nodup_iff.mpr distinct
    obtain ⟨r, later, rest⟩ :=
      ih (fun m' hm' => h m' (List.mem_cons_of_mem _ hm')) distinct spaced
    exact ⟨r, by rw [step, later]; simp, rest⟩

/-- All members of an object are read, whatever their order. -/
theorem members_eq (h : ∀ m ∈ ms, TakesMember slots draft m) (distinct : (ms.map (·.1)).Nodup)
    (spaced : Spaced (Value.memberTokens ms ++ ['\x7d'] :: ts) cs) :
    ∃ r, members slots true (draft []) cs = .ok (draft (ms.map (·.1)).reverse, r) ∧
      Spaced ts r := by
  cases ms with
  | nil =>
    obtain ⟨r, next, rest⟩ := nextKey_done spaced
    exact ⟨r, members_done next, rest⟩
  | cons m ms =>
    rw [Value.memberTokens_cons, Value.pairTokens_eq, List.append_assoc] at spaced
    obtain ⟨u, next, spaced⟩ := nextKey_first spaced
    obtain ⟨s, step, spaced⟩ := members_key (h m List.mem_cons_self) List.not_mem_nil next
      (follows_laterMembers ms ts) spaced
    have distinct : (ms.map (·.1) ++ [m.1]).Nodup :=
      List.perm_append_singleton _ _ |>.nodup_iff.mpr distinct
    obtain ⟨r, later, rest⟩ :=
      members_later (fun m' hm' => h m' (List.mem_cons_of_mem _ hm')) distinct spaced
    exact ⟨r, by rw [step, later]; simp, rest⟩

end Members

/-! ## Records -/

/-- The members `ms` tell the fields of the record `x`, and `draft` is what is known of it once the
members of some names have been read. -/
structure Fields.Fills (fields : Fields D V) (member : String → Shape)
    (default? : String → Option Value) (x : V) (ms : List (String × Value))
    (draft : List String → D) : Prop where
  blank : draft [] = fields.blank
  congr : ∀ {read read' : List String}, (∀ m ∈ ms, m.1 ∈ read ↔ m.1 ∈ read') →
    draft read = draft read'
  slot : ∀ m ∈ ms, ∃ slot, fields.slots.find? (·.name == m.1) = some slot ∧
    ∀ read, m.1 ∉ read → slot.isFilled (draft read) = false ∧
      (slot.fill (draft read)).Reads (member m.1) (draft (m.1 :: read)) m.2
  finish : ∀ read, (∀ m ∈ ms, m.1 ∉ read → default? m.1 = some m.2) →
    fields.finish (draft read) = .ok x

/-- The members tell the fields of the record. -/
def Fields.Tells (fields : Fields D V) (member : String → Shape)
    (default? : String → Option Value) (x : V) (ms : List (String × Value)) : Prop :=
  ∃ draft, fields.Fills member default? x ms draft

theorem Slot.find?_onSnd {slots : List (Slot E)} {name : String} {slot : Slot E}
    (found : slots.find? (·.name == name) = some slot) :
    (slots.map (Slot.onSnd (D := D))).find? (·.name == name) = some slot.onSnd := by
  rw [List.find?_map]
  exact congrArg (Option.map Slot.onSnd) found

namespace Fields

variable {member : String → Shape} {default? : String → Option Value} {name : String}
  {reader : Reader V} {x : V} {v : Value} {standard? : Option V}

theorem fills_single (reads : reader.Reads (member name) x v)
    (standard : default? name = some v → standard? = some x) :
    (single name reader standard?).Fills member default? x [(name, v)]
      fun read => if name ∈ read then some x else none := by
  constructor
  case blank => rfl
  case congr =>
    intro read read' same
    have same := same (name, v) (by simp)
    simp only [same]
  case slot =>
    intro m hm
    obtain rfl := List.mem_singleton.mp hm
    refine ⟨_, List.find?_cons_of_pos (by simp), fun read new => ?_⟩
    simp only [new, if_false, List.mem_cons_self, if_true]
    exact ⟨rfl, reads.map some⟩
  case finish =>
    intro read left
    by_cases seen : name ∈ read
    · simp only [seen, if_true]
      rfl
    · have standard := standard (left (name, v) (by simp) seen)
      simp only [seen, if_false, standard]
      rfl

theorem tells_single (reads : reader.Reads (member name) x v)
    (standard : default? name = some v → standard? = some x) :
    (single name reader standard?).Tells member default? x [(name, v)] :=
  ⟨_, fills_single reads standard⟩

/-- A field in front of others, told by a member of another name than theirs. -/
theorem Tells.cons {more : Fields E W} {y : W} {ms : List (String × Value)}
    (h : more.Tells member default? y ms) (reads : reader.Reads (member name) x v)
    (standard : default? name = some v → standard? = some x) (new : ∀ m ∈ ms, m.1 ≠ name) :
    ((single name reader standard?).and more).Tells member default? (x, y) ((name, v) :: ms) := by
  obtain ⟨draft, h⟩ := h
  have first := fills_single reads standard
  refine ⟨fun read => (if name ∈ read then some x else none, draft read), ?_⟩
  constructor
  case blank => exact Prod.ext first.blank h.blank
  case congr =>
    intro read read' same
    refine Prod.ext (first.congr fun m hm => ?_) (h.congr fun m hm => ?_)
    · exact same m (by simp_all)
    · exact same m (List.mem_cons_of_mem _ hm)
  case slot =>
    intro m hm
    rcases List.mem_cons.mp hm with rfl | hm
    · refine ⟨_, List.find?_cons_of_pos (by simp [Slot.onFst]), fun read left => ?_⟩
      have same : draft (name :: read) = draft read :=
        h.congr fun m hm => by simp [new m hm]
      simp only [left, if_false, List.mem_cons_self, if_true, same]
      exact ⟨rfl, (reads.map some).map (·, draft read)⟩
    · obtain ⟨slot, found, fills⟩ := h.slot m hm
      refine ⟨slot.onSnd, ?_, fun read left => ?_⟩
      · refine (List.find?_cons_of_neg ?_).trans (Slot.find?_onSnd found)
        simpa [Slot.onFst] using (new m hm).symm
      · obtain ⟨unfilled, fills⟩ := fills read left
        have same : name ∈ m.1 :: read ↔ name ∈ read := by simp [(new m hm).symm]
        simp only [same]
        exact ⟨unfilled, fills.map _⟩
  case finish =>
    intro read left
    have value := first.finish read fun m hm => left m (by simp_all)
    have values := h.finish read fun m hm => left m (List.mem_cons_of_mem _ hm)
    simp only [Fields.and, value, values, bind, Except.bind, pure, Except.pure]

theorem Tells.map {fields : Fields D V} {ms : List (String × Value)}
    (h : fields.Tells member default? x ms) (f : V → W) :
    (fields.map f).Tells member default? (f x) ms := by
  obtain ⟨draft, h⟩ := h
  exact ⟨draft, {
    blank := h.blank
    congr := h.congr
    slot := h.slot
    finish := fun read left => by simp only [Fields.map, h.finish read left, Except.map] }⟩

end Fields

/-- A record is read from every recast of its object. -/
theorem Reader.reads_record {fields : Fields D V} {member : String → Shape}
    {default? : String → Option Value} {x : V} {ms : List (String × Value)}
    (h : fields.Tells member default? x ms) (distinct : (ms.map (·.1)).Nodup) (name : String) :
    (Reader.record name fields).Reads (.record member default?) x (.object ms) := by
  intro v' recast ts cs _ spaced
  obtain ⟨draft, h⟩ := h
  obtain ⟨kept, ms', rfl, trims, perm⟩ := recast.object
  have takes : ∀ m ∈ ms', TakesMember fields.slots draft m := by
    intro m hm
    obtain ⟨v, hv, recast⟩ := trims.exists_of_mem m (perm.mem_iff.mpr hm)
    obtain ⟨slot, found, fills⟩ := h.slot _ hv
    refine ⟨slot, found, fun read new => ?_⟩
    obtain ⟨unfilled, reads⟩ := fills read new
    exact ⟨unfilled, reads m.2 recast⟩
  have names := perm.map (·.1)
  have distinct' : (ms'.map (·.1)).Nodup :=
    names.nodup_iff.mp (trims.names_sublist.nodup distinct)
  have finish : fields.finish (draft (ms'.map (·.1)).reverse) = .ok x := by
    refine h.finish _ fun m hm gone => trims.default?_of_not_mem m hm fun mem => gone ?_
    exact List.mem_reverse.mpr (names.mem_iff.mp mem)
  rw [Value.tokens, List.cons_append, List.cons_append, List.append_assoc] at spaced
  obtain ⟨s, skipped, spaced⟩ := spaced.skip_cons rfl
  have front : lead cs = .ok (.object, s) := by
    unfold lead
    rw [skipped]
    rfl
  obtain ⟨r, read, rest⟩ := members_eq takes distinct' spaced
  rw [h.blank] at read
  refine ⟨r, ?_, rest⟩
  simp only [Reader.record, front, reduceCtorEq, if_false, read, finish]

end CatalogTypes.Json
