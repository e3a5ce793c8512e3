import CatalogTypes.Proofs.FieldTypes

/-!
# Array markers

Underscores in front of a name and brackets behind it come to as many lists around what the name
denotes by itself (`Index.resolve_withMarkers`). The name that is left is the one that a warning is
about, and null can only be around all of the lists.
-/

namespace CatalogTypes

/-! ## Names with markers -/

def bars (n : Nat) : List Char := List.replicate n '_'

def brackets (n : Nat) : List Char := (List.replicate n ['[', ']']).flatten

theorem brackets_succ (n : Nat) : brackets (n + 1) = brackets n ++ ['[', ']'] := by
  rw [brackets, List.replicate_succ', List.flatten_concat, brackets]

/-- `element` with `before` underscores in front of it and `behind` pairs of brackets behind it. -/
def withMarkers (before : Nat) (element : String) (behind : Nat) : String :=
  String.ofList (bars before ++ element.toList ++ brackets behind)

@[simp] theorem withMarkers_zero (element : String) : withMarkers 0 element 0 = element := by
  simp [withMarkers, bars, brackets]

example : withMarkers 2 "text" 1 = "__text[]" := by decide

/-- The name has something in it and no marker at either end. -/
structure IsBare (element : String) : Prop where
  ne_empty : element ≠ ""
  unbarred : ¬ ['_'] <+: element.toList
  unbracketed : ¬ ['[', ']'] <:+ element.toList

namespace IsBare

variable {element : String} (bare : IsBare element)

include bare

theorem toList_ne_nil : element.toList ≠ [] := fun h =>
  bare.ne_empty (String.toList_inj.mp (h.trans rfl))

theorem not_marks (inner : List Char) : ¬ Marks element.toList inner := by
  rintro ⟨-, h | ⟨h, -⟩⟩
  · exact bare.unbracketed (h ▸ List.suffix_append ..)
  · exact bare.unbarred (h ▸ List.prefix_append ['_'] inner)

end IsBare

/-! ## Taking markers off -/

/-- No bracket of a pair is an underscore, so underscores in front make no pair at the end. -/
theorem not_suffix_bars {inner : List Char} (h : ¬ ['[', ']'] <:+ inner) (n : Nat) :
    ¬ ['[', ']'] <:+ bars n ++ inner := by
  induction n with
  | zero => simpa [bars] using h
  | succ n ih =>
    rw [bars, List.replicate_succ, List.cons_append, List.suffix_cons_iff]
    rintro (h | h)
    · simp at h
    · exact ih h

namespace Unwraps

variable {inner element : List Char} {layers : Nat}

theorem bars_append (ne_nil : inner ≠ []) (unbracketed : ¬ ['[', ']'] <:+ inner)
    (h : Unwraps inner layers element) (n : Nat) :
    Unwraps (bars n ++ inner) (n + layers) element := by
  induction n with
  | zero => simpa [bars] using h
  | succ n ih =>
    rw [Nat.add_right_comm]
    refine .marked ⟨?_, .inr ⟨rfl, not_suffix_bars unbracketed (n + 1)⟩⟩ ih
    exact List.append_ne_nil_of_right_ne_nil _ ne_nil

theorem append_brackets (ne_nil : inner ≠ []) (h : Unwraps inner layers element) (n : Nat) :
    Unwraps (inner ++ brackets n) (layers + n) element := by
  induction n with
  | zero => simpa [brackets] using h
  | succ n ih =>
    rw [brackets_succ, ← List.append_assoc]
    exact .marked ⟨List.append_ne_nil_of_left_ne_nil ne_nil _, .inl rfl⟩ ih

end Unwraps

theorem IsBare.unwraps {element : String} (bare : IsBare element) (before behind : Nat) :
    Unwraps (withMarkers before element behind).toList (before + behind) element.toList := by
  rw [withMarkers, String.toList_ofList]
  have core : Unwraps element.toList 0 element.toList := .bare bare.not_marks
  have ne_nil := List.append_ne_nil_of_right_ne_nil (bars before) bare.toList_ne_nil
  exact (core.bars_append bare.toList_ne_nil bare.unbracketed before).append_brackets ne_nil behind

/-- Of markers alone the one in the middle is left: it has no name for its elements. -/
theorem unwraps_markers {before behind : Nat} (h : 0 < before + behind) :
    Unwraps (withMarkers before "" behind).toList (before + behind - 1)
      (if before = 0 then ['[', ']'] else ['_']) := by
  rw [withMarkers, String.toList_ofList, String.toList_empty, List.append_nil]
  cases before with
  | zero =>
    obtain ⟨behind, rfl⟩ := Nat.exists_eq_add_one.mpr (Nat.zero_add behind ▸ h)
    have core : Unwraps ['[', ']'] 0 ['[', ']'] :=
      .bare fun inner => by simp [← elementChars?_eq_some_iff, elementChars?]
    have pairs : brackets (behind + 1) = ['[', ']'] ++ brackets behind := rfl
    simpa [bars, pairs] using core.append_brackets (by simp) behind
  | succ before =>
    have core : Unwraps ['_'] 0 ['_'] :=
      .bare fun inner => by simp [← elementChars?_eq_some_iff, elementChars?]
    have split : bars (before + 1) = bars before ++ ['_'] := List.replicate_succ'
    rw [split, if_neg (Nat.succ_ne_zero before), Nat.succ_add_sub_one]
    exact (core.bars_append (by simp) (by decide) before).append_brackets (by simp) behind

/-- The name that is left has no marker. -/
theorem Unwraps.elementChars?_eq_none {format element : List Char} {layers : Nat}
    (h : Unwraps format layers element) : elementChars? element = none := by
  induction h with
  | bare h => exact elementChars?_eq_none_iff.mpr h
  | marked _ _ ih => exact ih

/-- Every name is one without markers that has markers put on it. -/
theorem Unwraps.exists_withMarkers {format element : List Char} {layers : Nat}
    (h : Unwraps format layers element) :
    ∃ before behind, before + behind = layers ∧
      String.ofList format = withMarkers before (String.ofList element) behind := by
  induction h with
  | bare => exact ⟨0, 0, rfl, (withMarkers_zero _).symm⟩
  | marked h _ ih =>
    obtain ⟨before, behind, rfl, text⟩ := ih
    rw [withMarkers, String.ofList_inj] at text
    rcases h with ⟨-, rfl | ⟨rfl, -⟩⟩
    · refine ⟨before, behind + 1, rfl, ?_⟩
      rw [withMarkers, String.ofList_inj, text, brackets_succ, ← List.append_assoc]
    · refine ⟨before + 1, behind, Nat.add_right_comm .., ?_⟩
      rw [withMarkers, String.ofList_inj, text]
      rfl

/-- Every marker that is taken off makes the name shorter. -/
theorem wellFounded_elementFormat? :
    WellFounded fun inner format => elementFormat? format = some inner := by
  refine Subrelation.wf ?_ (measure fun name : String => name.toList.length).wf
  intro inner format h
  obtain ⟨chars, taken, rfl⟩ := Option.map_eq_some_iff.mp h
  change (String.ofList chars).toList.length < format.toList.length
  rw [String.toList_ofList]
  exact length_lt_of_elementChars? taken

/-! ## Meanings under markers -/

theorem Resolved.type_eq_lists (d : Dialect) (reference? : ObjectId → Option String) (layers : Nat)
    (meaning : Meaning) :
    type d reference? ⟨layers, meaning⟩ = .lists layers (type d reference? ⟨0, meaning⟩) := by
  rw [type_eq, type_eq, TargetType.lists]

namespace Index

variable (ix : Index) (isEmitted : ObjectId → Bool) (home : Option String)

theorem resolve_of_unwraps {format : String} {element : List Char} {layers : Nat}
    (h : Unwraps format.toList layers element) :
    ix.resolve isEmitted home format =
      ⟨layers, ix.meaning isEmitted home (String.ofList element)⟩ := by
  rw [resolve, unwraps_iff.mp h]

/-- A name is read by one marker after the other. -/
theorem resolve_of_elementFormat?_eq_some {format inner : String}
    (h : elementFormat? format = some inner) :
    ix.resolve isEmitted home format =
      ⟨(ix.resolve isEmitted home inner).layers + 1,
        (ix.resolve isEmitted home inner).meaning⟩ := by
  obtain ⟨chars, taken, rfl⟩ := Option.map_eq_some_iff.mp h
  have rest := unwraps_unwrapChars chars
  rw [ix.resolve_of_unwraps isEmitted home (.marked (elementChars?_eq_some_iff.mp taken) rest),
    ix.resolve_of_unwraps isEmitted home (by rwa [String.toList_ofList])]

theorem resolve_withMarkers {element : String} (bare : IsBare element) (before behind : Nat) :
    ix.resolve isEmitted home (withMarkers before element behind) =
      ⟨before + behind, ix.meaning isEmitted home element⟩ := by
  rw [ix.resolve_of_unwraps isEmitted home (bare.unwraps before behind), String.ofList_toList]

theorem resolve_of_isBare {element : String} (bare : IsBare element) :
    ix.resolve isEmitted home element = ⟨0, ix.meaning isEmitted home element⟩ := by
  simpa using ix.resolve_withMarkers isEmitted home bare 0 0

/-- A warning about a name tells the name, or the type of that name. -/
theorem eq_of_warning?_meaning {element : String} {w : Warning}
    (h : (ix.meaning isEmitted home element).warning? = some w) :
    w = .unknownBaseType element ∨
      ∃ t, ix.typeNamed? element home = some t ∧ w = .excludedTypeReference t.schema t.name := by
  unfold meaning at h
  split at h
  · simp [Meaning.warning?] at h
  · split at h
    · next t found =>
      refine .inr ⟨t, (Option.filter_eq_some_iff.mp found).1, ?_⟩
      rw [reference] at h
      split at h
      · simp [Meaning.warning?] at h
      · exact (Option.some.inj h).symm
    · exact .inl (Option.some.inj h).symm

/-- The type that a name denotes for a field. -/
def fieldType (d : Dialect) (refs : References) (nullable : Bool) (format : String) : TargetType :=
  (ix.resolve refs.contains home format).typeOrNull d (refs[·]?) nullable

variable (d : Dialect) (refs : References)

theorem fieldType_withMarkers {element : String} (bare : IsBare element) (before behind : Nat) :
    ix.fieldType home d refs false (withMarkers before element behind) =
      .lists (before + behind) (ix.fieldType home d refs false element) := by
  rw [fieldType, fieldType, ix.resolve_withMarkers refs.contains home bare,
    ix.resolve_of_isBare refs.contains home bare]
  exact Resolved.type_eq_lists d (refs[·]?) _ _

theorem fieldType_true (format : String) :
    ix.fieldType home d refs true format = .nullable (ix.fieldType home d refs false format) :=
  Resolved.typeOrNull_true d (refs[·]?) _

/-- Array markers come to lists around the type of the name that is left, and to nothing else. -/
structure NestsArrays : Prop where
  /-- A name without markers is the name of a type, outside of any list. -/
  base : ∀ element, IsBare element → ∃ name, ix.fieldType home d refs false element = .named name
  plain : ∀ element, IsBare element → ∀ before behind,
    ix.fieldType home d refs false (withMarkers before element behind) =
      .lists (before + behind) (ix.fieldType home d refs false element)
  nullable : ∀ element, IsBare element → ∀ before behind,
    ix.fieldType home d refs true (withMarkers before element behind) =
      .nullable (.lists (before + behind) (ix.fieldType home d refs false element))
  warns : ∀ element, IsBare element → ∀ before behind,
    (ix.resolve refs.contains home (withMarkers before element behind)).warning? =
      (ix.resolve refs.contains home element).warning?
  blames : ∀ element, IsBare element →
    ∀ w, (ix.resolve refs.contains home element).warning? = some w →
      w = .unknownBaseType element ∨
        ∃ t, ix.typeNamed? element home = some t ∧ w = .excludedTypeReference t.schema t.name
  step : ∀ format inner, elementFormat? format = some inner →
    ix.resolve refs.contains home format =
      ⟨(ix.resolve refs.contains home inner).layers + 1,
        (ix.resolve refs.contains home inner).meaning⟩
  /-- Steps come to an end. -/
  ends : WellFounded fun inner format => elementFormat? format = some inner
  reads : ∀ format, ∃ before element behind,
    format = withMarkers before element behind ∧ elementFormat? element = none ∧
      ix.resolve refs.contains home format =
        ⟨before + behind, ix.meaning refs.contains home element⟩
  /-- One of the markers that have no name between them is taken for a name. -/
  markers : ∀ before behind, 0 < before + behind →
    ix.resolve refs.contains home (withMarkers before "" behind) =
      ⟨before + behind - 1, ix.meaning refs.contains home (if before = 0 then "[]" else "_")⟩

theorem resolve_nestsArrays : ix.NestsArrays home d refs where
  base element bare := by
    rw [fieldType, ix.resolve_of_isBare refs.contains home bare]
    exact ⟨_, Resolved.type_eq d (refs[·]?) _⟩
  plain _ bare := ix.fieldType_withMarkers home d refs bare
  nullable element bare before behind := by
    rw [fieldType_true, ix.fieldType_withMarkers home d refs bare]
  warns element bare before behind := by
    rw [ix.resolve_withMarkers refs.contains home bare,
      ix.resolve_of_isBare refs.contains home bare]
    rfl
  blames element bare w h := by
    rw [ix.resolve_of_isBare refs.contains home bare] at h
    exact ix.eq_of_warning?_meaning refs.contains home h
  step _ _ := ix.resolve_of_elementFormat?_eq_some refs.contains home
  ends := wellFounded_elementFormat?
  reads format := by
    have unwraps := unwraps_unwrapChars format.toList
    obtain ⟨before, behind, layers, text⟩ := unwraps.exists_withMarkers
    refine ⟨before, _, behind, String.ofList_toList.symm.trans text, ?_, ?_⟩
    · rw [elementFormat?, String.toList_ofList, unwraps.elementChars?_eq_none, Option.map_none]
    · rw [ix.resolve_of_unwraps refs.contains home unwraps, layers]
  markers before behind h := by
    rw [ix.resolve_of_unwraps refs.contains home (unwraps_markers h)]
    split
    · rfl
    · rfl

end Index

end CatalogTypes
