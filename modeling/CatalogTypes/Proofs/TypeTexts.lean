import CatalogTypes.Generate
import CatalogTypes.Proofs.FieldTypes
import CatalogTypes.Proofs.Spelling

/-!
# Texts of types

A type of a field is a name inside of lists, and perhaps nullable as a whole. A language marks
nullable types with characters that no such name has where the mark stands, so the text of a type
tells whether it is nullable.
-/

namespace CatalogTypes

open Text

/-! ## Names of types that are present -/

/-- What holds for the names of scalars, the name of all values and all references holds for the
names in the types of fields. -/
theorem Grounded.elim {d : Dialect} {ix : Index} {o : Options} {P : String → Prop} {name : String}
    (scalar : ∀ scalar, P (d.scalarType scalar)) (any : P d.anyType)
    (reference : ∀ kind path, (d.Clean → IsShown path.schemaName ∧ IsShown path.name) →
      P (d.reference kind path))
    (h : Grounded d ix (d.build ix o).declarations name) : P name := by
  rcases h with ⟨s, rfl⟩ | rfl | ⟨t, refers⟩
  · exact scalar s
  · exact any
  · obtain ⟨p, hp, ⟨e, he, rfl⟩ | ⟨name, hc, rfl⟩⟩ := refers_build_iff.mp refers
    · exact reference .enumeration _ fun clean =>
        ⟨clean.isShown_name_plan ix o p hp, clean.isShown_enums_plan ix o p hp _ he⟩
    · exact reference .composite _ fun clean =>
        ⟨clean.isShown_name_plan ix o p hp, clean.isShown_composites_plan ix o p hp _ hc⟩

theorem Go.clean : Go.dialect.Clean := by
  constructor
  case escaping => simp [Go.dialect, Go.convention]
  all_goals
    intros
    simp only [Go.dialect]
    exact isClean_typeName _

theorem Python.clean : Python.dialect.Clean := by
  constructor
  case escaping => simp [Python.dialect, Python.convention]
  all_goals
    intros
    simp only [Python.dialect]
    exact isClean_typeName _

theorem Swift.clean : Swift.dialect.Clean := by
  constructor
  case escaping => simp [Swift.dialect, Swift.convention]
  case namespaceName =>
    intro schema
    simp only [Swift.dialect]
    exact (isClean_typeName schema).append (by decide)
  all_goals
    intros
    simp only [Swift.dialect]
    exact isClean_typeName _

/-- Where lists are written by brackets, all other characters are those of the innermost name. -/
theorem not_mem_text_lists {text : TargetType → String} {c : Char} (hc : c ≠ '[' ∧ c ≠ ']')
    (list : ∀ element, c ∈ (text (.list element)).toList →
      c = '[' ∨ c = ']' ∨ c ∈ (text element).toList)
    {t : TargetType} (h : c ∉ (text t).toList) (n : Nat) : c ∉ (text (.lists n t)).toList := by
  induction n with
  | zero => exact h
  | succ n ih =>
    intro mem
    rcases list _ mem with hopen | hclose | inner
    · exact hc.1 hopen
    · exact hc.2 hclose
    · exact ih inner

/-! ## TypeScript -/

namespace TypeScript

theorem getLast?_typeText_lists {name : String} (h : name.toList.getLast? ≠ some 'l') (n : Nat) :
    (typeText (.lists n (.named name))).toList.getLast? ≠ some 'l' := by
  cases n with
  | zero => exact h
  | succ n =>
    have plain : (TargetType.lists n (.named name)).isNullable = false := by cases n <;> rfl
    rw [TargetType.lists, typeText, if_neg (by simp [plain])]
    simp

theorem getLast?_name {ix : Index} {o : Options} {name : String}
    (h : Grounded dialect ix (dialect.build ix o).declarations name) :
    name.toList.getLast? ≠ some 'l' := by
  refine h.elim (P := fun name => name.toList.getLast? ≠ some 'l') ?_ (by decide) ?_
  · intro scalar
    cases scalar <;> decide
  · intro kind path _
    obtain ⟨start, closed⟩ : ∃ start, dialect.reference kind path = start ++ "]" := ⟨_, rfl⟩
    rw [closed, String.toList_append, List.getLast?_append]
    simp

/-- The text of a type that does not admit null does not end in the mark of those that do. -/
theorem typeText_lists_ne {ix : Index} {o : Options} {name : String}
    (h : Grounded dialect ix (dialect.build ix o).declarations name) (n : Nat) (inner : String) :
    typeText (.lists n (.named name)) ≠ inner ++ " | null" := by
  intro heq
  have last := getLast?_typeText_lists (getLast?_name h) n
  rw [heq] at last
  simp at last

end TypeScript

/-! ## Swift -/

namespace Swift

theorem question_not_mem_name {ix : Index} {o : Options} {name : String}
    (h : Grounded dialect ix (dialect.build ix o).declarations name) : '?' ∉ name.toList := by
  refine h.elim (P := fun name => '?' ∉ name.toList) ?_ (by decide) ?_
  · intro scalar
    cases scalar <;> decide
  · intro kind path shown
    obtain ⟨schemaName, name⟩ := shown clean
    have schemaName := schemaName.not_mem (c := '?') (by decide) (by decide)
    have name := name.not_mem (c := '?') (by decide) (by decide)
    simp [dialect, reference, schemaName, name]

theorem typeText_lists_ne {ix : Index} {o : Options} {name : String}
    (h : Grounded dialect ix (dialect.build ix o).declarations name) (n : Nat) (inner : String) :
    typeText (.lists n (.named name)) ≠ inner ++ "?" := by
  intro heq
  have noMark : '?' ∉ (typeText (.lists n (.named name))).toList :=
    not_mem_text_lists (by decide) (by simp [typeText]) (question_not_mem_name h) n
  exact noMark (by simp [heq])

end Swift

/-! ## Go -/

namespace Go

/-- The types that admit `nil` as they are. -/
def HasNil (type : String) : Prop :=
  type = "interface\x7b\x7d" ∨ (∃ rest, type = "[]" ++ rest) ∨ ∃ rest, type = "map[" ++ rest

theorem toList_prefix_iff {start text : String} :
    start.toList <+: text.toList ↔ ∃ rest, text = start ++ rest := by
  constructor
  · rintro ⟨rest, h⟩
    exact ⟨String.ofList rest, String.toList_inj.mp (by simp [h])⟩
  · rintro ⟨rest, rfl⟩
    simp

theorem isNilable_iff (type : String) : isNilable type ↔ HasNil type := by
  simp only [isNilable, HasNil, Bool.or_eq_true, beq_iff_eq, List.isPrefixOf_iff_prefix,
    ← toList_prefix_iff, or_assoc]
  rfl

theorem star_not_mem_name {ix : Index} {o : Options} {name : String}
    (h : Grounded dialect ix (dialect.build ix o).declarations name) : '*' ∉ name.toList := by
  refine h.elim (P := fun name => '*' ∉ name.toList) ?_ (by decide) ?_
  · intro scalar
    cases scalar <;> decide
  · intro kind path shown
    exact (shown clean).2.not_mem (by decide) (by decide)

theorem star_not_mem_typeText {ix : Index} {o : Options} {name : String}
    (h : Grounded dialect ix (dialect.build ix o).declarations name) (n : Nat) :
    '*' ∉ (typeText (.lists n (.named name))).toList :=
  not_mem_text_lists (by decide) (by simp [typeText]) (star_not_mem_name h) n

/-- A type is made nullable by its own `nil`, or by one pointer to it. -/
theorem typeText_nullable (t : TargetType) :
    HasNil (typeText t) ∧ typeText (.nullable t) = typeText t ∨
      ¬ HasNil (typeText t) ∧ typeText (.nullable t) = "*" ++ typeText t := by
  rw [← isNilable_iff]
  cases h : isNilable (typeText t) with
  | true => exact .inl ⟨rfl, by simp [typeText, h]⟩
  | false => exact .inr ⟨by simp, by simp [typeText, h]⟩

end Go

/-! ## Python -/

namespace Python

/-- The type is an application of the generic type to something. -/
def Applies (generic type : String) : Prop := ∃ inner, type = generic ++ "[" ++ inner ++ "]"

theorem Applies.isPrefix {generic type : String} (h : Applies generic type) :
    generic.toList ++ ['['] <+: type.toList := by
  obtain ⟨inner, rfl⟩ := h
  exact ⟨inner.toList ++ [']'], by simp⟩

section Generics

variable {generic : String} (hg : generic = "Optional" ∨ generic = "NotRequired")
include hg

theorem not_applies_name {ix : Index} {o : Options} {name : String}
    (h : Grounded dialect ix (dialect.build ix o).declarations name) : ¬ Applies generic name := by
  refine h.elim (P := fun name => ¬ Applies generic name) ?_ ?_ ?_
  · intro scalar happ
    have start := happ.isPrefix
    revert start
    rcases hg with rfl | rfl
    · cases scalar <;> decide
    · cases scalar <;> decide
  · intro happ
    have start := happ.isPrefix
    revert start
    rcases hg with rfl | rfl
    · decide
    · decide
  · intro kind path shown happ
    have bracket : '[' ∈ path.name.toList := happ.isPrefix.subset (by simp)
    exact (shown clean).2.not_mem (by decide) (by decide) bracket

/-- Types of fields are made of lists and names, so only a nullable one is optional. -/
theorem not_applies_typeText {ix : Index} {o : Options} {name : String}
    (h : Grounded dialect ix (dialect.build ix o).declarations name) (n : Nat) :
    ¬ Applies generic (typeText (.lists n (.named name))) := by
  cases n with
  | zero => exact not_applies_name hg h
  | succ n =>
    rintro ⟨inner, heq⟩
    have chars := congrArg String.toList heq
    rcases hg with rfl | rfl
    · simp [TargetType.lists, typeText] at chars
    · simp [TargetType.lists, typeText] at chars

end Generics

end Python

end CatalogTypes
