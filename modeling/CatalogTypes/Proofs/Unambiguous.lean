import CatalogTypes.Proofs.References
import Mathlib.Data.Set.Function

/-!
# The text of a type is that of no other type

Except in Go, where a slice is as good as a nullable slice, the marks for lists and null can be
taken off a text again, from the outermost one inwards (`Unmistakable`). The names inside of types
hold brackets of their own: dictionaries, and the quoted raw names of references. None of them
begins or ends as a list or a nullable type of its language does, so the text of a type tells the
whole type (`Unmistakable.injOn`).
-/

namespace CatalogTypes

open Text

/-! ## Marks -/

/-- What a language writes around a type can be taken off, and plain names do not have it. -/
structure Unmistakable (text : TargetType → String) (Plain : String → Prop) : Prop where
  named : ∀ name, text (.named name) = name
  list : ∀ t t', Plain t.base → Plain t'.base →
    text (.list t) = text (.list t') → text t = text t'
  nullable : ∀ t t', text (.nullable t) = text (.nullable t') → text t = text t'
  named_ne_list : ∀ name t, Plain name → Plain t.base → name ≠ text (.list t)
  named_ne_nullable : ∀ name t, Plain name → name ≠ text (.nullable t)
  list_ne_nullable : ∀ t t', text (.list t) ≠ text (.nullable t')

/-- A type is read off its text, mark by mark. -/
theorem Unmistakable.injOn {text : TargetType → String} {Plain : String → Prop}
    (h : Unmistakable text Plain) : Set.InjOn text {type | Plain type.base} := by
  intro t plain t' plain' eq
  induction t generalizing t' with
  | named name =>
    rw [h.named] at eq
    cases t' with
    | named name' => rw [eq, h.named]
    | list t' => exact absurd eq (h.named_ne_list name t' plain plain')
    | nullable t' => exact absurd eq (h.named_ne_nullable name t' plain)
  | list t ih =>
    cases t' with
    | named name' =>
      rw [h.named] at eq
      exact absurd eq.symm (h.named_ne_list name' t plain' plain)
    | list t' => rw [@ih plain t' plain' (h.list t t' plain plain' eq)]
    | nullable t' => exact absurd eq (h.list_ne_nullable t t')
  | nullable t ih =>
    cases t' with
    | named name' =>
      rw [h.named] at eq
      exact absurd eq.symm (h.named_ne_nullable name' t plain')
    | list t' => exact absurd eq.symm (h.list_ne_nullable t' t)
    | nullable t' => rw [@ih plain t' plain' (h.nullable t t' eq)]

/-! ## TypeScript -/

namespace TypeScript

/-- The name ends neither in a mark nor in a parenthesis. -/
def IsUnmarked (name : String) : Prop :=
  ∀ mark ∈ ["[]", " | null", ")"], ¬ mark.toList <:+ name.toList

instance (name : String) : Decidable (IsUnmarked name) :=
  inferInstanceAs (Decidable (∀ _ ∈ _, _))

theorem isUnmarked_scalarType (scalar : Scalar) : IsUnmarked (scalarType scalar) := by
  cases scalar <;> decide

theorem isUnmarked_reference (kind : DeclKind) (path : DeclPath) :
    IsUnmarked (reference kind path) := by
  obtain ⟨start, closed⟩ : ∃ start, (reference kind path).toList = start ++ ['"', ']'] := by
    simp only [reference, String.toList_append, toList_quote, ← List.append_assoc]
    exact ⟨_, List.append_assoc _ ['"'] [']']⟩
  unfold IsUnmarked
  simp only [closed, ← List.reverse_prefix, List.reverse_append]
  simp

/-- An element in front of the mark of its list. -/
def elementText (t : TargetType) : String :=
  if t.isNullable then "(" ++ typeText t ++ ")" else typeText t

theorem typeText_list (t : TargetType) : typeText (.list t) = elementText t ++ "[]" := by
  rw [typeText, elementText]
  split
  · simp [String.append_assoc]
  · rfl

/-- Only elements that may be null end in a parenthesis. -/
theorem not_parenthesized {t : TargetType} (plain : IsUnmarked t.base) (h : t.isNullable = false)
    (inner : String) : typeText t ≠ "(" ++ inner ++ ")" := by
  intro eq
  cases t with
  | named name =>
    have eq : name = "(" ++ inner ++ ")" := eq
    exact plain ")" (by simp) (by simp [TargetType.base, eq])
  | list element =>
    rw [typeText_list] at eq
    have last := congrArg (·.toList.reverse) eq
    simp at last
  | nullable inner => simp [TargetType.isNullable] at h

theorem typeText_of_elementText {t t' : TargetType} (plain : IsUnmarked t.base)
    (plain' : IsUnmarked t'.base) (eq : elementText t = elementText t') :
    typeText t = typeText t' := by
  unfold elementText at eq
  cases h : t.isNullable with
  | true =>
    cases h' : t'.isNullable with
    | true => simpa [h, h'] using eq
    | false =>
      rw [h, h'] at eq
      exact absurd eq.symm (not_parenthesized plain' h' _)
  | false =>
    cases h' : t'.isNullable with
    | true =>
      rw [h, h'] at eq
      exact absurd eq (not_parenthesized plain h _)
    | false => simpa [h, h'] using eq

theorem unmistakable : Unmistakable typeText IsUnmarked where
  named _ := rfl
  list t t' plain plain' eq := by
    rw [typeText_list, typeText_list] at eq
    exact typeText_of_elementText plain plain' (by simpa using eq)
  nullable t t' eq := by simpa [typeText] using eq
  named_ne_list name t plain _ eq := plain "[]" (by simp) (by simp [eq, typeText_list])
  named_ne_nullable name t plain eq := plain " | null" (by simp) (by simp [eq, typeText])
  list_ne_nullable t t' eq := by
    rw [typeText_list, typeText] at eq
    have last := congrArg (·.toList.reverse) eq
    simp at last

end TypeScript

/-! ## Swift -/

namespace Swift

/-- The name is no optional, and a list of no type. -/
structure IsUnmarked (name : String) : Prop where
  last : ¬ ['?'] <:+ name.toList
  first : ['['] <+: name.toList → name = "[String: AnyJSON]"
  bare : name ≠ "String: AnyJSON"

theorem isUnmarked_scalarType (scalar : Scalar) : IsUnmarked (scalarType scalar) := by
  cases scalar <;> exact ⟨by decide, by decide, by decide⟩

theorem isUnmarked_reference {path : DeclPath}
    (shown : IsShown path.schemaName ∧ IsShown path.name) : IsUnmarked (reference path) := by
  have absent : ∀ c, isNameChar c = false → c ≠ '\x60' → c ≠ '.' →
      c ∉ (reference path).toList := by
    intro c plain tick dot
    simp [reference, shown.1.not_mem plain tick, shown.2.not_mem plain tick, dot]
  have bracket := absent '[' (by decide) (by decide) (by decide)
  have space := absent ' ' (by decide) (by decide) (by decide)
  have question := absent '?' (by decide) (by decide) (by decide)
  refine ⟨fun h => question (h.subset (by simp)), fun h => ?_, fun h => ?_⟩
  · exact absurd (h.subset (by simp)) bracket
  · exact space (by simp [h])

/-- No brackets can be put around a type to get the type of records. -/
theorem list_ne_record {t : TargetType} (plain : IsUnmarked t.base) :
    typeText (.list t) ≠ "[String: AnyJSON]" := by
  intro eq
  have inner : typeText t = "String: AnyJSON" := by
    refine String.toList_inj.mp ?_
    simpa [typeText] using congrArg (·.toList.tail.dropLast) eq
  cases t with
  | named name => exact plain.bare inner
  | list element =>
    have first := congrArg (·.toList.head?) inner
    simp [typeText] at first
  | nullable t =>
    have last := congrArg (·.toList.reverse.head?) inner
    simp [typeText] at last

theorem unmistakable : Unmistakable typeText IsUnmarked where
  named _ := rfl
  list t t' _ _ eq := by simpa [typeText] using eq
  nullable t t' eq := by simpa [typeText] using eq
  named_ne_list name t plain plain' eq := by
    have record := plain.first (by simp [eq, typeText])
    exact list_ne_record plain' (eq.symm.trans record)
  named_ne_nullable name t plain eq := plain.last (by simp [eq, typeText])
  list_ne_nullable t t' eq := by
    have last := congrArg (·.toList.reverse) eq
    simp [typeText] at last

end Swift

/-! ## Python -/

namespace Python

/-- The name is no application of the generic types of the marks. -/
def IsUnmarked (name : String) : Prop :=
  ∀ generic ∈ ["List[", "Optional["], ¬ generic.toList <+: name.toList

instance (name : String) : Decidable (IsUnmarked name) :=
  inferInstanceAs (Decidable (∀ _ ∈ _, _))

theorem isUnmarked_scalarType (scalar : Scalar) : IsUnmarked (scalarType scalar) := by
  cases scalar <;> decide

theorem isUnmarked_reference {path : DeclPath} (shown : IsShown path.name) :
    IsUnmarked path.name := by
  have bracket := shown.not_mem (c := '[') (by decide) (by decide)
  intro generic hgeneric start
  refine bracket (start.subset ?_)
  simp only [List.mem_cons, List.not_mem_nil, or_false] at hgeneric
  rcases hgeneric with rfl | rfl
  all_goals decide

theorem unmistakable : Unmistakable typeText IsUnmarked where
  named _ := rfl
  list t t' _ _ eq := by simpa [typeText] using eq
  nullable t t' eq := by simpa [typeText] using eq
  named_ne_list name t plain _ eq := plain "List[" (by simp) (by simp [eq, typeText])
  named_ne_nullable name t plain eq := plain "Optional[" (by simp) (by simp [eq, typeText])
  list_ne_nullable t t' eq := by
    have chars := congrArg String.toList eq
    simp [typeText] at chars

end Python

/-! ## Languages -/

theorem Language.injOn_typeText {language : Language} (h : language ≠ .go) (ix : Index)
    (o : Options) : Set.InjOn language.dialect.typeText
      {type | (language.dialect.build ix o).declarations.Offers language.dialect type.base} := by
  cases language with
  | typescript =>
    refine TypeScript.unmistakable.injOn.mono fun type offers => ?_
    exact offers.elim TypeScript.isUnmarked_scalarType (by decide)
      fun t _ => TypeScript.isUnmarked_reference t.kind t.path
  | go => exact absurd rfl h
  | swift =>
    have shown := isShown_targets (show Language.swift ≠ .typescript by decide) ix o
    refine Swift.unmistakable.injOn.mono fun type offers => ?_
    exact offers.elim Swift.isUnmarked_scalarType (Swift.isUnmarked_scalarType .json)
      fun t ht => Swift.isUnmarked_reference (shown t ht)
  | python =>
    have shown := isShown_targets (show Language.python ≠ .typescript by decide) ix o
    refine Python.unmistakable.injOn.mono fun type offers => ?_
    exact offers.elim Python.isUnmarked_scalarType (Python.isUnmarked_scalarType .json)
      fun t ht => Python.isUnmarked_reference (shown t ht).2

/-- Two types of fields have the same text only if they are the same type, however deep lists and
null stand in each other, and whatever characters the raw names in references have. -/
theorem declare_injOn_typeText (s : Snapshot) (o : Options) (h : o.language ≠ .go) :
    Set.InjOn o.language.dialect.typeText
      {type | (declare s o).declarations.Offers o.language.dialect type.base} :=
  Language.injOn_typeText h (.ofSnapshot s) o

/-- A list of what may be null is no list that may be null. -/
theorem typeText_list_nullable_ne : Language.typescript ≠ .go ∧
    TypeScript.typeText (.list (.nullable (.named "Json"))) ≠
      TypeScript.typeText (.nullable (.list (.named "Json"))) := by
  have different : TargetType.list (.nullable (.named "Json")) ≠
      .nullable (.list (.named "Json")) := by
    decide
  refine ⟨by decide, ?_⟩
  exact (declare_injOn_typeText {} { language := .typescript } (by decide)).ne
    (.inl ⟨.json, rfl⟩) (.inl ⟨.json, rfl⟩) different

example : Go.typeText (.nullable (.list (.named "string"))) =
    Go.typeText (.list (.named "string")) := by
  decide

end CatalogTypes
