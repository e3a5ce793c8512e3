import CatalogTypes.Proofs.GivenNames
import CatalogTypes.Proofs.Lines
import CatalogTypes.Proofs.Literals

/-!
# Characters that names and types lack

Raw names and labels reach the text through names, literals and the types of fields. A line feed is
dropped or escaped on all of these ways, and a quote is dropped where names are made of words.
-/

namespace CatalogTypes

open Text Layout

/-! ## Names and literals -/

/-- A line feed ends a line, and a quote begins or ends a literal. -/
def Breaks (c : Char) : Prop := c = '\n' ∨ c = '"'

section Lacks

variable {c : Char}

/-- Fixed texts are looked through for both characters. -/
theorem Breaks.lacks (hc : Breaks c) {text : String} (h : Lacks '\n' text ∧ Lacks '"' text) :
    Lacks c text := by
  rcases hc with rfl | rfl
  · exact h.1
  · exact h.2

theorem Breaks.isNameChar_eq_false (hc : Breaks c) : isNameChar c = false ∧ c ≠ '\x60' := by
  rcases hc with rfl | rfl
  all_goals decide

theorem IsShown.lacks {name : String} (h : IsShown name) (hc : isNameChar c = false)
    (hb : c ≠ '\x60') : Lacks c name :=
  h.not_mem hc hb

theorem IsClean.lacks {name : String} (h : IsClean name) (hc : isNameChar c = false) :
    Lacks c name := by
  intro mem
  simp [h c mem] at hc

/-- Control characters below U+0020 stand in no literal. -/
theorem lacks_of_isToken {text : String} {body : List Char} (hc : c.toNat < 0x20)
    (h : text.toList = '"' :: body ++ ['"']) (token : IsToken body) : Lacks c text := by
  rw [Lacks, h]
  intro mem
  rcases List.mem_append.mp mem with mem | mem
  · rcases List.mem_cons.mp mem with rfl | mem
    · exact absurd hc (by decide)
    · exact absurd (token.le_toNat c mem) (by omega)
  · rw [List.mem_singleton.mp mem] at hc
    exact absurd hc (by decide)

theorem lacks_quote (hc : c.toNat < 0x20) (value : String) : Lacks c (quote value) :=
  lacks_of_isToken hc (toList_quote value) (isToken_flatMap Json.isToken_escapeChar _)

theorem Swift.lacks_literal (hc : c.toNat < 0x20) (value : String) : Lacks c (literal value) :=
  lacks_of_isToken hc (toList_literal value) (isToken_flatMap isToken_bracedEscape _)

theorem lacks_of_isIdentifier {name : String} (h : isIdentifier name)
    (hc : isIdentifierStart c = false ∧ c.isDigit = false) : Lacks c name := by
  unfold isIdentifier at h
  intro mem
  split at h
  · cases h
  · next first rest eq =>
    rw [Bool.and_eq_true, List.all_eq_true] at h
    rw [eq] at mem
    rcases List.mem_cons.mp mem with rfl | mem
    · simp [h.1] at hc
    · simpa [hc] using h.2 c mem

theorem TypeScript.IsKey.lacks {name : String} (h : IsKey name) (hc : c.toNat < 0x20)
    (plain : isIdentifierStart c = false ∧ c.isDigit = false) : Lacks c name := by
  rcases h with identifier | ⟨raw, rfl⟩
  · exact lacks_of_isIdentifier identifier plain
  · exact lacks_quote hc raw

theorem Go.lacks_pad (hc : c ≠ ' ') (width : Nat) {text : String} (h : Lacks c text) :
    Lacks c (pad width text) := by
  rw [pad, lacks_append]
  refine ⟨h, ?_⟩
  simp [Lacks, hc]

theorem Go.lacks_tag (rawName : String) (omitEmpty : Bool) :
    Lacks '\n' (tag rawName omitEmpty) := by
  have quoted : ∀ value, Lacks '\n' (quote value) := fun value => lacks_quote (by decide) value
  unfold tag
  extract_lets value text
  have inside : Lacks '\n' text := lacks_append.mpr ⟨by decide, quoted value⟩
  split
  · exact quoted text
  · rw [lacks_append, lacks_append]
    exact ⟨⟨by decide, inside⟩, by decide⟩

end Lacks

/-! ## Types -/

/-- The character occurs neither in the names of a schema nor in the types of its fields. -/
structure SchemaDecls.Lack (sd : SchemaDecls) (d : Dialect) (c : Char) : Prop where
  named : sd.Named (Lacks c)
  types : ∀ r ∈ sd.records, ∀ f ∈ r.fields,
    Lacks c (d.typeText f.type) ∧ Lacks c (d.typeText f.effectiveType)

/-- The character is in the text of a type only if it is in the name inside. -/
def Dialect.Frames (d : Dialect) (c : Char) : Prop :=
  ∀ t : TargetType, Lacks c t.base → Lacks c (d.typeText t)

section Types

variable {c : Char}

theorem TargetType.base_orNull (t : TargetType) : t.orNull.base = t.base := by
  cases t with
  | named name => rfl
  | list element => rfl
  | nullable inner => rfl

theorem Field.base_effectiveType (f : Field) : f.effectiveType.base = f.type.base := by
  unfold effectiveType
  split
  · exact f.type.base_orNull
  · rfl

/-- The names inside of the types of fields are those that are present. -/
theorem grounded_base (d : Dialect) (s : Snapshot) (o : Options) :
    ∀ sd ∈ (d.build (.ofSnapshot s) o).declarations.schemas, ∀ r ∈ sd.records, ∀ f ∈ r.fields,
      Grounded d (.ofSnapshot s) (d.build (.ofSnapshot s) o).declarations f.type.base := by
  intro sd hsd r hr f hf
  rcases List.mem_append.mp hr with composite | relation
  · obtain ⟨t, -, -, fields⟩ := exists_of_forall₂ (attributes_build d s o sd hsd) r composite
    obtain ⟨attr, -, -, type⟩ := exists_of_forall₂ fields f hf
    exact ((type f.type).mp rfl).grounded
  · obtain ⟨rd, hrd, hdecl⟩ := List.mem_flatMap.mp relation
    obtain ⟨r', -, -, decls⟩ := exists_of_forall₂ (columns_build d s o sd hsd) rd hrd
    obtain ⟨column, -, -, type⟩ := exists_of_forall₂ (decls r hdecl) f hf
    exact ((type f.type).mp rfl).grounded

/-- What no name has and no type puts around a name, no text of a type has. -/
theorem Dialect.lack_build {d : Dialect} {P : String → Prop} (ensures : d.Ensures P)
    (names : ∀ name, P name → Lacks c name) (frames : d.Frames c)
    (scalar : ∀ scalar, Lacks c (d.scalarType scalar)) (any : Lacks c d.anyType)
    (reference : ∀ kind path, (d.Clean → IsShown path.schemaName ∧ IsShown path.name) →
      Lacks c (d.reference kind path)) (s : Snapshot) (o : Options) :
    ∀ sd ∈ (d.build (.ofSnapshot s) o).declarations.schemas, sd.Lack d c := by
  intro sd hsd
  refine ⟨(ensures.named _ o sd hsd).imp names, fun r hr f hf => ?_⟩
  have base : Lacks c f.type.base :=
    (grounded_base d s o sd hsd r hr f hf).elim scalar any reference
  exact ⟨frames f.type base, frames f.effectiveType (f.base_effectiveType ▸ base)⟩

end Types

section Languages

variable (s : Snapshot) (o : Options) {c : Char}

theorem TypeScript.frames (hc : Lacks c "()[] |null") : dialect.Frames c := by
  intro t base
  simp only [Lacks, String.reduceToList, List.mem_cons, List.not_mem_nil, or_false, not_or] at hc
  show Lacks c (typeText t)
  induction t with
  | named name => exact base
  | nullable inner ih =>
    rw [typeText, lacks_append]
    exact ⟨ih base, by simp [Lacks, hc]⟩
  | list element ih =>
    rw [typeText]
    split
    · simp only [lacks_append]
      exact ⟨⟨by simp [Lacks, hc], ih base⟩, by simp [Lacks, hc]⟩
    · rw [lacks_append]
      exact ⟨ih base, by simp [Lacks, hc]⟩

theorem Go.frames (hc : Lacks c "[]*") : dialect.Frames c := by
  intro t base
  simp only [Lacks, String.reduceToList, List.mem_cons, List.not_mem_nil, or_false, not_or] at hc
  show Lacks c (typeText t)
  induction t with
  | named name => exact base
  | list element ih =>
    rw [typeText, lacks_append]
    exact ⟨by simp [Lacks, hc], ih base⟩
  | nullable inner ih =>
    simp only [typeText]
    split
    · exact ih base
    · rw [lacks_append]
      exact ⟨by simp [Lacks, hc], ih base⟩

theorem Swift.frames (hc : Lacks c "[]?") : dialect.Frames c := by
  intro t base
  simp only [Lacks, String.reduceToList, List.mem_cons, List.not_mem_nil, or_false, not_or] at hc
  show Lacks c (typeText t)
  induction t with
  | named name => exact base
  | list element ih =>
    simp only [typeText, lacks_append]
    exact ⟨⟨by simp [Lacks, hc], ih base⟩, by simp [Lacks, hc]⟩
  | nullable inner ih =>
    rw [typeText, lacks_append]
    exact ⟨ih base, by simp [Lacks, hc]⟩

theorem Python.frames (hc : Lacks c "List[]Optional") : dialect.Frames c := by
  intro t base
  simp only [Lacks, String.reduceToList, List.mem_cons, List.not_mem_nil, or_false, not_or] at hc
  show Lacks c (typeText t)
  induction t with
  | named name => exact base
  | list element ih =>
    simp only [typeText, lacks_append]
    exact ⟨⟨by simp [Lacks, hc], ih base⟩, by simp [Lacks, hc]⟩
  | nullable inner ih =>
    simp only [typeText, lacks_append]
    exact ⟨⟨by simp [Lacks, hc], ih base⟩, by simp [Lacks, hc]⟩

theorem TypeScript.lack_build :
    ∀ sd ∈ (dialect.build (.ofSnapshot s) o).declarations.schemas, sd.Lack dialect '\n' := by
  refine Dialect.lack_build ensures (fun name key => key.lacks (by decide) (by decide))
    (frames (by decide)) ?_ (by decide) ?_ s o
  · intro scalar
    cases scalar <;> decide
  · intro kind path _
    have group : Lacks '\n' (groupName kind) := by
      cases kind
      all_goals decide
    show Lacks '\n' ("Database[" ++ quote path.schemaRawName ++ "][\"" ++ groupName kind ++
      "\"][" ++ quote path.rawName ++ "]")
    simp only [lacks_append]
    exact ⟨⟨⟨⟨⟨⟨by decide, lacks_quote (by decide) _⟩, by decide⟩, group⟩, by decide⟩,
      lacks_quote (by decide) _⟩, by decide⟩

section Breaks

variable (hc : Breaks c)
include hc

theorem Go.lack_build :
    ∀ sd ∈ (dialect.build (.ofSnapshot s) o).declarations.schemas, sd.Lack dialect c := by
  obtain ⟨noName, noBacktick⟩ := hc.isNameChar_eq_false
  refine Dialect.lack_build ensures (fun name clean => clean.lacks noName)
    (frames (hc.lacks (by decide))) ?_ (hc.lacks (by decide)) ?_ s o
  · intro scalar
    refine hc.lacks ?_
    cases scalar
    all_goals decide
  · intro kind path shown
    exact (shown clean).2.lacks noName noBacktick

theorem Python.lack_build :
    ∀ sd ∈ (dialect.build (.ofSnapshot s) o).declarations.schemas, sd.Lack dialect c := by
  obtain ⟨noName, noBacktick⟩ := hc.isNameChar_eq_false
  refine Dialect.lack_build ensures (fun name clean => clean.lacks noName)
    (frames (hc.lacks (by decide))) ?_ (hc.lacks (by decide)) ?_ s o
  · intro scalar
    refine hc.lacks ?_
    cases scalar
    all_goals decide
  · intro kind path shown
    exact (shown clean).2.lacks noName noBacktick

theorem Swift.lack_build :
    ∀ sd ∈ (dialect.build (.ofSnapshot s) o).declarations.schemas, sd.Lack dialect c := by
  obtain ⟨noName, noBacktick⟩ := hc.isNameChar_eq_false
  refine Dialect.lack_build ensures (fun name shown => shown.lacks noName noBacktick)
    (frames (hc.lacks (by decide))) ?_ (hc.lacks (by decide)) ?_ s o
  · intro scalar
    refine hc.lacks ?_
    cases scalar
    all_goals decide
  · intro kind path shown
    obtain ⟨schemaName, name⟩ := shown clean
    show Lacks c (path.schemaName ++ "." ++ path.name)
    rw [lacks_append, lacks_append]
    exact ⟨⟨schemaName.lacks noName noBacktick, hc.lacks (by decide)⟩,
      name.lacks noName noBacktick⟩

end Breaks

theorem Language.lack_build (language : Language) :
    ∀ sd ∈ (language.dialect.build (.ofSnapshot s) o).declarations.schemas,
      sd.Lack language.dialect '\n' := by
  cases language with
  | typescript => exact TypeScript.lack_build s o
  | go => exact Go.lack_build s o (.inl rfl)
  | swift => exact Swift.lack_build s o (.inl rfl)
  | python => exact Python.lack_build s o (.inl rfl)

end Languages

end CatalogTypes
