import CatalogTypes.Proofs.Identifiers

/-!
# Exported fields in Go

Go exports a field if its name begins with an uppercase letter, and packages that write JSON pass
over all others. The name of a field begins with `Field` if its raw name has no letter or digit,
with `X` if the first one is a digit of ASCII, and otherwise with the uppercase form of that
character (`head?_fieldName`), which is an uppercase letter only in scripts that have them.
-/

namespace CatalogTypes

open Text

namespace Text

/-- The characters with the property Uppercase that are no letters. -/
def otherUppercaseSet : CharSet where
  boundaries := #[
    0x2160, 0x2170, 0x24B6, 0x24D0, 0x1F130, 0x1F14A, 0x1F150, 0x1F16A, 0x1F170, 0x1F18A]

/-- Whether the general category is Lu. -/
def isUppercaseLetter (c : Char) : Bool := isUppercase c && !otherUppercaseSet.contains c

theorem isUppercaseLetter_toUpper {c : Char} (ascii : c.toNat < 0x80) (h : c.isAlpha) :
    isUppercaseLetter c.toUpper :=
  forall_ascii (P := fun c => c.isAlpha → isUppercaseLetter c.toUpper) (by decide +kernel) ascii h

end Text

namespace Go

/-- Code in other packages can see the field. -/
def IsExported (name : String) : Prop := name.toList.head?.any isUppercaseLetter

/-- The first letter of the raw name, unless a digit comes before it, has an uppercase form. -/
def Capitalizes (raw : String) : Prop :=
  ∀ c, lead? raw = some c → c.isDigit ∨ (upper c).head?.any isUppercaseLetter

theorem head?_fieldName (raw : String) : (convention.fieldName raw).toList.head? =
    match lead? raw with
    | none => some 'F'
    | some c => if c.isDigit then some 'X' else (upper c).head? := by
  rw [Convention.fieldName_eq (by decide)]
  cases lead : lead? raw with
  | none =>
    rw [converted_of_none lead]
    rfl
  | some c =>
    rw [converted_of_some (by decide) lead]
    dsimp only
    split
    · rw [head?_append (by decide)]
      rfl
    · exact head?_pascal lead

theorem isExported_fieldName_iff (raw : String) :
    IsExported (convention.fieldName raw) ↔ Capitalizes raw := by
  have placeholder : isUppercaseLetter 'F' := by decide +kernel
  have digitLead : isUppercaseLetter 'X' := by decide +kernel
  rw [IsExported, head?_fieldName]
  cases lead : lead? raw with
  | none => simp [Capitalizes, lead, placeholder]
  | some c => by_cases digit : c.isDigit <;> simp [Capitalizes, lead, digit, digitLead]

/-- A name begins as its base does. -/
theorem isExported_iff_of_gives {base name : String} (h : dialect.Gives base name)
    (nonempty : base ≠ "") : IsExported name ↔ IsExported base := by
  obtain ⟨n, rfl⟩ := h
  have numbered : (Registry.candidate base n).toList.head? = base.toList.head? := by
    rw [Registry.toList_candidate,
      List.head?_append_of_ne_nil _ (mt String.toList_eq_nil_iff.mp nonempty)]
  have candidate : Registry.candidate base n ≠ "" := by
    rw [Ne, ← String.toList_eq_nil_iff, Registry.toList_candidate, List.append_eq_nil_iff]
    exact fun empty => nonempty (String.toList_eq_nil_iff.mp empty.1)
  have escaped : (dialect.escape (Registry.candidate base n)).toList.head? =
      (Registry.candidate base n).toList.head? := by
    show (if convention.isReserved _ then _ ++ "_" else _).toList.head? = _
    split
    · exact head?_append candidate "_"
    · rfl
  rw [IsExported, escaped, numbered, IsExported]

theorem capitalizes_of_ascii {raw : String} (h : ∀ c, lead? raw = some c → c.toNat < 0x80) :
    Capitalizes raw := by
  intro c lead
  have ascii := h c lead
  have alphanumeric := isAlphanumeric_of_lead? lead
  rw [isAlphanumeric_of_ascii ascii, Char.isAlphanum, Bool.or_eq_true] at alphanumeric
  rcases alphanumeric with letter | digit
  · right
    simp [upper_of_ascii ascii, isUppercaseLetter_toUpper ascii letter]
  · exact .inl digit

end Go

/-- Whether the field is exported can be told from its raw name. It is if no character beyond ASCII
is the first letter or digit there. -/
structure Field.Exports (f : Field) : Prop where
  exported_iff : Go.IsExported f.name ↔ Go.Capitalizes f.rawName
  ascii : (∀ c, lead? f.rawName = some c → c.toNat < 0x80) → Go.IsExported f.name

structure Declarations.Exports (ds : Declarations) : Prop where
  fields : ∀ sd ∈ ds.schemas, ∀ r ∈ sd.records, ∀ f ∈ r.fields, f.Exports

namespace Go

theorem exports_of_namesField {f : Field} (h : dialect.NamesField f) : f.Exports := by
  have nonempty := (@Language.isName_fieldName .go (by decide) f.rawName).ne_empty
  have exported := (isExported_iff_of_gives h nonempty).trans (isExported_fieldName_iff f.rawName)
  exact ⟨exported, fun ascii => exported.mpr (capitalizes_of_ascii ascii)⟩

theorem declare_exports (s : Snapshot) (o : Options) :
    (declare s { o with language := .go }).declarations.Exports where
  fields sd hsd r hr f hf := exports_of_namesField (dialect.namesField_build _ _ sd hsd r hr f hf)

end Go

theorem Declarations.exists_field {ds : Declarations} {operation : Operation} {id : ObjectId}
    {raw : String} (h : (id, raw) ∈ ds.columnFields operation) :
    ∃ sd ∈ ds.schemas, ∃ r ∈ sd.records, ∃ f ∈ r.fields, f.rawName = raw := by
  obtain ⟨sd, hsd, h⟩ := List.mem_flatMap.mp h
  obtain ⟨rd, hrd, h⟩ := List.mem_flatMap.mp h
  obtain ⟨decl, hdecl, h⟩ := List.mem_flatMap.mp h
  obtain ⟨f, hf, shown⟩ := List.mem_map.mp h
  have record : decl ∈ sd.records :=
    List.mem_append_right _ (List.mem_flatMap.mpr ⟨rd, hrd, (List.mem_filter.mp hdecl).1⟩)
  exact ⟨sd, hsd, decl, record, f, hf, (Prod.mk.inj shown).2⟩

theorem exists_field_ofColumns (d : Dialect) (o : Options) {names : List String} {raw : String}
    (h : raw ∈ names) (emits : (Snapshot.ofColumns names).emits o "public") :
    ∃ sd ∈ (d.build (.ofSnapshot (.ofColumns names)) o).declarations.schemas,
      ∃ r ∈ sd.records, ∃ f ∈ r.fields, f.rawName = raw := by
  have kept : ⟨⟨10, "public", "v"⟩, .view⟩ ∈ (Snapshot.ofColumns names).keptRelations :=
    Snapshot.mem_keptRelations_iff.mpr (isFirst_cons_iff.mpr (.inl rfl))
  have declared : { tableId := 10, name := raw, format := "text" } ∈
      (Snapshot.ofColumns names).declaredColumns o .select := by
    refine List.mem_filter.mpr ⟨List.mem_map.mpr ⟨raw, h, rfl⟩, List.any_eq_true.mpr ⟨_, kept, ?_⟩⟩
    simp [emits, RelationKind.select_mem_operations]
  exact Declarations.exists_field
    ((d.columnFields_perm _ o .select).mem_iff.mpr (List.mem_map.mpr ⟨_, declared, rfl⟩))

theorem Go.exists_unexported :
    ∃ sd ∈ (declare (.ofColumns ["名前"]) { language := .go }).declarations.schemas,
      ∃ r ∈ sd.records, ∃ f ∈ r.fields, f.rawName = "名前" ∧ ¬IsExported f.name := by
  obtain ⟨sd, hsd, r, hr, f, hf, rawName⟩ := exists_field_ofColumns Go.dialect { language := .go }
    (List.mem_singleton_self "名前") (by decide)
  refine ⟨sd, hsd, r, hr, f, hf, rawName, fun exported => ?_⟩
  have exports := exports_of_namesField (dialect.namesField_build _ _ sd hsd r hr f hf)
  have lead : lead? "名前" = some '名' := by decide +kernel
  have capitalized := exports.exported_iff.mp exported '名' (rawName ▸ lead)
  exact absurd capitalized (by decide +kernel)

end CatalogTypes
