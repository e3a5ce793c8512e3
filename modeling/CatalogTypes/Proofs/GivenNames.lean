import CatalogTypes.Proofs.DistinctNames
import CatalogTypes.Proofs.TypeTexts

/-!
# What generated names are made of

Every name in a declaration is the finished form of some candidate that the language has for a raw
name. What holds of all these forms holds of all names that are built (`Dialect.Finishes.named`): in
Go and Python they are made of name characters, in Swift backticks may stand around them, and in
TypeScript they are plain identifiers or quoted keys.
-/

namespace CatalogTypes

open Text

/-! ## Casing -/

theorem Text.isWordChar_upperWord {word : List Char} (h : ∀ c ∈ word, isWordChar c) :
    ∀ c ∈ upperWord word, isWordChar c := by
  intro d hd
  obtain ⟨c, hc, hd⟩ := List.mem_flatMap.mp hd
  exact isWordChar_upper (h c hc) d hd

theorem isNameChar_of_mem_intercalate {words : List (List Char)}
    (h : ∀ word ∈ words, ∀ c ∈ word, isWordChar c) :
    ∀ c ∈ ['_'].intercalate words, isNameChar c := by
  induction words with
  | nil => simp
  | cons word words ih =>
    intro c hc
    have first := h word List.mem_cons_self
    by_cases last : words = []
    · rw [last, List.intercalate_singleton] at hc
      exact isNameChar_of_isWordChar (first c hc)
    · rw [List.intercalate_cons_of_ne_nil last, List.append_assoc] at hc
      rcases List.mem_append.mp hc with hc | hc
      · exact isNameChar_of_isWordChar (first c hc)
      · rcases List.mem_append.mp hc with hc | hc
        · rw [List.mem_singleton.mp hc]
          decide
        · exact ih (fun word hw => h word (List.mem_cons_of_mem _ hw)) c hc

theorem isWordChar_lowerCamelWords {words : List (List Char)}
    (h : ∀ word ∈ words, ∀ c ∈ word, isWordChar c) :
    ∀ c ∈ Casing.lowerCamelWords words, isWordChar c := by
  cases words with
  | nil => simp [Casing.lowerCamelWords]
  | cons word words =>
    intro c hc
    rcases List.mem_append.mp hc with hc | hc
    · exact isWordChar_lowerWord (h word List.mem_cons_self) c hc
    · obtain ⟨other, hother, hc⟩ := List.mem_flatMap.mp hc
      exact isWordChar_capitalize (h other (List.mem_cons_of_mem _ hother)) c hc

theorem isClean_apply {casing : Casing} (h : casing ≠ .preserve) (raw : String) :
    IsClean (casing.apply raw) := by
  intro c hc
  rw [Casing.toList_apply] at hc
  have words : ∀ word ∈ words raw.toList, ∀ c ∈ word, isWordChar c :=
    fun word hw => isWordChar_of_mem_words hw
  cases casing with
  | lowerCamel => exact isNameChar_of_isWordChar (isWordChar_lowerCamelWords words c hc)
  | snake =>
    refine isNameChar_of_mem_intercalate (fun word hw => ?_) c hc
    obtain ⟨cs, hcs, rfl⟩ := List.mem_map.mp hw
    exact isWordChar_lowerWord (words cs hcs)
  | pascal => exact isClean_pascal raw c (by rwa [Casing.toList_apply])
  | upperSnake =>
    refine isNameChar_of_mem_intercalate (fun word hw => ?_) c hc
    obtain ⟨cs, hcs, rfl⟩ := List.mem_map.mp hw
    exact isWordChar_upperWord (words cs hcs)
  | preserve => exact absurd rfl h

theorem isClean_fieldName {conv : Convention} (casing : conv.casing ≠ .preserve)
    (digitLead : IsClean conv.digitLead) (placeholder : IsClean conv.placeholder) (raw : String) :
    IsClean (conv.fieldName raw) := by
  have clean := isClean_apply casing raw
  simp only [Convention.fieldName]
  split
  · exact placeholder
  · split
    · exact digitLead.append clean
    · exact clean

/-- Where only reserved words are escaped, other names stay as they are. -/
theorem Convention.escape_eq {conv : Convention} (h : conv.escaping ≠ .quote) {name : String}
    (plain : conv.isReserved name = false) : conv.escape name = name := by
  unfold escape
  split
  · simp [plain]
  · simp [plain]
  · contradiction

theorem isClean_escape {conv : Convention} (h : conv.escaping = .trailingUnderscore)
    {name : String} (clean : IsClean name) : IsClean (conv.escape name) := by
  rw [Convention.escape, h]
  dsimp only
  split
  · exact clean.append (by decide)
  · exact clean

/-! ## Names that are built -/

/-- The property holds of every name that may be given out for the base. -/
def Dialect.Finishes (d : Dialect) (P : String → Prop) (base : String) : Prop :=
  ∀ n, P (d.escape (Registry.candidate base n))

/-- The property holds of all names that a language may give out. The name of an enumeration may
occur in those of its variants. -/
structure Dialect.Ensures (d : Dialect) (P : String → Prop) : Prop where
  namespaceName : ∀ schema, d.Finishes P (d.namespaceName schema)
  enumName : ∀ schema name, d.Finishes P (d.enumName schema name)
  compositeName : ∀ schema name, d.Finishes P (d.compositeName schema name)
  relationName : ∀ schema relation operation,
    d.Finishes P (d.relationName schema relation operation)
  variantName : ∀ enumName, P enumName → ∀ label, d.Finishes P (d.variantName enumName label)
  fieldName : ∀ raw, d.Finishes P (d.convention.fieldName raw)

/-- The property holds of all names in the declarations of a schema. -/
structure SchemaDecls.Named (sd : SchemaDecls) (P : String → Prop) : Prop where
  name : P sd.name
  enums : ∀ e ∈ sd.enums, P e.name ∧ ∀ v ∈ e.variants, P v.name
  records : ∀ r ∈ sd.records, P r.name ∧ ∀ f ∈ r.fields, P f.name

theorem SchemaDecls.Named.imp {sd : SchemaDecls} {P Q : String → Prop} (h : sd.Named P)
    (step : ∀ name, P name → Q name) : sd.Named Q where
  name := step _ h.name
  enums e he := ⟨step _ (h.enums e he).1, fun v hv => step _ ((h.enums e he).2 v hv)⟩
  records r hr := ⟨step _ (h.records r hr).1, fun f hf => step _ ((h.records r hr).2 f hf)⟩

namespace Dialect.Ensures

variable {d : Dialect} {P : String → Prop} (h : d.Ensures P)

omit h in
theorem claim_of_finishes {base : String} (finishes : d.Finishes P base) (reg : Registry) :
    P (d.claim reg base).1 := by
  obtain ⟨n, hn⟩ := reg.exists_claim_eq base d.escape
  rw [claim, hn]
  exact finishes n

omit h in
theorem claimType_of_finishes {base : String} (finishes : d.Finishes P base) (reg : Registry) :
    P (d.claimType reg base).1 := by
  rw [claimType]
  split
  · exact claim_of_finishes finishes reg
  · exact finishes 0

include h

theorem nameVariants {enumName : String} (name : P enumName) (reg : Registry)
    (labels : List String) : ∀ v ∈ (d.nameVariants reg enumName labels).1, P v.name := by
  refine forall_mem_mapThread (P := fun v : Variant => P v.name) ?_ _ _
  intro reg label
  exact claim_of_finishes (h.variantName enumName name label) reg

theorem nameEnum (schema : String) (types : Registry) (t : TypeDef) :
    P (d.nameEnum schema types t).1.2.name ∧
      ∀ v ∈ (d.nameEnum schema types t).1.2.variants, P v.name := by
  have name : P (d.claimType types (d.enumName schema t.name)).1 :=
    claimType_of_finishes (h.enumName schema t.name) types
  refine ⟨name, ?_⟩
  rw [Dialect.nameEnum]
  by_cases hs : d.scopedVariants
  · simpa only [if_pos hs] using h.nameVariants name _ t.enums
  · simpa only [if_neg hs] using h.nameVariants name _ t.enums

theorem nameComposite (schema : String) (types : Registry) (t : TypeDef) :
    P (d.nameComposite schema types t).1.2 :=
  claimType_of_finishes (h.compositeName schema t.name) types

theorem nameRelation (schema : String) (types : Registry) (r : KindedRelation) :
    ∀ q ∈ (d.nameRelation schema types r).1.2, P q.2 := by
  refine forall_mem_mapThread (P := fun q : Operation × String => P q.2) ?_ _ _
  intro types operation
  exact claimType_of_finishes (h.relationName schema r.name operation) types

theorem fieldNames (rawNames : List String) : ∀ name ∈ d.fieldNames rawNames, P name := by
  refine forall_mem_mapThread (P := P) ?_ _ _
  intro reg raw
  exact claim_of_finishes (h.fieldName raw) reg

variable (ix : Index) (o : Options)

theorem compositeFields (refs : References) (t : TypeDef) :
    ∀ f ∈ d.compositeFields ix refs t, P f.name := by
  intro f hf
  have name : f.name ∈ (d.compositeFields ix refs t).map (·.name) := List.mem_map_of_mem hf
  rw [map_name_compositeFields] at name
  exact h.fieldNames _ _ name

theorem relationFields (refs : References) (r : KindedRelation) (operation : Operation) :
    ∀ f ∈ d.relationFields ix refs r operation, P f.name := by
  intro f hf
  have name : f.name ∈ (d.relationFields ix refs r operation).map (·.name) :=
    List.mem_map_of_mem hf
  rw [map_name_relationFields] at name
  exact h.fieldNames _ _ name

/-- What is named for a schema has names with the property. -/
theorem nameSchema (names : Names) (schema : String) (refs : References) :
    (d.declareSchema ix refs (d.nameSchema ix names schema).1).Named P where
  name := claim_of_finishes (h.namespaceName schema) names.schemas
  enums := by
    intro e he
    obtain ⟨q, hq, rfl⟩ := List.mem_map.mp he
    exact forall_mem_mapThread
      (P := fun q : TypeDef × EnumDecl => P q.2.name ∧ ∀ v ∈ q.2.variants, P v.name)
      (h.nameEnum schema) _ _ q hq
  records := by
    intro r hr
    rcases List.mem_append.mp hr with hr | hr
    · obtain ⟨q, hq, rfl⟩ := List.mem_map.mp hr
      refine ⟨?_, h.compositeFields ix refs q.1⟩
      exact forall_mem_mapThread (P := fun q : TypeDef × String => P q.2)
        (h.nameComposite schema) _ _ q hq
    · obtain ⟨rd, hrd, hr⟩ := List.mem_flatMap.mp hr
      obtain ⟨q, hq, rfl⟩ := List.mem_map.mp hrd
      obtain ⟨decl, hdecl, rfl⟩ := List.mem_map.mp hr
      refine ⟨?_, h.relationFields ix refs q.1 decl.1⟩
      exact forall_mem_mapThread
        (P := fun q : KindedRelation × List (Operation × String) => ∀ decl ∈ q.2, P decl.2)
        (h.nameRelation schema) _ _ q hq decl hdecl

/-- What holds of all names that may be given out, holds of all names that are built. -/
theorem named : ∀ sd ∈ (d.build ix o).declarations.schemas, sd.Named P := by
  rw [schemas_build]
  intro sd hsd
  obtain ⟨p, hp, rfl⟩ := List.mem_map.mp hsd
  refine forall_mem_mapThread
    (P := fun p : SchemaPlan => (d.declareSchema ix (d.emitted ix o) p).Named P) ?_ _ _ p hp
  exact fun names schema => h.nameSchema ix names schema _

end Dialect.Ensures

/-! ## Languages -/

theorem Go.ensures : Go.dialect.Ensures IsClean := by
  have finishes : ∀ base, IsClean base → Go.dialect.Finishes IsClean base :=
    fun base clean n => isClean_escape rfl (isClean_candidate clean n)
  constructor
  case namespaceName => exact fun schema => finishes _ (clean.namespaceName schema)
  case enumName => exact fun schema name => finishes _ (clean.enumName schema name)
  case compositeName => exact fun schema name => finishes _ (clean.compositeName schema name)
  case relationName =>
    intro schema relation operation
    refine finishes _ ?_
    simp only [dialect]
    exact isClean_typeName _
  case variantName =>
    intro enumName name label
    refine finishes _ ?_
    simp only [dialect, variantName]
    refine name.append ?_
    split
    · decide
    · exact isClean_pascal label
  case fieldName =>
    exact fun raw => finishes _ (isClean_fieldName (by decide) (by decide) (by decide) raw)

theorem Python.ensures : Python.dialect.Ensures IsClean := by
  have finishes : ∀ base, IsClean base → Python.dialect.Finishes IsClean base :=
    fun base clean n => isClean_escape rfl (isClean_candidate clean n)
  constructor
  case namespaceName => exact fun schema => finishes _ (clean.namespaceName schema)
  case enumName => exact fun schema name => finishes _ (clean.enumName schema name)
  case compositeName => exact fun schema name => finishes _ (clean.compositeName schema name)
  case relationName =>
    intro schema relation operation
    refine finishes _ ?_
    cases operation
    all_goals
      simp only [dialect, relationName]
      exact isClean_typeName _
  case variantName =>
    intro enumName _ label
    have upper : IsClean (Casing.upperSnake.apply label) := isClean_apply (by decide) label
    refine finishes _ ?_
    simp only [dialect, variantName]
    split
    · split
      · exact (by decide : IsClean "VALUE_").append upper
      · exact upper
    · decide
  case fieldName =>
    exact fun raw => finishes _ (isClean_fieldName (by decide) (by decide) (by decide) raw)

theorem Swift.ensures : Swift.dialect.Ensures IsShown := by
  have finishes : ∀ base, IsClean base → Swift.dialect.Finishes IsShown base :=
    fun base clean n => isShown_escape (by decide) (isClean_candidate clean n)
  have fieldName : ∀ raw, IsClean (convention.fieldName raw) :=
    isClean_fieldName (by decide) (by decide) (by decide)
  constructor
  case namespaceName => exact fun schema => finishes _ (clean.namespaceName schema)
  case enumName => exact fun schema name => finishes _ (clean.enumName schema name)
  case compositeName => exact fun schema name => finishes _ (clean.compositeName schema name)
  case relationName =>
    intro schema relation operation
    refine finishes _ ?_
    simp only [dialect]
    refine (isClean_typeName relation).append ?_
    cases operation
    all_goals decide
  case variantName =>
    intro enumName _ label
    refine finishes _ ?_
    simp only [dialect, variantName]
    split
    · exact fieldName label
    · decide
  case fieldName => exact fun raw => finishes _ (fieldName raw)

/-- Nothing is reserved among keys. -/
theorem TypeScript.escape_eq (name : String) :
    convention.escape name = if isIdentifier name then name else quote name := by
  show (if convention.isReserved name || !isIdentifier name then quote name else name) = _
  have free : convention.isReserved name = false := rfl
  rw [free, Bool.false_or]
  cases isIdentifier name
  all_goals rfl

/-- The name is written as it is, or between quotes. -/
def TypeScript.IsKey (name : String) : Prop := isIdentifier name ∨ ∃ raw, name = quote raw

theorem TypeScript.isKey_escape (name : String) : IsKey (convention.escape name) := by
  rw [escape_eq]
  split
  · next plain => exact .inl plain
  · exact .inr ⟨name, rfl⟩

theorem TypeScript.ensures : TypeScript.dialect.Ensures IsKey where
  namespaceName _ _ := isKey_escape _
  enumName _ _ _ := isKey_escape _
  compositeName _ _ _ := isKey_escape _
  relationName _ _ _ _ := isKey_escape _
  variantName _ _ _ _ := isKey_escape _
  fieldName _ _ := isKey_escape _

end CatalogTypes
