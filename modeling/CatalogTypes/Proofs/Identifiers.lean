import CatalogTypes.Proofs.Bases
import CatalogTypes.Proofs.FirstCharacters

/-!
# Generated names are identifiers

In Go, Swift and Python every base is an `IsName`, whatever raw name it is made from, and so are its
numbered candidates; escaping then keeps reserved words away (`Language.ensures_spells`). All names
of the declarations come from such bases, those of fields from their raw names
(`Dialect.namesField_build`).
-/

namespace CatalogTypes

open Text

/-! ## Names -/

/-- Whether a name may begin so. An underscore would make it private in Go and Python. -/
def Language.admitsLead (language : Language) (c : Char) : Bool :=
  !c.isDigit && (c != '_' || language == .swift)

/-- The name is made of name characters, with a first one that may begin it. -/
structure IsName (language : Language) (name : String) : Prop where
  clean : IsClean name
  lead : name.toList.head?.any language.admitsLead

instance (language : Language) (name : String) : Decidable (IsName language name) :=
  decidable_of_iff (IsClean name ∧ name.toList.head?.any language.admitsLead)
    ⟨fun h => ⟨h.1, h.2⟩, fun h => ⟨h.clean, h.lead⟩⟩

section Names

variable {language : Language} {name : String}

theorem IsName.append (h : IsName language name) {other : String} (clean : IsClean other) :
    IsName language (name ++ other) where
  clean := h.clean.append clean
  lead := by
    obtain ⟨c, head, admitted⟩ := (Option.any_eq_true _ _).mp h.lead
    simp [String.toList_append, List.head?_append, head, admitted]

theorem IsName.ne_empty (h : IsName language name) : name ≠ "" := by
  rintro rfl
  exact absurd h.lead (by simp)

theorem isName_candidate (h : IsName language name) (n : Nat) :
    IsName language (Registry.candidate name n) where
  clean := isClean_candidate h.clean n
  lead := by
    obtain ⟨c, head, admitted⟩ := (Option.any_eq_true _ _).mp h.lead
    simp [Registry.toList_candidate, List.head?_append, head, admitted]

theorem isName_of_isWordChar (clean : IsClean name) {c : Char} {cs : List Char}
    (chars : name.toList = c :: cs) (word : isWordChar c) (digit : c.isDigit = false) :
    IsName language name where
  clean := clean
  lead := by
    have other : c ≠ '_' := by
      rintro rfl
      exact absurd word (by decide)
    simp [chars, Language.admitsLead, digit, other]

theorem isNumeric_of_isDigit {c : Char} (h : c.isDigit) : isNumeric c := by
  by_cases ascii : c.toNat < 0x80
  · rwa [isNumeric_of_ascii ascii]
  · simp [isDigit_of_above (Nat.not_lt.mp ascii)] at h

theorem isName_typeName (raw : String) : IsName language (typeName raw) := by
  have lead : IsName language "T" := by cases language <;> decide
  simp only [typeName]
  split
  · exact lead
  · next c cs chars =>
    split
    · exact lead.append (isClean_pascal raw)
    · next numeric =>
      refine isName_of_isWordChar (isClean_pascal raw) chars
        (isWordChar_pascal raw c (by simp [chars])) (Bool.eq_false_iff.mpr fun digit => ?_)
      exact numeric (isNumeric_of_isDigit digit)

theorem isName_converted {casing : Casing} (h : casing ≠ .preserve) {digitLead placeholder : String}
    (hd : IsName language digitLead) (hp : IsName language placeholder) (raw : String) :
    IsName language (converted casing digitLead placeholder raw) := by
  cases lead : lead? raw with
  | none => rwa [converted_of_none lead]
  | some c =>
    rw [converted_of_some h lead]
    split
    · exact hd.append (isClean_apply h raw)
    · next digit =>
      obtain ⟨d, ds, chars, recased⟩ := opens_apply h lead
      refine isName_of_isWordChar (isClean_apply h raw) chars ?_ ?_
      · exact recased.isWordChar (isWordChar_of_isAlphanumeric (isAlphanumeric_of_lead? lead))
      · rw [recased.isDigit_eq]
        exact Bool.eq_false_iff.mpr digit

end Names

namespace Language

variable {language : Language} (h : language ≠ .typescript)
include h

theorem casing_ne_preserve : language.dialect.convention.casing ≠ .preserve := by
  cases language with
  | typescript => exact absurd rfl h
  | go | swift | python => decide

theorem isName_fieldName (raw : String) :
    IsName language (language.dialect.convention.fieldName raw) := by
  rw [Convention.fieldName_eq (casing_ne_preserve h)]
  cases language with
  | typescript => exact absurd rfl h
  | go | swift | python => exact isName_converted (by decide) (by decide) (by decide) raw

end Language

/-! ## Finished names -/

/-- A name as it is given out. Backticks stand around it exactly if it is reserved in Swift. -/
structure Language.Spells (language : Language) (name : String) : Prop where
  free : name ∉ language.dialect.convention.reserved
  shown : ∃ word, IsName language word ∧
    name = if language = .swift ∧ word ∈ Swift.keywords then "`" ++ word ++ "`" else word

theorem Convention.isReserved_iff {conv : Convention} {name : String} :
    conv.isReserved name ↔ name ∈ conv.reserved := by
  simp [isReserved]

/-- Where an underscore is put behind reserved words, it makes no other reserved word of them. -/
theorem Language.spells_of_underscore {language : Language}
    (escaping : language.dialect.convention.escaping = .trailingUnderscore)
    (marked : ∀ word ∈ language.dialect.convention.reserved,
      word ++ "_" ∉ language.dialect.convention.reserved)
    {name : String} (h : IsName language name) :
    language.Spells (language.dialect.convention.escape name) := by
  have other : language ≠ .swift := by
    rintro rfl
    exact absurd escaping (by decide)
  rw [Convention.escape, escaping]
  dsimp only
  split
  · next reserved =>
    have name : IsName language (name ++ "_") := h.append (by decide : IsClean "_")
    exact ⟨marked _ (Convention.isReserved_iff.mp reserved), _, name, by simp [other]⟩
  · next free => exact ⟨mt Convention.isReserved_iff.mpr free, _, h, by simp [other]⟩

theorem Swift.spells_escape {name : String} (h : IsName .swift name) :
    Language.swift.Spells (convention.escape name) := by
  show Language.swift.Spells (if convention.isReserved name then "`" ++ name ++ "`" else name)
  split
  · next reserved =>
    have keyword : name ∈ keywords := Convention.isReserved_iff.mp reserved
    refine ⟨fun mem => ?_, name, h, by simp [keyword]⟩
    have letter : ∀ word ∈ keywords, word.toList.head? ≠ some '\x60' := by decide
    exact letter _ mem (by simp)
  · next free =>
    have other : name ∉ keywords := fun mem =>
      free ((@Convention.isReserved_iff convention name).mpr mem)
    exact ⟨other, name, h, by simp [other]⟩

/-- The escape of a language makes a name of every candidate. -/
theorem Language.finishes_spells {language : Language} (h : language ≠ .typescript) {base : String}
    (name : IsName language base) : language.dialect.Finishes language.Spells base := by
  intro n
  have candidate := isName_candidate name n
  cases language with
  | typescript => exact absurd rfl h
  | go => exact spells_of_underscore rfl (by decide) candidate
  | swift => exact Swift.spells_escape candidate
  | python => exact spells_of_underscore rfl (by decide) candidate

/-! ## Languages -/

theorem Language.Spells.isName {language : Language} (h : language ≠ .swift) {name : String}
    (spells : language.Spells name) : IsName language name := by
  obtain ⟨-, word, isName, shown⟩ := spells
  rwa [shown, if_neg fun swift => h swift.1]

theorem Go.ensures_spells : Go.dialect.Ensures Language.go.Spells := by
  have finishes : ∀ base, IsName .go base → Go.dialect.Finishes Language.go.Spells base :=
    fun _ name => @Language.finishes_spells .go (by decide) _ name
  constructor
  case variantName =>
    intro enumName name label
    apply finishes
    simp only [dialect, variantName]
    refine (name.isName (by decide)).append ?_
    split
    · decide
    · exact isClean_pascal label
  case fieldName =>
    intro raw
    apply finishes
    exact @Language.isName_fieldName .go (by decide) raw
  all_goals
    intros
    apply finishes
    simp only [dialect]
    exact isName_typeName _

theorem Python.ensures_spells : Python.dialect.Ensures Language.python.Spells := by
  have finishes : ∀ base, IsName .python base →
      Python.dialect.Finishes Language.python.Spells base :=
    fun _ name => @Language.finishes_spells .python (by decide) _ name
  constructor
  case relationName =>
    intro schema relation operation
    apply finishes
    cases operation
    all_goals
      simp only [dialect, relationName]
      exact isName_typeName _
  case variantName =>
    intro enumName _ label
    apply finishes
    simp only [dialect, variantName_eq]
    exact isName_converted (by decide) (by decide) (by decide) label
  case fieldName =>
    intro raw
    apply finishes
    exact @Language.isName_fieldName .python (by decide) raw
  all_goals
    intros
    apply finishes
    simp only [dialect]
    exact isName_typeName _

theorem Swift.ensures_spells : Swift.dialect.Ensures Language.swift.Spells := by
  have finishes : ∀ base, IsName .swift base → Swift.dialect.Finishes Language.swift.Spells base :=
    fun _ name => @Language.finishes_spells .swift (by decide) _ name
  constructor
  case namespaceName =>
    intro schema
    apply finishes
    simp only [dialect]
    exact (isName_typeName schema).append (by decide)
  case relationName =>
    intro schema relation operation
    apply finishes
    simp only [dialect]
    refine (isName_typeName relation).append ?_
    cases operation
    all_goals decide
  case variantName =>
    intro enumName _ label
    apply finishes
    simp only [dialect, variantName_eq]
    exact isName_converted (by decide) (by decide) (by decide) label
  case fieldName =>
    intro raw
    apply finishes
    exact @Language.isName_fieldName .swift (by decide) raw
  all_goals
    intros
    apply finishes
    simp only [dialect]
    exact isName_typeName _

theorem Language.ensures_spells {language : Language} (h : language ≠ .typescript) :
    language.dialect.Ensures language.Spells := by
  cases language with
  | typescript => exact absurd rfl h
  | go => exact Go.ensures_spells
  | swift => exact Swift.ensures_spells
  | python => exact Python.ensures_spells

/-! ## Runs of claims -/

/-- What a raw name is converted for. A variant is named after its enumeration, which got its own
name from some registry. -/
inductive Use where
  | schema
  | enumeration (schema : String)
  | composite (schema : String)
  | relation (schema : String) (operation : Operation)
  | variant (types : Registry) (schema enumeration : String)
  | field

def Use.base (d : Dialect) (raw : String) : Use → String
  | .schema => d.namespaceName raw
  | .enumeration home => d.enumName home raw
  | .composite home => d.compositeName home raw
  | .relation home operation => d.relationName home raw operation
  | .variant types home type => d.variantName (d.claimType types (d.enumName home type)).1 raw
  | .field => d.convention.fieldName raw

theorem Dialect.Ensures.finishes_base {d : Dialect} {P : String → Prop} (h : d.Ensures P)
    (raw : String) (use : Use) : d.Finishes P (use.base d raw) := by
  cases use with
  | schema => exact h.namespaceName raw
  | enumeration schema => exact h.enumName schema raw
  | composite schema => exact h.compositeName schema raw
  | relation schema operation => exact h.relationName schema raw operation
  | variant types schema enumeration =>
    exact h.variantName _ (claimType_of_finishes (h.enumName schema enumeration) types) raw
  | field => exact h.fieldName raw

/-- The names given out for raw names, each converted for its use. -/
def Dialect.claimAll (d : Dialect) (reg : Registry) (raws : List (String × Use)) : List String :=
  (mapThread (fun reg (raw, use) => d.claim reg (use.base d raw)) reg raws).1

theorem Dialect.Ensures.claimAll {d : Dialect} {P : String → Prop} (h : d.Ensures P)
    (reg : Registry) (raws : List (String × Use)) : ∀ name ∈ d.claimAll reg raws, P name :=
  forall_mem_mapThread (fun reg (raw, use) => claim_of_finishes (h.finishes_base raw use) reg) _ _

/-! ## Names of fields -/

theorem forall₂_mapThread {σ α β : Type} {f : σ → α → β × σ} {R : α → β → Prop}
    (step : ∀ s x, R x (f s x).1) (s : σ) (xs : List α) :
    List.Forall₂ R xs (mapThread f s xs).1 := by
  induction xs generalizing s with
  | nil => exact .nil
  | cons x xs ih => exact .cons (step s x) (ih _)

theorem forall_mem_zipWith {α β γ : Type} {R : β → α → Prop} {P : γ → Prop} {f : α → β → γ}
    (step : ∀ a b, R b a → P (f a b)) {as : List α} {bs : List β} (h : List.Forall₂ R bs as) :
    ∀ c ∈ as.zipWith f bs, P c := by
  induction h with
  | nil => simp
  | cons h _ ih => exact List.forall_mem_cons.mpr ⟨step _ _ h, ih⟩

namespace Dialect

variable (d : Dialect) (ix : Index)

theorem forall₂_fieldNames (rawNames : List String) :
    List.Forall₂ (fun raw name => d.Gives (d.convention.fieldName raw) name) rawNames
      (d.fieldNames rawNames) :=
  forall₂_mapThread (fun reg raw => d.gives_claim reg (d.convention.fieldName raw)) _ _

/-- The name of the field is one that its raw name gives. -/
def NamesField (f : Field) : Prop := d.Gives (d.convention.fieldName f.rawName) f.name

theorem namesField_compositeFields (refs : References) (t : TypeDef) :
    ∀ f ∈ d.compositeFields ix refs t, d.NamesField f :=
  forall_mem_zipWith (P := d.NamesField) (fun _ _ gives => gives)
    (List.forall₂_map_left_iff.mp (d.forall₂_fieldNames _))

theorem namesField_relationFields (refs : References) (r : KindedRelation)
    (operation : Operation) : ∀ f ∈ d.relationFields ix refs r operation, d.NamesField f :=
  forall_mem_zipWith (P := d.NamesField) (fun _ _ gives => gives)
    (List.forall₂_map_left_iff.mp (d.forall₂_fieldNames _))

theorem namesField_build (o : Options) : ∀ sd ∈ (d.build ix o).declarations.schemas,
    ∀ r ∈ sd.records, ∀ f ∈ r.fields, d.NamesField f := by
  refine d.forall_mem_build ix o fun p _ _ r hr => ?_
  rcases List.mem_append.mp hr with hr | hr
  · obtain ⟨q, -, rfl⟩ := List.mem_map.mp hr
    exact d.namesField_compositeFields ix _ q.1
  · obtain ⟨rd, hrd, hr⟩ := List.mem_flatMap.mp hr
    obtain ⟨q, -, rfl⟩ := List.mem_map.mp hrd
    obtain ⟨decl, -, rfl⟩ := List.mem_map.mp hr
    exact d.namesField_relationFields ix _ q.1 decl.1

end Dialect

/-- A placeholder stands as it is, perhaps with a number behind. -/
theorem Language.escape_placeholder {language : Language} (h : language ≠ .typescript) (n : Nat) :
    language.dialect.escape
        (Registry.candidate language.dialect.convention.placeholder n) =
      Registry.candidate language.dialect.convention.placeholder n := by
  have escaping : language.dialect.convention.escaping ≠ .quote := by
    cases language with
    | typescript => exact absurd rfl h
    | go | swift | python => decide
  refine Convention.escape_eq escaping ?_
  cases n with
  | zero => cases language <;> decide
  | succ n => exact language.unnumbered.not_isReserved _ n.succ_ne_zero

/-! ## Declarations -/

structure Declarations.Spelled (ds : Declarations) (language : Language) : Prop where
  names : ∀ sd ∈ ds.schemas, sd.Named language.Spells
  /-- A field without a letter or digit in its raw name is called by the placeholder. -/
  placeholders : ∀ sd ∈ ds.schemas, ∀ r ∈ sd.records, ∀ f ∈ r.fields, hasWords f.rawName = false →
    ∃ n, f.name = Registry.candidate language.dialect.convention.placeholder n

theorem declare_spelled (s : Snapshot) (o : Options) (h : o.language ≠ .typescript) :
    (declare s o).declarations.Spelled o.language ∧
      ∀ reg raws, ∀ name ∈ o.language.dialect.claimAll reg raws, o.language.Spells name := by
  have ensures := Language.ensures_spells h
  refine ⟨⟨ensures.named _ o, ?_⟩, ensures.claimAll⟩
  intro sd hsd r hr f hf wordless
  obtain ⟨n, name⟩ := o.language.dialect.namesField_build _ o sd hsd r hr f hf
  rw [Convention.fieldName_eq (Language.casing_ne_preserve h),
    converted_of_none (lead?_eq_none_iff.mpr wordless), Language.escape_placeholder h] at name
  exact ⟨n, name⟩

/-- A view with texts in its columns. -/
def Snapshot.ofColumns (names : List String) : Snapshot where
  schemas := [⟨1, "public"⟩]
  views := [⟨10, "public", "v"⟩]
  columns := names.map fun name => { tableId := 10, name, format := "text" }

theorem declare_spelled_swift :
    Language.swift ≠ .typescript ∧
      (declare (.ofColumns ["-", "default"]) { language := .swift }).declarations.Spelled .swift ∧
      ∀ name ∈ Language.swift.dialect.claimAll .empty [("-", .field), ("default", .field)],
        Language.swift.Spells name := by
  have spelled := declare_spelled (.ofColumns ["-", "default"]) { language := .swift } (by decide)
  exact ⟨by decide, spelled.1, spelled.2 .empty _⟩

end CatalogTypes
