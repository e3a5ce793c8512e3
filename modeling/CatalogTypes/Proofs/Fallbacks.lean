import CatalogTypes.Proofs.FieldTypes
import CatalogTypes.Proofs.Findings

/-!
# When a field falls back to the type of all values

The type of a field is looked up: by a name that is left of a format once its array markers are off,
by a type, or by an id that no type has. `Lookup.Fails` says why a look-up gives nothing, and
`Lookup.Finds` what it gives otherwise, by the declarations that are there. A field has the type of
all values for want of a better one just when its look-up fails, and the failures of all look-ups
are the warnings that are reported.
-/

namespace CatalogTypes

/-- What the type of a field is looked up by. -/
inductive Lookup where
  /-- A name without array markers, read in the schema `home`. -/
  | name (home element : String)
  /-- An enumeration or composite. -/
  | type (t : TypeDef)
  /-- An id that no type has, given by an attribute of a composite. -/
  | missing (id : ObjectId) (composite attr : String)

/-! ## Rules -/

section Rules

variable (s : Snapshot) (o : Options)

/-- The look-up for a column: by its format without array markers, in the schema of the relation. -/
inductive ColumnLookup (r : KindedRelation) (c : Column) : Lookup → Prop
  | intro {layers : Nat} {element : String}
      (unwraps : Unwraps c.format.toList layers element.toList) :
      ColumnLookup r c (.name r.schema element)

/-- The look-up for an attribute of `t`. The type of its id is taken as it is, unless it is a scalar
type, which is read by its name in its own schema. -/
inductive AttributeLookup (t : TypeDef) (attr : Attribute) : Lookup → Prop
  | scalar {u : TypeDef} {layers : Nat} {element : String} (first : IsFirst (·.id) s.types u)
      (id : u.id = attr.typeId) (kind : u.isScalar)
      (unwraps : Unwraps u.name.toList layers element.toList) :
      AttributeLookup t attr (.name u.schema element)
  | type {u : TypeDef} (first : IsFirst (·.id) s.types u) (id : u.id = attr.typeId)
      (kind : u.isScalar = false) : AttributeLookup t attr (.type u)
  | missing (h : ∀ u ∈ s.types, u.id ≠ attr.typeId) :
      AttributeLookup t attr (.missing attr.typeId (t.schema ++ "." ++ t.name) attr.name)

/-- The look-up is made for a field of a relation or composite that is declared. -/
inductive Snapshot.Looks : Lookup → Prop
  | column {r : KindedRelation} {c : Column} {l : Lookup} (first : IsFirst (·.id) s.relations r)
      (emitted : s.emits o r.schema) (hc : c ∈ s.columns) (owner : c.tableId = r.id)
      (h : ColumnLookup r c l) : Looks l
  | attribute {t : TypeDef} {attr : Attribute} {l : Lookup} (first : IsFirst (·.id) s.types t)
      (kind : t.isComposite) (emitted : s.emits o t.schema) (ha : attr ∈ t.attributes)
      (h : AttributeLookup s t attr l) : Looks l

/-- The enumeration or composite that a look-up comes to. -/
inductive Lookup.Selects : Lookup → TypeDef → Prop
  | named {home element : String} {t : TypeDef} (h : Scalar.ofFormat? element = none)
      (found : (Index.ofSnapshot s).typeNamed? element (some home) = some t)
      (kind : t.isScalar = false) : Selects (.name home element) t
  | type {t : TypeDef} : Selects (.type t) t

/-- Why a look-up gives no type: nothing but scalar types that are not built in has the name, or the
type that it comes to is not written, or there is none. -/
inductive Lookup.Fails : Lookup → Warning → Prop
  | unknown {home element : String} (h : Scalar.ofFormat? element = none)
      (scalars : ∀ t, (Index.ofSnapshot s).typeNamed? element (some home) = some t → t.isScalar) :
      Fails (.name home element) (.unknownBaseType element)
  | excluded {l : Lookup} {t : TypeDef} (selects : l.Selects s t)
      (out : s.emits o t.schema = false) : Fails l (.excludedTypeReference t.schema t.name)
  | missing {id : ObjectId} {composite attr : String} :
      Fails (.missing id composite attr) (.unresolvedTypeReference id composite attr)

/-- The name of the type that a look-up gives: that of a built-in scalar, or how fields refer to a
declaration that is there. -/
inductive Lookup.Finds (d : Dialect) (ds : Declarations) : Lookup → String → Prop
  | builtin {home element : String} {scalar : Scalar}
      (h : Scalar.ofFormat? element = some scalar) :
      Finds d ds (.name home element) (d.scalarType scalar)
  | reference {l : Lookup} {t : TypeDef} {text : String} (selects : l.Selects s t)
      (refers : Refers d (.ofSnapshot s) ds t text) : Finds d ds l text

variable {s o} {l : Lookup} {t u : TypeDef} {r : KindedRelation} {c : Column} {attr : Attribute}
variable {d : Dialect} {ds : Declarations}

theorem Lookup.Selects.eq (h : l.Selects s t) (h' : l.Selects s u) : t = u := by
  rcases h with ⟨-, found, -⟩ | -
  · obtain ⟨-, found', -⟩ := h'
    exact Option.some.inj (found.symm.trans found')
  · obtain - | - := h'
    rfl

/-- A look-up that comes to a type fails only because the type is not written. -/
theorem Lookup.Selects.fails_iff (h : l.Selects s t) {w : Warning} :
    l.Fails s o w ↔ s.emits o t.schema = false ∧ w = .excludedTypeReference t.schema t.name := by
  constructor
  · rintro (⟨-, scalars⟩ | ⟨h', out⟩ | -)
    · obtain ⟨-, found, kind⟩ := h
      simp [scalars t found] at kind
    · obtain rfl := h.eq h'
      exact ⟨out, rfl⟩
    · obtain - | - := h
  · rintro ⟨out, rfl⟩
    exact .excluded h out

/-- A look-up that comes to a type gives the references to its declaration. -/
theorem Lookup.Selects.finds_iff (h : l.Selects s t) {name : String} :
    l.Finds s d ds name ↔ Refers d (.ofSnapshot s) ds t name := by
  constructor
  · rintro (builtin | ⟨h', refers⟩)
    · obtain ⟨none, -, -⟩ := h
      simp [none] at builtin
    · rwa [h.eq h']
  · exact .reference h

/-- A name that selects no type is that of a built-in scalar, or it is not known. -/
theorem Lookup.fails_name_iff {home element : String}
    (h : ∀ t, ¬ (Lookup.name home element).Selects s t) {w : Warning} :
    (Lookup.name home element).Fails s o w ↔
      Scalar.ofFormat? element = none ∧ w = .unknownBaseType element := by
  constructor
  · rintro (⟨none, -⟩ | ⟨selects, -⟩)
    · exact ⟨none, rfl⟩
    · exact absurd selects (h _)
  · rintro ⟨none, rfl⟩
    refine .unknown none fun t found => ?_
    by_cases kind : t.isScalar
    · exact kind
    · exact absurd (.named none found (by simpa using kind)) (h t)

/-- A look-up selects kept types only. -/
def Lookup.Sound (s : Snapshot) (l : Lookup) : Prop :=
  ∀ t, l.Selects s t → t ∈ s.keptTypes ∧ t.isScalar = false

theorem Lookup.sound_name (s : Snapshot) (home element : String) :
    (Lookup.name home element).Sound s := by
  rintro t (⟨-, found, kind⟩ | -)
  exact ⟨Index.mem_keptTypes_of_typeNamed? found, kind⟩

theorem ColumnLookup.sound (h : ColumnLookup r c l) : l.Sound s := by
  obtain ⟨-⟩ := h
  exact Lookup.sound_name _ _ _

theorem AttributeLookup.sound (h : AttributeLookup s t attr l) : l.Sound s := by
  rcases h with ⟨-, -, -, -⟩ | ⟨first, -, kind⟩ | -
  · exact Lookup.sound_name _ _ _
  · rintro u (- | -)
    exact ⟨Snapshot.mem_keptTypes_iff.mpr first, kind⟩
  · rintro u (- | -)

end Rules

/-! ## Look-ups give a type or fail -/

section Emitted

variable {d : Dialect} {s : Snapshot} {o : Options} {t : TypeDef}

/-- The map of references has the types that are declared. -/
theorem contains_emitted_iff (kept : t ∈ s.keptTypes) (kind : t.isScalar = false) :
    (d.emitted (.ofSnapshot s) o).contains t.id ↔ s.emits o t.schema := by
  rw [Dialect.emitted, Dialect.references, Std.HashMap.contains_ofList, List.contains_iff_mem,
    ids_references_plan, List.mem_map]
  constructor
  · rintro ⟨u, hu, id⟩
    obtain ⟨first, -, emitted⟩ := Index.mem_declaredTypes_iff.mp hu
    rwa [← Snapshot.eq_of_mem_keptTypes (Snapshot.mem_keptTypes_iff.mpr first) kept id]
  · intro emitted
    exact ⟨t, Index.mem_declaredTypes_iff.mpr
      ⟨Snapshot.mem_keptTypes_iff.mp kept, kind, emitted⟩, rfl⟩

/-- Fields can refer to a type exactly if its schema is written. -/
theorem exists_refers_iff (kept : t ∈ s.keptTypes) (kind : t.isScalar = false) :
    (∃ text, Refers d (.ofSnapshot s) (d.build (.ofSnapshot s) o).declarations t text) ↔
      s.emits o t.schema := by
  rw [← contains_emitted_iff (d := d) kept kind, Std.HashMap.contains_eq_isSome_getElem?,
    Option.isSome_iff_exists]
  exact exists_congr fun text => (getElem?_emitted_eq_some_iff kept).symm

/-- A look-up fails, and for a reason, exactly if it gives no type. -/
theorem Lookup.exists_fails_iff {l : Lookup} (sound : l.Sound s) :
    (∃ w, l.Fails s o w) ↔
      ∀ name, ¬ l.Finds s d (d.build (.ofSnapshot s) o).declarations name := by
  by_cases selects : ∃ t, l.Selects s t
  · obtain ⟨t, selects⟩ := selects
    obtain ⟨kept, kind⟩ := sound t selects
    simp only [selects.fails_iff, selects.finds_iff, exists_eq_right]
    rw [← not_exists, exists_refers_iff kept kind, Bool.not_eq_true]
  · rw [not_exists] at selects
    cases l with
    | name home element =>
      simp only [fails_name_iff selects, exists_eq_right]
      constructor
      · rintro none name (builtin | ⟨selects', -⟩)
        · simp [none] at builtin
        · exact absurd selects' (selects _)
      · intro finds
        cases h : Scalar.ofFormat? element with
        | none => rfl
        | some scalar => exact absurd (.builtin h) (finds _)
    | type t => exact absurd .type (selects t)
    | missing id composite attr =>
      refine iff_of_true ⟨_, .missing⟩ ?_
      rintro name (- | ⟨selects', -⟩)
      exact absurd selects' (selects _)

end Emitted

/-! ## Resolution makes the look-ups -/

/-- The meaning is what the look-up comes to: a warning if the look-up fails, and the type that it
gives otherwise. -/
structure Meaning.Answers (m : Meaning) (d : Dialect) (s : Snapshot) (o : Options) (l : Lookup) :
    Prop where
  fails : ∀ w, m.warning? = some w ↔ l.Fails s o w
  finds : ∀ name, l.Finds s d (d.build (.ofSnapshot s) o).declarations name →
    m.name d ((d.emitted (.ofSnapshot s) o)[·]?) = name

section Resolution

variable (d : Dialect) (s : Snapshot) (o : Options)

theorem reference_answers {l : Lookup} {t : TypeDef} (selects : l.Selects s t)
    (kept : t ∈ s.keptTypes) (kind : t.isScalar = false) :
    (Index.reference (d.emitted (.ofSnapshot s) o).contains t).Answers d s o l where
  fails := by
    intro w
    have contains := contains_emitted_iff (d := d) (o := o) kept kind
    rw [selects.fails_iff, Index.reference]
    cases emitted : s.emits o t.schema with
    | true =>
      rw [if_pos (contains.mpr emitted)]
      simp [Meaning.warning?]
    | false =>
      rw [if_neg (by simp [contains, emitted])]
      simp [Meaning.warning?, eq_comm]
  finds := by
    intro name finds
    refine (names_iff (fun t kept text => getElem?_emitted_eq_some_iff kept) kept).mp ?_
    exact .declared (selects.finds_iff.mp finds)

theorem meaning_answers (home element : String) :
    ((Index.ofSnapshot s).meaning (d.emitted (.ofSnapshot s) o).contains (some home)
      element).Answers d s o (.name home element) := by
  unfold Index.meaning
  cases h : Scalar.ofFormat? element with
  | some scalar =>
    constructor
    · intro w
      refine iff_of_false (by simp [Meaning.warning?]) ?_
      rintro (⟨none, -⟩ | ⟨⟨none, -, -⟩, -⟩) <;> simp [h] at none
    · rintro name (builtin | ⟨⟨none, -, -⟩, -⟩)
      · obtain rfl := Option.some.inj (h.symm.trans builtin)
        rfl
      · simp [h] at none
  | none =>
    cases ht : ((Index.ofSnapshot s).typeNamed? element (some home)).filter (!·.isScalar) with
    | some t =>
      obtain ⟨found, kind⟩ := Option.filter_eq_some_iff.mp ht
      rw [Bool.not_eq_true'] at kind
      exact reference_answers d s o (.named h found kind)
        (Index.mem_keptTypes_of_typeNamed? found) kind
    | none =>
      -- At most a scalar type has the name, and that is no type to refer to.
      have unselected : ∀ t, ¬ (Lookup.name home element).Selects s t := by
        rintro t (⟨-, found, kind⟩ | -)
        simpa [kind] using Option.filter_eq_none_iff.mp ht t found
      constructor
      · intro w
        rw [Lookup.fails_name_iff unselected]
        simp [Meaning.warning?, h, eq_comm]
      · rintro name (builtin | ⟨selects, -⟩)
        · simp [h] at builtin
        · exact absurd selects (unselected _)

theorem resolve_answers {home format element : String} {layers : Nat}
    (unwraps : Unwraps format.toList layers element.toList) :
    ((Index.ofSnapshot s).resolve (d.emitted (.ofSnapshot s) o).contains (some home)
      format).meaning.Answers d s o (.name home element) := by
  rw [Index.resolve, unwraps_iff.mp unwraps]
  show Meaning.Answers ((Index.ofSnapshot s).meaning _ _ (String.ofList element.toList)) d s o _
  rw [String.ofList_toList]
  exact meaning_answers d s o home element

theorem resolveColumn_answers {r : KindedRelation} {c : Column} {l : Lookup}
    (h : ColumnLookup r c l) :
    (Dialect.resolveColumn (.ofSnapshot s) (d.emitted (.ofSnapshot s) o) r c).meaning.Answers
      d s o l := by
  obtain ⟨unwraps⟩ := h
  exact resolve_answers d s o unwraps

theorem resolveAttribute_answers {t : TypeDef} {attr : Attribute} {l : Lookup}
    (h : AttributeLookup s t attr l) :
    ((Index.ofSnapshot s).resolveAttribute (d.emitted (.ofSnapshot s) o).contains t
      attr).meaning.Answers d s o l := by
  rw [Index.resolveAttribute]
  rcases h with ⟨first, id, kind, unwraps⟩ | ⟨first, id, kind⟩ | h
  · have kept := Snapshot.mem_keptTypes_iff.mpr first
    simp only [Index.type?_eq_some_iff.mpr ⟨kept, id⟩, kind, ↓reduceIte]
    exact resolve_answers d s o unwraps
  · have kept := Snapshot.mem_keptTypes_iff.mpr first
    simp only [Index.type?_eq_some_iff.mpr ⟨kept, id⟩, kind, Bool.false_eq_true, ↓reduceIte]
    exact reference_answers d s o .type kept kind
  · have none : (Index.ofSnapshot s).type? attr.typeId = none := by
      refine Option.eq_none_iff_forall_ne_some.mpr fun u found => ?_
      obtain ⟨kept, id⟩ := Index.type?_eq_some_iff.mp found
      exact h u (Snapshot.mem_keptTypes_iff.mp kept).mem id
    simp only [none]
    constructor
    · intro w
      constructor
      · intro heq
        obtain rfl := Option.some.inj heq
        exact .missing
      · rintro (- | ⟨- | -, -⟩ | -)
        rfl
    · rintro name (- | ⟨- | -, -⟩)

/-- Every name has something left when its array markers are off. -/
theorem exists_unwraps (format : String) :
    ∃ (layers : Nat) (element : String), Unwraps format.toList layers element.toList := by
  refine ⟨(unwrapChars format.toList).1, String.ofList (unwrapChars format.toList).2, ?_⟩
  rw [String.toList_ofList]
  exact unwraps_unwrapChars _

/-- There is a look-up for every column. -/
theorem exists_columnLookup (r : KindedRelation) (c : Column) : ∃ l, ColumnLookup r c l := by
  obtain ⟨layers, element, unwraps⟩ := exists_unwraps c.format
  exact ⟨_, .intro unwraps⟩

/-- There is a look-up for every attribute. -/
theorem exists_attributeLookup (t : TypeDef) (attr : Attribute) :
    ∃ l, AttributeLookup s t attr l := by
  by_cases h : ∃ u ∈ s.types, u.id = attr.typeId
  · obtain ⟨v, hv, id⟩ := h
    obtain ⟨u, first, heq⟩ : ∃ u, IsFirst (·.id) s.types u ∧ u.id = v.id := exists_isFirst hv
    cases kind : u.isScalar with
    | true =>
      obtain ⟨layers, element, unwraps⟩ := exists_unwraps u.name
      exact ⟨_, .scalar first (heq.trans id) kind unwraps⟩
    | false => exact ⟨.type u, .type first (heq.trans id) kind⟩
  · exact ⟨_, .missing fun u hu id => h ⟨u, hu, id⟩⟩

end Resolution

/-! ## Warnings of a build -/

namespace Dialect

variable (d : Dialect)

/-- The warnings follow the schemas that are written, in each of them its composites and then its
relations. -/
theorem warnings_build (ix : Index) (o : Options) :
    (d.build ix o).warnings = (ix.emittedNames o).flatMap fun schema =>
      ((ix.composites schema).flatMap fun t => t.attributes.filterMap fun attr =>
        (ix.resolveAttribute (d.emitted ix o).contains t attr).warning?) ++
      (ix.relations schema).flatMap fun r => (ix.columns r.id).filterMap fun c =>
        (resolveColumn ix (d.emitted ix o) r c).warning? := by
  rw [Index.emittedNames, ← d.schema_plan, List.flatMap_map]
  refine List.flatMap_congr fun p hp => ?_
  have covers := d.plan_covers ix o p hp
  rw [← covers.composites, ← covers.relations, List.flatMap_map, List.flatMap_map]
  rfl

/-- What a build warns of are the look-ups that fail. -/
theorem mem_warnings_build_iff {s : Snapshot} {o : Options} {w : Warning} :
    w ∈ (d.build (.ofSnapshot s) o).warnings ↔ ∃ l, s.Looks o l ∧ l.Fails s o w := by
  simp only [warnings_build, List.mem_flatMap, List.mem_append, List.mem_filterMap,
    Index.mem_emittedNames_iff, Index.mem_composites_iff, Index.mem_relations_iff]
  constructor
  · rintro ⟨_, emitted, ⟨t, ⟨first, kind, rfl⟩, attr, ha, warns⟩ | ⟨r, ⟨first, rfl⟩, c, hc, warns⟩⟩
    · obtain ⟨l, h⟩ := exists_attributeLookup s t attr
      exact ⟨l, .attribute first kind emitted ha h,
        ((resolveAttribute_answers d s o h).fails w).mp warns⟩
    · obtain ⟨hc, owner⟩ := (Index.mem_columns_iff first.mem).mp hc
      obtain ⟨l, h⟩ := exists_columnLookup r c
      exact ⟨l, .column first emitted hc owner h,
        ((resolveColumn_answers d s o h).fails w).mp warns⟩
  · rintro ⟨l, ⟨first, emitted, hc, owner, h⟩ | ⟨first, kind, emitted, ha, h⟩, fails⟩
    · have hc := (Index.mem_columns_iff first.mem).mpr ⟨hc, owner⟩
      refine ⟨_, emitted, .inr ⟨_, ⟨first, rfl⟩, _, hc, ?_⟩⟩
      exact ((resolveColumn_answers d s o h).fails w).mpr fails
    · refine ⟨_, emitted, .inl ⟨_, ⟨first, kind, rfl⟩, _, ha, ?_⟩⟩
      exact ((resolveAttribute_answers d s o h).fails w).mpr fails

end Dialect

/-! ## Fields and warnings -/

/-- The field has the type that its look-up gives, and the type of all values if it gives none. -/
structure Field.Follows (f : Field) (d : Dialect) (s : Snapshot) (ds : Declarations) (l : Lookup) :
    Prop where
  found : ∀ name, l.Finds s d ds name → f.type.base = name
  fallsBack : (∀ name, ¬ l.Finds s d ds name) → f.type.base = d.anyType

/-- The field follows its look-up, and there is a warning why exactly if the look-up gives
nothing. -/
structure Field.Explained (f : Field) (d : Dialect) (s : Snapshot) (o : Options)
    (ds : Declarations) (ws : List Warning) (l : Lookup) : Prop extends f.Follows d s ds l where
  warned : (∃ w ∈ ws, l.Fails s o w) ↔ ∀ name, ¬ l.Finds s d ds name

/-- Each of the three warnings about fields is there exactly if a field gives rise to it, and once;
every field that falls back to the type of all values is explained by one, and no other field is. -/
structure FallbacksExplained (d : Dialect) (s : Snapshot) (o : Options) (ds : Declarations)
    (ws : List Warning) : Prop where
  unknown : ∀ format, .unknownBaseType format ∈ ws ↔
    ∃ home, s.Looks o (.name home format) ∧ Scalar.ofFormat? format = none ∧
      ∀ t, (Index.ofSnapshot s).typeNamed? format (some home) = some t → t.isScalar
  excluded : ∀ schema name, .excludedTypeReference schema name ∈ ws ↔
    ∃ l t, s.Looks o l ∧ l.Selects s t ∧ IsFirst (·.id) s.types t ∧ t.isScalar = false ∧
      t.schema = schema ∧ t.name = name ∧
      ((∀ x ∈ s.schemas, x.name ≠ schema) ∨ o.admits schema = false)
  unresolved : ∀ id composite attrName, .unresolvedTypeReference id composite attrName ∈ ws ↔
    ∃ t, IsFirst (·.id) s.types t ∧ t.isComposite ∧ s.emits o t.schema ∧
      t.schema ++ "." ++ t.name = composite ∧
      ∃ attr ∈ t.attributes, attr.name = attrName ∧ attr.typeId = id ∧ ∀ u ∈ s.types, u.id ≠ id
  nodup : ws.Nodup
  columns : ∀ sd ∈ ds.schemas, List.Forall₂ (fun r rd => ∀ decl ∈ rd.decls,
    List.Forall₂ (fun c f => ∃ l, ColumnLookup r c l ∧ f.Explained d s o ds ws l)
      ((Index.ofSnapshot s).columns r.id) decl.fields)
    ((Index.ofSnapshot s).relations sd.rawName) sd.relations
  attributes : ∀ sd ∈ ds.schemas, List.Forall₂ (fun t c =>
    List.Forall₂ (fun attr f => ∃ l, AttributeLookup s t attr l ∧ f.Explained d s o ds ws l)
      t.attributes c.fields)
    ((Index.ofSnapshot s).composites sd.rawName) sd.composites

theorem Snapshot.Looks.sound {s : Snapshot} {o : Options} {l : Lookup} (h : s.Looks o l) :
    l.Sound s := by
  rcases h with ⟨-, -, -, -, h⟩ | ⟨-, -, -, -, h⟩
  · exact h.sound
  · exact h.sound

theorem Snapshot.emits_eq_false_iff {s : Snapshot} {o : Options} {schema : String} :
    s.emits o schema = false ↔ (∀ x ∈ s.schemas, x.name ≠ schema) ∨ o.admits schema = false := by
  rw [Snapshot.emits, Bool.and_eq_false_iff, List.any_eq_false]
  simp only [beq_iff_eq, ne_eq]

theorem Resolved.base_typeOrNull (d : Dialect) (reference? : ObjectId → Option String)
    (nullable : Bool) (r : Resolved) :
    (r.typeOrNull d reference? nullable).base = r.meaning.name d reference? := by
  rw [typeOrNull, type_eq]
  cases nullable with
  | true =>
    rw [if_pos rfl, TargetType.orNull_lists_named]
    exact TargetType.base_lists ..
  | false => exact TargetType.base_lists ..

section Fields

variable (d : Dialect) (s : Snapshot) (o : Options)

/-- A field whose meaning is what a look-up comes to follows the look-up. -/
theorem Meaning.Answers.follows {d : Dialect} {s : Snapshot} {o : Options} {l : Lookup}
    {m : Meaning} (answers : m.Answers d s o l) (sound : l.Sound s) {f : Field}
    (base : f.type.base = m.name d ((d.emitted (.ofSnapshot s) o)[·]?)) :
    f.Follows d s (d.build (.ofSnapshot s) o).declarations l where
  found name finds := base.trans (answers.finds name finds)
  fallsBack := by
    intro nothing
    obtain ⟨w, fails⟩ := (Lookup.exists_fails_iff sound).mpr nothing
    have warns := (answers.fails w).mpr fails
    rw [base]
    cases m with
    | builtin | declared => simp [Meaning.warning?] at warns
    | unknown => rfl

theorem columns_follow : ∀ sd ∈ (d.build (.ofSnapshot s) o).declarations.schemas,
    List.Forall₂ (fun r rd => ∀ decl ∈ rd.decls, List.Forall₂ (fun c f => ∃ l,
      ColumnLookup r c l ∧ f.Follows d s (d.build (.ofSnapshot s) o).declarations l)
      ((Index.ofSnapshot s).columns r.id) decl.fields)
    ((Index.ofSnapshot s).relations sd.rawName) sd.relations := by
  refine d.forall_mem_build _ o fun p _ covers => covers.forall₂_relations d _ ?_
  intro r names _ decl hd
  obtain ⟨⟨operation, name⟩, -, rfl⟩ := List.mem_map.mp hd
  refine d.forall₂_relationFields _ r operation fun name c => ?_
  obtain ⟨l, h⟩ := exists_columnLookup r c
  exact ⟨l, h, (resolveColumn_answers d s o h).follows h.sound (Resolved.base_typeOrNull ..)⟩

theorem attributes_follow : ∀ sd ∈ (d.build (.ofSnapshot s) o).declarations.schemas,
    List.Forall₂ (fun t c => List.Forall₂ (fun attr f => ∃ l,
      AttributeLookup s t attr l ∧ f.Follows d s (d.build (.ofSnapshot s) o).declarations l)
      t.attributes c.fields)
    ((Index.ofSnapshot s).composites sd.rawName) sd.composites := by
  refine d.forall_mem_build _ o fun p _ covers => covers.forall₂_composites d _ ?_
  intro t name
  refine d.forall₂_compositeFields _ t fun name attr => ?_
  obtain ⟨l, h⟩ := exists_attributeLookup s t attr
  exact ⟨l, h, (resolveAttribute_answers d s o h).follows h.sound
    (Resolved.base_typeOrNull d _ true _)⟩

end Fields

section Warned

variable {d : Dialect} {s : Snapshot} {o : Options} {ws : List Warning}

theorem Field.Follows.explained {f : Field} {l : Lookup}
    (h : f.Follows d s (d.build (.ofSnapshot s) o).declarations l) (looks : s.Looks o l)
    (warned : ∀ w, l.Fails s o w → w ∈ ws) :
    f.Explained d s o (d.build (.ofSnapshot s) o).declarations ws l where
  toFollows := h
  warned := by
    rw [← Lookup.exists_fails_iff looks.sound]
    refine exists_congr fun w => and_iff_right_of_imp (warned w)

variable (warned : ∀ l w, s.Looks o l → l.Fails s o w → w ∈ ws)

include warned

theorem columns_explained : ∀ sd ∈ (d.build (.ofSnapshot s) o).declarations.schemas,
    List.Forall₂ (fun r rd => ∀ decl ∈ rd.decls, List.Forall₂ (fun c f => ∃ l,
      ColumnLookup r c l ∧ f.Explained d s o (d.build (.ofSnapshot s) o).declarations ws l)
      ((Index.ofSnapshot s).columns r.id) decl.fields)
    ((Index.ofSnapshot s).relations sd.rawName) sd.relations := by
  intro sd hsd
  -- `columns_follow` gives each field its look-up; that the look-up is made, and so reported if it
  -- fails, needs to know where the relation and the column come from.
  have emitted := d.mem_rawNames_build_iff.mp (List.mem_map_of_mem hsd)
  refine ((List.forall₂_and_left _ _).mpr ⟨fun _ => Index.mem_relations_iff.mp,
    columns_follow d s o sd hsd⟩).imp ?_
  rintro r rd ⟨⟨first, schema⟩, decls⟩ decl hd
  rw [← schema] at emitted
  refine ((List.forall₂_and_left _ _).mpr ⟨fun _ => (Index.mem_columns_iff first.mem).mp,
    decls decl hd⟩).imp ?_
  rintro c f ⟨⟨hc, owner⟩, l, h, follows⟩
  have looks : s.Looks o l := .column first emitted hc owner h
  exact ⟨l, h, follows.explained looks fun w => warned l w looks⟩

theorem attributes_explained : ∀ sd ∈ (d.build (.ofSnapshot s) o).declarations.schemas,
    List.Forall₂ (fun t c => List.Forall₂ (fun attr f => ∃ l,
      AttributeLookup s t attr l ∧ f.Explained d s o (d.build (.ofSnapshot s) o).declarations ws l)
      t.attributes c.fields)
    ((Index.ofSnapshot s).composites sd.rawName) sd.composites := by
  intro sd hsd
  have emitted := d.mem_rawNames_build_iff.mp (List.mem_map_of_mem hsd)
  refine ((List.forall₂_and_left _ _).mpr ⟨fun _ => Index.mem_composites_iff.mp,
    attributes_follow d s o sd hsd⟩).imp ?_
  rintro t c ⟨⟨first, kind, schema⟩, fields⟩
  rw [← schema] at emitted
  refine ((List.forall₂_and_left _ _).mpr ⟨fun _ ha => ha, fields⟩).imp ?_
  rintro attr f ⟨ha, l, h, follows⟩
  have looks : s.Looks o l := .attribute first kind emitted ha h
  exact ⟨l, h, follows.explained looks fun w => warned l w looks⟩

end Warned

/-- The warnings about fields that a generation reports are those of its look-ups. -/
theorem mem_warnings_generate_iff_looks {s : Snapshot} {o : Options} {w : Warning}
    (h : ¬ s.Flaw w) : w ∈ (generate s o).warnings ↔ ∃ l, s.Looks o l ∧ l.Fails s o w := by
  rw [mem_warnings_generate_iff, or_iff_right h]
  exact Dialect.mem_warnings_build_iff _

/-- In every language, fields and warnings agree on what has no type of its own. -/
theorem generate_explained (s : Snapshot) (o : Options) :
    FallbacksExplained o.language.dialect s o (declare s o).declarations
      (generate s o).warnings where
  unknown := by
    intro format
    rw [mem_warnings_generate_iff_looks (by rintro ⟨⟩)]
    constructor
    · rintro ⟨l, looks, fails⟩
      obtain ⟨none, scalars⟩ := fails
      exact ⟨_, looks, none, scalars⟩
    · rintro ⟨home, looks, none, scalars⟩
      exact ⟨_, looks, .unknown none scalars⟩
  excluded := by
    intro schema name
    rw [mem_warnings_generate_iff_looks (by rintro ⟨⟩)]
    constructor
    · rintro ⟨l, looks, fails⟩
      obtain - | ⟨selects, out⟩ | - := fails
      obtain ⟨kept, kind⟩ := looks.sound _ selects
      exact ⟨l, _, looks, selects, Snapshot.mem_keptTypes_iff.mp kept, kind, rfl, rfl,
        Snapshot.emits_eq_false_iff.mp out⟩
    · rintro ⟨l, t, looks, selects, -, -, rfl, rfl, out⟩
      exact ⟨l, looks, .excluded selects (Snapshot.emits_eq_false_iff.mpr out)⟩
  unresolved := by
    intro id composite attrName
    rw [mem_warnings_generate_iff_looks (by rintro ⟨⟩)]
    constructor
    · rintro ⟨l, looks, fails⟩
      obtain - | - | - := fails
      rcases looks with ⟨-, -, -, -, h⟩ | ⟨first, kind, emitted, ha, h⟩
      · obtain - | - := h
      · obtain - | - | h := h
        exact ⟨_, first, kind, emitted, rfl, _, ha, rfl, rfl, h⟩
    · rintro ⟨t, first, kind, emitted, rfl, attr, ha, rfl, rfl, h⟩
      exact ⟨_, .attribute first kind emitted ha (.missing h), .missing⟩
  nodup := nodup_warnings_generate s o
  columns := columns_explained fun _ _ looks fails =>
    mem_warnings_generate_iff.mpr (.inr ((Dialect.mem_warnings_build_iff _).mpr
      ⟨_, looks, fails⟩))
  attributes := attributes_explained fun _ _ looks fails =>
    mem_warnings_generate_iff.mpr (.inr ((Dialect.mem_warnings_build_iff _).mpr
      ⟨_, looks, fails⟩))

end CatalogTypes
