import CatalogTypes.Proofs.Inventory

/-!
# The types of fields

The rules by which a catalog gives types to the fields of its declarations, as relations: how array
markers are taken off a name, what the name of an element denotes, and what a column and an
attribute come to. They look at the declarations themselves, not at the map of references that is
filled while names are given out; that fields get exactly the types of these rules is
`build_typed`.
-/

namespace CatalogTypes

/-! ## Array markers -/

/-- `format` is `element` with one array marker on it. A name that ends in brackets is read by its
brackets, whatever it begins with. -/
def Marks (format element : List Char) : Prop :=
  element ≠ [] ∧
    (format = element ++ ['[', ']'] ∨ format = '_' :: element ∧ ¬ ['[', ']'] <:+ format)

/-- `format` is `element` with `layers` array markers on it, and `element` has none. -/
inductive Unwraps : List Char → Nat → List Char → Prop
  | bare {element : List Char} (h : ∀ inner, ¬ Marks element inner) : Unwraps element 0 element
  | marked {format inner element : List Char} {layers : Nat} (h : Marks format inner)
      (rest : Unwraps inner layers element) : Unwraps format (layers + 1) element

theorem elementChars?_eq_some_iff {format element : List Char} :
    elementChars? format = some element ↔ Marks format element := by
  unfold elementChars? Marks
  rw [Option.filter_eq_some_iff, and_comm]
  refine and_congr (by simp) ?_
  by_cases h : ['[', ']'] <:+ format
  · obtain ⟨before, rfl⟩ := h
    simp only [List.isSuffixOf_iff_suffix, List.suffix_append, ↓reduceIte]
    simp [eq_comm]
  · have brackets : ∀ inner, format ≠ inner ++ ['[', ']'] := by
      rintro inner rfl
      exact h (List.suffix_append ..)
    simp only [List.isSuffixOf_iff_suffix, h, ↓reduceIte, brackets, false_or, not_false_eq_true,
      and_true]
    split
    · simp [eq_comm]
    · next hne =>
      simp only [reduceCtorEq, false_iff]
      rintro rfl
      exact hne _ rfl

theorem elementChars?_eq_none_iff {format : List Char} :
    elementChars? format = none ↔ ∀ inner, ¬ Marks format inner := by
  rw [Option.eq_none_iff_forall_ne_some]
  exact forall_congr' fun inner => not_congr elementChars?_eq_some_iff

theorem unwraps_unwrapChars (format : List Char) :
    Unwraps format (unwrapChars format).1 (unwrapChars format).2 := by
  fun_induction unwrapChars format with
  | case1 format element h inner ih => exact .marked (elementChars?_eq_some_iff.mp h) ih
  | case2 format h => exact .bare (elementChars?_eq_none_iff.mp h)

/-- There is one way to take the markers off. -/
theorem unwraps_iff {format element : List Char} {layers : Nat} :
    Unwraps format layers element ↔ unwrapChars format = (layers, element) := by
  refine ⟨fun h => ?_, fun h => ?_⟩
  · induction h with
    | bare h =>
      have none := elementChars?_eq_none_iff.mpr h
      rw [unwrapChars]
      split
      · simp_all
      · rfl
    | marked h _ ih =>
      have some := elementChars?_eq_some_iff.mpr h
      rw [unwrapChars]
      split
      · next element' h' =>
        obtain rfl : _ = element' := Option.some.inj (some.symm.trans h')
        simp [ih]
      · simp_all
  · have := unwraps_unwrapChars format
    rwa [h] at this

/-! ## References -/

section Rules

variable (d : Dialect) (ix : Index) (ds : Declarations)

/-- `text` is how fields refer to the declaration of `t` in `ds`. A schema declares its types in
the order of the index, so a declaration is found by its place. -/
inductive Refers : TypeDef → String → Prop
  | enumeration {s : SchemaDecls} {t : TypeDef} {e : EnumDecl} (hs : s ∈ ds.schemas)
      (h : (t, e) ∈ (ix.enums s.rawName).zip s.enums) :
      Refers t (d.reference .enumeration ⟨s.rawName, s.name, e.rawName, e.name⟩)
  | composite {s : SchemaDecls} {t : TypeDef} {c : RecordDecl} (hs : s ∈ ds.schemas)
      (h : (t, c) ∈ (ix.composites s.rawName).zip s.composites) :
      Refers t (d.reference .composite ⟨s.rawName, s.name, c.rawName, c.name⟩)

/-- The name of the type of a value of `t`: the reference to its declaration if it has one. -/
inductive Names (t : TypeDef) : String → Prop
  | declared {text : String} (h : Refers d ix ds t text) : Names t text
  | undeclared (h : ∀ text, ¬ Refers d ix ds t text) : Names t d.anyType

/-- The name of the type that a name without markers denotes when it is read in the schema
`home`. -/
inductive Denotes (home : Option String) (element : String) : String → Prop
  | builtin {scalar : Scalar} (h : Scalar.ofFormat? element = some scalar) :
      Denotes home element (d.scalarType scalar)
  | type {t : TypeDef} {name : String} (h : Scalar.ofFormat? element = none)
      (ht : ix.typeNamed? element home = some t) (kind : t.isScalar = false)
      (names : Names d ix ds t name) : Denotes home element name
  | unknown (h : Scalar.ofFormat? element = none)
      (ht : ∀ t, ix.typeNamed? element home = some t → t.isScalar) :
      Denotes home element d.anyType

/-- The type that a catalog name denotes: a list for each array marker around what is left. -/
inductive Spells (home : Option String) (format : String) : TargetType → Prop
  | intro {layers : Nat} {element : List Char} {name : String}
      (unwraps : Unwraps format.toList layers element)
      (denotes : Denotes d ix ds home (String.ofList element) name) :
      Spells home format (.lists layers (.named name))

/-- The type of the field for a column of `r`: nullable exactly if the column is. -/
inductive ColumnType (r : KindedRelation) (c : Column) : TargetType → Prop
  | nullable {type : TargetType} (h : c.isNullable)
      (spells : Spells d ix ds (some r.schema) c.format type) : ColumnType r c (.nullable type)
  | plain {type : TargetType} (h : c.isNullable = false)
      (spells : Spells d ix ds (some r.schema) c.format type) : ColumnType r c type

/-- The type of the field for an attribute: always nullable. A scalar type is read by its own name
in its own schema. -/
inductive AttributeType (attr : Attribute) : TargetType → Prop
  | missing (h : ix.type? attr.typeId = none) : AttributeType attr (.nullable (.named d.anyType))
  | scalar {t : TypeDef} {type : TargetType} (h : ix.type? attr.typeId = some t)
      (kind : t.isScalar) (spells : Spells d ix ds (some t.schema) t.name type) :
      AttributeType attr (.nullable type)
  | type {t : TypeDef} {name : String} (h : ix.type? attr.typeId = some t)
      (kind : t.isScalar = false) (names : Names d ix ds t name) :
      AttributeType attr (.nullable (.named name))

end Rules

/-! ## The map of references -/

/-- `text` is how fields refer to what the plan has for `t`. -/
def SchemaPlan.Refers (p : SchemaPlan) (d : Dialect) (t : TypeDef) (text : String) : Prop :=
  (∃ e, (t, e) ∈ p.enums ∧ d.reference .enumeration (p.path e.rawName e.name) = text) ∨
    ∃ name, (t, name) ∈ p.composites ∧ d.reference .composite (p.path t.name name) = text

section References

variable {d : Dialect} {ix : Index} {refs : References} {p : SchemaPlan}

theorem SchemaPlan.Covers.ids_references (h : p.Covers ix) :
    (p.references d).map Prod.fst = (ix.enums p.schema ++ ix.composites p.schema).map (·.id) := by
  rw [← h.enums, ← h.composites]
  simp [SchemaPlan.references, Function.comp_def]

theorem SchemaPlan.Covers.mem_references_iff (h : p.Covers ix) {id : ObjectId} {text : String} :
    (id, text) ∈ p.references d ↔ ∃ t, t.id = id ∧ p.Refers d t text := by
  simp only [SchemaPlan.references, List.mem_append, List.mem_map, Prod.mk.injEq, SchemaPlan.Refers]
  constructor
  · rintro (⟨⟨t, e⟩, he, rfl, rfl⟩ | ⟨⟨t, name⟩, hc, rfl, rfl⟩)
    · exact ⟨t, rfl, .inl ⟨e, he, by rw [(h.declares _ he).rawName]⟩⟩
    · exact ⟨t, rfl, .inr ⟨name, hc, rfl⟩⟩
  · rintro ⟨t, rfl, ⟨e, he, rfl⟩ | ⟨name, hc, rfl⟩⟩
    · exact .inl ⟨(t, e), he, rfl, by rw [(h.declares _ he).rawName]⟩
    · exact .inr ⟨(t, name), hc, rfl, rfl⟩

theorem SchemaPlan.Covers.zip_enums (h : p.Covers ix) :
    (ix.enums (d.declareSchema ix refs p).rawName).zip (d.declareSchema ix refs p).enums =
      p.enums := by
  rw [show (d.declareSchema ix refs p).rawName = p.schema from rfl, ← h.enums,
    Dialect.declareSchema, List.zip_map']
  exact List.map_id _

theorem SchemaPlan.Covers.zip_composites (h : p.Covers ix) :
    (ix.composites (d.declareSchema ix refs p).rawName).zip
        (d.declareSchema ix refs p).composites =
      p.composites.map fun q => (q.1, d.declareComposite ix refs q.1 q.2) := by
  rw [show (d.declareSchema ix refs p).rawName = p.schema from rfl, ← h.composites,
    Dialect.declareSchema, List.zip_map']

theorem refers_build_iff {o : Options} {t : TypeDef} {text : String} :
    Refers d ix (d.build ix o).declarations t text ↔ ∃ p ∈ d.plan ix o, p.Refers d t text := by
  constructor
  · rintro (⟨hs, h⟩ | ⟨hs, h⟩)
    · obtain ⟨p, hp, rfl⟩ := List.mem_map.mp hs
      rw [(d.plan_covers ix o p hp).zip_enums] at h
      exact ⟨p, hp, .inl ⟨_, h, rfl⟩⟩
    · obtain ⟨p, hp, rfl⟩ := List.mem_map.mp hs
      rw [(d.plan_covers ix o p hp).zip_composites] at h
      obtain ⟨q, hq, heq⟩ := List.mem_map.mp h
      obtain ⟨rfl, rfl⟩ := Prod.mk.inj heq
      exact ⟨p, hp, .inr ⟨_, hq, rfl⟩⟩
  · rintro ⟨p, hp, h⟩
    have covers := d.plan_covers ix o p hp
    have declared : d.declareSchema ix (d.emitted ix o) p ∈ (d.build ix o).declarations.schemas :=
      List.mem_map_of_mem hp
    rcases h with ⟨e, he, rfl⟩ | ⟨name, hc, rfl⟩
    · exact .enumeration declared (by rw [covers.zip_enums]; exact he)
    · refine .composite declared (c := d.declareComposite ix (d.emitted ix o) t name) ?_
      rw [covers.zip_composites]
      exact List.mem_map_of_mem hc

variable {s : Snapshot} {o : Options} {t : TypeDef} {text : String}

theorem SchemaPlan.Covers.mem_types (h : p.Covers ix) (refers : p.Refers d t text) :
    t ∈ ix.enums p.schema ∨ t ∈ ix.composites p.schema := by
  rw [← h.enums, ← h.composites]
  rcases refers with ⟨e, he, -⟩ | ⟨name, hc, -⟩
  · exact .inl (List.mem_map_of_mem (f := Prod.fst) he)
  · exact .inr (List.mem_map_of_mem (f := Prod.fst) hc)

theorem SchemaPlan.Covers.mem_keptTypes (h : p.Covers (.ofSnapshot s))
    (refers : p.Refers d t text) : t ∈ s.keptTypes := by
  rw [Snapshot.mem_keptTypes_iff]
  rcases h.mem_types refers with enum | composite
  · exact (Index.mem_enums_iff.mp enum).1
  · exact (Index.mem_composites_iff.mp composite).1

theorem SchemaPlan.Covers.schema_eq (h : p.Covers (.ofSnapshot s)) (refers : p.Refers d t text) :
    t.schema = p.schema := by
  rcases h.mem_types refers with enum | composite
  · exact (Index.mem_enums_iff.mp enum).2.2
  · exact (Index.mem_composites_iff.mp composite).2.2

/-- There is a reference for each of the declared types. -/
theorem ids_references_plan (d : Dialect) (s : Snapshot) (o : Options) :
    ((d.plan (.ofSnapshot s) o).flatMap (·.references d)).map Prod.fst =
      ((Index.ofSnapshot s).declaredTypes o).map (·.id) := by
  rw [Index.declaredTypes, Index.emittedNames, ← d.schema_plan, List.flatMap_map,
    List.map_flatMap, List.map_flatMap]
  exact List.flatMap_congr fun p hp => (d.plan_covers _ o p hp).ids_references

theorem nodup_ids_references (d : Dialect) (s : Snapshot) (o : Options) :
    (((d.plan (.ofSnapshot s) o).flatMap (·.references d)).map Prod.fst).Nodup := by
  rw [ids_references_plan]
  exact Index.nodup_ids_declaredTypes s o

/-- An entry of the map is the reference to a declaration, and every declaration has an entry. -/
theorem getElem?_emitted_eq_some_iff (kept : t ∈ s.keptTypes) :
    (d.emitted (.ofSnapshot s) o)[t.id]? = some text ↔
      Refers d (.ofSnapshot s) (d.build (.ofSnapshot s) o).declarations t text := by
  rw [Dialect.emitted, Dialect.references, getElem?_ofList_eq_some_iff (nodup_ids_references d s o),
    List.mem_flatMap, refers_build_iff]
  refine exists_congr fun p => and_congr_right fun hp => ?_
  have covers := d.plan_covers _ o p hp
  rw [covers.mem_references_iff]
  constructor
  · rintro ⟨t', hid, h⟩
    rwa [← Snapshot.eq_of_mem_keptTypes (covers.mem_keptTypes h) kept hid]
  · exact fun h => ⟨t, rfl, h⟩

end References

/-! ## Resolution follows the rules -/

/-- The name of the type for a meaning. -/
def Meaning.name (d : Dialect) (reference? : ObjectId → Option String) : Meaning → String
  | builtin scalar => d.scalarType scalar
  | declared t => (reference? t.id).getD d.anyType
  | unknown _ => d.anyType

theorem Resolved.type_eq (d : Dialect) (reference? : ObjectId → Option String) (r : Resolved) :
    r.type d reference? = .lists r.layers (.named (r.meaning.name d reference?)) := by
  obtain ⟨layers, meaning⟩ := r
  cases meaning <;> rfl

theorem TargetType.orNull_lists_named (n : Nat) (name : String) :
    (lists n (named name)).orNull = nullable (lists n (named name)) := by
  cases n <;> rfl

theorem Resolved.typeOrNull_true (d : Dialect) (reference? : ObjectId → Option String)
    (r : Resolved) : r.typeOrNull d reference? true = .nullable (r.type d reference?) := by
  rw [typeOrNull, if_pos rfl, type_eq, TargetType.orNull_lists_named]

section Resolution

variable {d : Dialect} {s : Snapshot} {ds : Declarations} {refs : References}
variable (agree : ∀ t ∈ s.keptTypes, ∀ text,
  refs[t.id]? = some text ↔ Refers d (.ofSnapshot s) ds t text)

include agree

theorem names_iff {t : TypeDef} (kept : t ∈ s.keptTypes) {name : String} :
    Names d (.ofSnapshot s) ds t name ↔
      (Index.reference refs.contains t).name d (refs[·]?) = name := by
  cases h : refs[t.id]? with
  | none =>
    have hc : refs.contains t.id = false := by simpa using h
    have undeclared : ∀ text, ¬ Refers d (.ofSnapshot s) ds t text := fun text refers => by
      rw [← agree t kept, h] at refers
      exact absurd refers (by simp)
    rw [Index.reference, if_neg (by simp [hc]), Meaning.name]
    constructor
    · rintro (refers | -)
      · exact absurd refers (undeclared _)
      · rfl
    · rintro rfl
      exact .undeclared undeclared
  | some text =>
    have hc : refs.contains t.id = true := by
      rw [Std.HashMap.contains_eq_isSome_getElem?, h]
      rfl
    have refers := (agree t kept text).mp h
    rw [Index.reference, if_pos hc, Meaning.name, h, Option.getD_some]
    constructor
    · rintro (refers' | undeclared)
      · exact Option.some.inj (h.symm.trans ((agree t kept _).mpr refers'))
      · exact absurd refers (undeclared _)
    · rintro rfl
      exact .declared refers

theorem denotes_iff {home : Option String} {element name : String} :
    Denotes d (.ofSnapshot s) ds home element name ↔
      ((Index.ofSnapshot s).meaning refs.contains home element).name d (refs[·]?) = name := by
  unfold Index.meaning
  cases h : Scalar.ofFormat? element with
  | some scalar =>
    constructor
    · rintro (h' | ⟨h', -, -, -⟩ | ⟨h', -⟩)
      · obtain rfl := Option.some.inj (h.symm.trans h')
        rfl
      · simp [h] at h'
      · simp [h] at h'
    · rintro rfl
      exact .builtin h
  | none =>
    cases ht : ((Index.ofSnapshot s).typeNamed? element home).filter (!·.isScalar) with
    | some t =>
      obtain ⟨found, kind⟩ := Option.filter_eq_some_iff.mp ht
      have kept := Index.mem_keptTypes_of_typeNamed? found
      simp only [Bool.not_eq_true'] at kind
      refine Iff.trans ?_ (names_iff agree kept)
      constructor
      · rintro (h' | ⟨-, found', -, names⟩ | ⟨-, scalars⟩)
        · simp [h] at h'
        · obtain rfl := Option.some.inj (found.symm.trans found')
          exact names
        · simp [scalars t found] at kind
      · exact .type h found kind
    | none =>
      have scalars : ∀ t, (Index.ofSnapshot s).typeNamed? element home = some t → t.isScalar :=
        fun t found => by simpa using Option.filter_eq_none_iff.mp ht t found
      constructor
      · rintro (h' | ⟨-, found, kind, -⟩ | -)
        · simp [h] at h'
        · simp [scalars _ found] at kind
        · rfl
      · rintro rfl
        exact .unknown h scalars

theorem spells_iff {home : Option String} {format : String} {type : TargetType} :
    Spells d (.ofSnapshot s) ds home format type ↔
      ((Index.ofSnapshot s).resolve refs.contains home format).type d (refs[·]?) = type := by
  rw [Resolved.type_eq]
  constructor
  · rintro ⟨unwraps, denotes⟩
    rw [← (denotes_iff agree).mp denotes, Index.resolve, unwraps_iff.mp unwraps]
  · rintro rfl
    exact .intro (unwraps_unwrapChars _) ((denotes_iff agree).mpr rfl)

theorem columnType_iff {r : KindedRelation} {c : Column} {type : TargetType} :
    ColumnType d (.ofSnapshot s) ds r c type ↔
      (Dialect.resolveColumn (.ofSnapshot s) refs r c).typeOrNull d (refs[·]?) c.isNullable =
        type := by
  cases h : c.isNullable with
  | true =>
    rw [Resolved.typeOrNull_true]
    constructor
    · rintro (⟨-, spells⟩ | ⟨h', -⟩)
      · rw [← (spells_iff agree).mp spells]
        rfl
      · simp [h] at h'
    · rintro rfl
      exact .nullable h ((spells_iff agree).mpr rfl)
  | false =>
    constructor
    · rintro (⟨h', -⟩ | ⟨-, spells⟩)
      · simp [h] at h'
      · exact (spells_iff agree).mp spells
    · rintro rfl
      exact .plain h ((spells_iff agree).mpr rfl)

theorem attributeType_iff {composite : TypeDef} {attr : Attribute} {type : TargetType} :
    AttributeType d (.ofSnapshot s) ds attr type ↔
      ((Index.ofSnapshot s).resolveAttribute refs.contains composite attr).typeOrNull d
        (refs[·]?) true = type := by
  rw [Resolved.typeOrNull_true, Index.resolveAttribute]
  cases h : (Index.ofSnapshot s).type? attr.typeId with
  | none =>
    constructor
    · rintro (- | ⟨h', -, -⟩ | ⟨h', -, -⟩)
      · rfl
      · simp [h] at h'
      · simp [h] at h'
    · rintro rfl
      exact .missing h
  | some t =>
    have kept := (Index.type?_eq_some_iff.mp h).1
    cases kind : t.isScalar with
    | true =>
      simp only [kind, ↓reduceIte]
      constructor
      · rintro (h' | ⟨h', -, spells⟩ | ⟨h', kind', -⟩)
        · simp [h] at h'
        · obtain rfl := Option.some.inj (h.symm.trans h')
          rw [(spells_iff agree).mp spells]
        · obtain rfl := Option.some.inj (h.symm.trans h')
          simp [kind] at kind'
      · rintro rfl
        exact .scalar h kind ((spells_iff agree).mpr rfl)
    | false =>
      simp only [kind, Bool.false_eq_true, ↓reduceIte, Resolved.type_eq]
      constructor
      · rintro (h' | ⟨h', kind', -⟩ | ⟨h', -, names⟩)
        · simp [h] at h'
        · obtain rfl := Option.some.inj (h.symm.trans h')
          simp [kind] at kind'
        · obtain rfl := Option.some.inj (h.symm.trans h')
          rw [(names_iff agree kept).mp names]
          rfl
      · rintro rfl
        exact .type h kind ((names_iff agree kept).mpr rfl)

end Resolution

/-! ## Fields of declarations -/

/-- The name inside of all lists and nullable types. -/
def TargetType.base : TargetType → String
  | named name => name
  | list element => element.base
  | nullable inner => inner.base

@[simp] theorem TargetType.base_lists (n : Nat) (t : TargetType) : (lists n t).base = t.base := by
  induction n with
  | zero => rfl
  | succ n ih => exact ih

section Grounded

variable (d : Dialect) (ix : Index) (ds : Declarations)

/-- The name is that of a scalar, of all values, or of a declaration that is present. -/
def Grounded (name : String) : Prop :=
  (∃ scalar, name = d.scalarType scalar) ∨ name = d.anyType ∨ ∃ t, Refers d ix ds t name

variable {d ix ds}

theorem Names.grounded {t : TypeDef} {name : String} (h : Names d ix ds t name) :
    Grounded d ix ds name := by
  cases h with
  | declared refers => exact .inr (.inr ⟨t, refers⟩)
  | undeclared => exact .inr (.inl rfl)

theorem Spells.grounded {home : Option String} {format : String} {type : TargetType}
    (h : Spells d ix ds home format type) : Grounded d ix ds type.base := by
  obtain ⟨-, denotes⟩ := h
  rw [TargetType.base_lists]
  cases denotes with
  | builtin => exact .inl ⟨_, rfl⟩
  | type _ _ _ names => exact names.grounded
  | unknown => exact .inr (.inl rfl)

theorem ColumnType.grounded {r : KindedRelation} {c : Column} {type : TargetType}
    (h : ColumnType d ix ds r c type) : Grounded d ix ds type.base := by
  cases h with
  | nullable _ spells => exact spells.grounded
  | plain _ spells => exact spells.grounded

theorem AttributeType.grounded {attr : Attribute} {type : TargetType}
    (h : AttributeType d ix ds attr type) : Grounded d ix ds type.base := by
  cases h with
  | missing => exact .inr (.inl rfl)
  | scalar _ _ spells => exact spells.grounded
  | type _ _ names => exact names.grounded

end Grounded

/-- Fields stand for columns and attributes one by one, and have just the types that the rules give
them; no field names a type that is not there. -/
structure Declarations.Typed (ds : Declarations) (d : Dialect) (ix : Index) : Prop where
  columns : ∀ sd ∈ ds.schemas, List.Forall₂ (fun r rd => rd.id = r.id ∧ ∀ decl ∈ rd.decls,
    List.Forall₂ (fun c f => f.rawName = c.name ∧
      ∀ type, f.type = type ↔ ColumnType d ix ds r c type) (ix.columns r.id) decl.fields)
    (ix.relations sd.rawName) sd.relations
  attributes : ∀ sd ∈ ds.schemas, List.Forall₂ (fun t c => c.rawName = t.name ∧
    List.Forall₂ (fun attr f => f.rawName = attr.name ∧
      ∀ type, f.type = type ↔ AttributeType d ix ds attr type) t.attributes c.fields)
    (ix.composites sd.rawName) sd.composites
  grounded : ∀ sd ∈ ds.schemas, ∀ r ∈ sd.records, ∀ f ∈ r.fields, Grounded d ix ds f.type.base

section Build

variable (d : Dialect) (s : Snapshot) (o : Options)

theorem columns_build : ∀ sd ∈ (d.build (.ofSnapshot s) o).declarations.schemas,
    List.Forall₂ (fun r rd => rd.id = r.id ∧ ∀ decl ∈ rd.decls,
      List.Forall₂ (fun c f => f.rawName = c.name ∧ ∀ type, f.type = type ↔
        ColumnType d (.ofSnapshot s) (d.build (.ofSnapshot s) o).declarations r c type)
        ((Index.ofSnapshot s).columns r.id) decl.fields)
      ((Index.ofSnapshot s).relations sd.rawName) sd.relations := by
  refine d.forall_mem_build _ o fun p _ covers => covers.forall₂_relations d _ ?_
  refine fun r names _ => ⟨rfl, fun decl hd => ?_⟩
  obtain ⟨⟨operation, name⟩, -, rfl⟩ := List.mem_map.mp hd
  refine d.forall₂_relationFields _ r operation fun name c => ⟨rfl, fun type => ?_⟩
  exact (columnType_iff fun t kept text => getElem?_emitted_eq_some_iff kept).symm

theorem attributes_build : ∀ sd ∈ (d.build (.ofSnapshot s) o).declarations.schemas,
    List.Forall₂ (fun t c => c.rawName = t.name ∧
      List.Forall₂ (fun attr f => f.rawName = attr.name ∧ ∀ type, f.type = type ↔
        AttributeType d (.ofSnapshot s) (d.build (.ofSnapshot s) o).declarations attr type)
        t.attributes c.fields)
      ((Index.ofSnapshot s).composites sd.rawName) sd.composites := by
  refine d.forall_mem_build _ o fun p _ covers => covers.forall₂_composites d _ ?_
  refine fun t name => ⟨rfl, d.forall₂_compositeFields _ t fun name attr => ⟨rfl, fun type => ?_⟩⟩
  exact (attributeType_iff fun t kept text => getElem?_emitted_eq_some_iff kept).symm

/-- In every language, each field of each declaration has exactly the type that the catalog says,
and refers to no declaration that is not there. -/
theorem build_typed :
    (d.build (.ofSnapshot s) o).declarations.Typed d (.ofSnapshot s) where
  columns := columns_build d s o
  attributes := attributes_build d s o
  grounded := by
    intro sd hsd r hr f hf
    rcases List.mem_append.mp hr with hc | hd
    · obtain ⟨t, -, -, fields⟩ := exists_of_forall₂ (attributes_build d s o sd hsd) r hc
      obtain ⟨attr, -, -, type⟩ := exists_of_forall₂ fields f hf
      exact ((type f.type).mp rfl).grounded
    · obtain ⟨rd, hrd, hdecl⟩ := List.mem_flatMap.mp hd
      obtain ⟨r', -, -, decls⟩ := exists_of_forall₂ (columns_build d s o sd hsd) rd hrd
      obtain ⟨c, -, -, type⟩ := exists_of_forall₂ (decls r hdecl) f hf
      exact ((type f.type).mp rfl).grounded

end Build

end CatalogTypes
