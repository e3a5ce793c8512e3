import CatalogTypes.Generate
import CatalogTypes.Proofs.Kept
import CatalogTypes.Proofs.Plans
import Mathlib.Data.List.Flatten

/-!
# Which declarations there are

The declarations of a snapshot are compared with the snapshot itself, without its index: which
schemas there are, which entities each of them holds and in which order, and how many declarations
there are altogether.
-/

namespace CatalogTypes

/-! ## Declared entities -/

theorem TypeDef.isScalar_eq_false_iff {t : TypeDef} :
    t.isScalar = false ↔ t.isEnumeration ∨ t.isComposite := by
  cases h : t.enums <;> cases h' : t.attributes <;>
    simp [isScalar, isEnumeration, isComposite, h, h']

/-- Whether declarations of the schema are written: it is declared, and the options admit it. -/
def Snapshot.emits (s : Snapshot) (o : Options) (schema : String) : Bool :=
  s.schemas.any (·.name == schema) && o.admits schema

namespace Index

/-- The names of the schemas that are written, ascending. -/
def emittedNames (ix : Index) (o : Options) : List String := ix.schemaNames.filter o.admits

/-- The types that are declared, schema by schema. -/
def declaredTypes (ix : Index) (o : Options) : List TypeDef :=
  (ix.emittedNames o).flatMap fun schema => ix.enums schema ++ ix.composites schema

/-- The relations that are declared, schema by schema. -/
def declaredRelations (ix : Index) (o : Options) : List KindedRelation :=
  (ix.emittedNames o).flatMap ix.relations

variable {s : Snapshot} {o : Options}

theorem mem_emittedNames_iff {name : String} :
    name ∈ (ofSnapshot s).emittedNames o ↔ s.emits o name := by
  rw [emittedNames, List.mem_filter, mem_schemaNames_iff]
  simp [Snapshot.emits]

theorem emittedNames_pairwise (s : Snapshot) (o : Options) :
    ((ofSnapshot s).emittedNames o).Pairwise (· < ·) :=
  (schemaNames_pairwise s).filter _

theorem nodup_emittedNames (s : Snapshot) (o : Options) :
    ((ofSnapshot s).emittedNames o).Nodup :=
  (nodup_schemaNames s).filter _

theorem mem_declaredTypes_iff {t : TypeDef} :
    t ∈ (ofSnapshot s).declaredTypes o ↔
      IsFirst (·.id) s.types t ∧ t.isScalar = false ∧ s.emits o t.schema := by
  simp only [declaredTypes, List.mem_flatMap, List.mem_append, mem_enums_iff, mem_composites_iff,
    mem_emittedNames_iff, TypeDef.isScalar_eq_false_iff]
  constructor
  · rintro ⟨_, emitted, ⟨first, kind, rfl⟩ | ⟨first, kind, rfl⟩⟩
    · exact ⟨first, .inl kind, emitted⟩
    · exact ⟨first, .inr kind, emitted⟩
  · rintro ⟨first, kind | kind, emitted⟩
    · exact ⟨_, emitted, .inl ⟨first, kind, rfl⟩⟩
    · exact ⟨_, emitted, .inr ⟨first, kind, rfl⟩⟩

theorem mem_declaredRelations_iff {r : KindedRelation} :
    r ∈ (ofSnapshot s).declaredRelations o ↔
      IsFirst (·.id) s.relations r ∧ s.emits o r.schema := by
  simp only [declaredRelations, List.mem_flatMap, mem_relations_iff, mem_emittedNames_iff]
  constructor
  · rintro ⟨_, emitted, first, rfl⟩
    exact ⟨first, emitted⟩
  · rintro ⟨first, emitted⟩
    exact ⟨_, emitted, first, rfl⟩

/-- A type lies in one schema only and has one kind, so it is declared once. -/
theorem nodup_declaredTypes (s : Snapshot) (o : Options) :
    ((ofSnapshot s).declaredTypes o).Nodup := by
  have schemaOf : ∀ schema, ∀ t ∈ (ofSnapshot s).enums schema ++ (ofSnapshot s).composites schema,
      t.schema = schema := by
    intro schema t ht
    rcases List.mem_append.mp ht with ht | ht
    · exact (mem_enums_iff.mp ht).2.2
    · exact (mem_composites_iff.mp ht).2.2
  refine List.nodup_flatMap.mpr ⟨fun schema _ => ?_, (nodup_emittedNames s o).imp ?_⟩
  · refine (nodup_enums s schema).append (nodup_composites s schema) fun t ht ht' => ?_
    have enum := (mem_enums_iff.mp ht).2.1
    have composite := (mem_composites_iff.mp ht').2.1
    simp_all [TypeDef.isEnumeration, TypeDef.isComposite]
  · intro schema schema' hne t ht ht'
    exact hne ((schemaOf schema t ht).symm.trans (schemaOf schema' t ht'))

theorem nodup_declaredRelations (s : Snapshot) (o : Options) :
    ((ofSnapshot s).declaredRelations o).Nodup := by
  refine List.nodup_flatMap.mpr ⟨fun schema _ => ?_, (nodup_emittedNames s o).imp ?_⟩
  · exact (relations_pairwise s schema).imp KindedRelation.Before.ne
  · intro schema schema' hne r hr hr'
    exact hne ((mem_relations_iff.mp hr).2.symm.trans (mem_relations_iff.mp hr').2)

theorem declaredTypes_perm (s : Snapshot) (o : Options) :
    ((ofSnapshot s).declaredTypes o).Perm
      (s.keptTypes.filter fun t => !t.isScalar && s.emits o t.schema) := by
  refine (List.perm_ext_iff_of_nodup (nodup_declaredTypes s o)
    ((Snapshot.nodup_keptTypes s).filter _)).mpr fun t => ?_
  simp [mem_declaredTypes_iff]

theorem declaredRelations_perm (s : Snapshot) (o : Options) :
    ((ofSnapshot s).declaredRelations o).Perm
      (s.keptRelations.filter fun r => s.emits o r.schema) := by
  refine (List.perm_ext_iff_of_nodup (nodup_declaredRelations s o)
    ((Snapshot.nodup_keptRelations s).filter _)).mpr fun r => ?_
  simp [mem_declaredRelations_iff]

/-- No two declared types share an id, in one schema or in several. -/
theorem nodup_ids_declaredTypes (s : Snapshot) (o : Options) :
    (((ofSnapshot s).declaredTypes o).map (·.id)).Nodup := by
  refine (nodup_declaredTypes s o).map_on fun t ht t' ht' h => ?_
  exact (mem_declaredTypes_iff.mp ht).1.eq (mem_declaredTypes_iff.mp ht').1 h

theorem nodup_ids_declaredRelations (s : Snapshot) (o : Options) :
    (((ofSnapshot s).declaredRelations o).map (·.id)).Nodup := by
  refine (nodup_declaredRelations s o).map_on fun r hr r' hr' h => ?_
  exact (mem_declaredRelations_iff.mp hr).1.eq (mem_declaredRelations_iff.mp hr').1 h

end Index

/-! ## Declarations -/

/-- The record stands for the composite, with a field for each of its attributes. -/
structure RecordDecl.DeclaresComposite (c : RecordDecl) (t : TypeDef) : Prop where
  rawName : c.rawName = t.name
  origin : c.origin = .composite
  attributes : c.fields.map (·.rawName) = t.attributes.map (·.name)

/-- A table is declared for a row read, an insert and an update, every other relation for a row
read only. -/
structure RelationDecls.Declares (rd : RelationDecls) (r : KindedRelation) : Prop where
  id : rd.id = r.id
  rawName : rd.rawName = r.name
  kind : rd.kind = r.kind
  rawNames : ∀ decl ∈ rd.decls, decl.rawName = r.name
  operations : rd.decls.map (·.origin) =
    if r.kind = .table then
      [.relation .table .select, .relation .table .insert, .relation .table .update]
    else [.relation r.kind .select]

/-- The schema holds exactly the kept entities of the snapshot that lie in it. Each list follows a
strictly ascending list of entities, so no entity comes twice. -/
structure SchemaDecls.Mirrors (sd : SchemaDecls) (s : Snapshot) : Prop where
  enums : ∃ ts : List TypeDef, ts.Pairwise TypeDef.Before ∧
    (∀ t, t ∈ ts ↔ IsFirst (·.id) s.types t ∧ t.isEnumeration ∧ t.schema = sd.rawName) ∧
    List.Forall₂ (fun t e => e.Declares t) ts sd.enums
  composites : ∃ ts : List TypeDef, ts.Pairwise TypeDef.Before ∧
    (∀ t, t ∈ ts ↔ IsFirst (·.id) s.types t ∧ t.isComposite ∧ t.schema = sd.rawName) ∧
    List.Forall₂ (fun t c => c.DeclaresComposite t) ts sd.composites
  relations : ∃ rs : List KindedRelation, rs.Pairwise KindedRelation.Before ∧
    (∀ r, r ∈ rs ↔ IsFirst (·.id) s.relations r ∧ r.schema = sd.rawName) ∧
    List.Forall₂ (fun r rd => rd.Declares r) rs sd.relations

/-- The declarations are those of the snapshot under the options: of the right schemas, each with
the right entities, and none besides. -/
structure Declarations.Mirrors (ds : Declarations) (s : Snapshot) (o : Options) : Prop where
  names : ∀ name, name ∈ ds.schemas.map (·.rawName) ↔
    (∃ schema ∈ s.schemas, schema.name = name) ∧ o.admits name
  ascending : (ds.schemas.map (·.rawName)).Pairwise (· < ·)
  entities : ∀ sd ∈ ds.schemas, sd.Mirrors s
  enumIds : (ds.schemas.flatMap fun sd => sd.enums.map (·.id)).Nodup
  relationIds : (ds.schemas.flatMap fun sd => sd.relations.map (·.id)).Nodup
  count : ds.count =
    (s.keptTypes.filter fun t => !t.isScalar && s.emits o t.schema).length +
      ((s.keptRelations.filter fun r => s.emits o r.schema).flatMap (·.kind.operations)).length

namespace Dialect

variable (d : Dialect) (ix : Index) (refs : References)

theorem declareComposite_declares (t : TypeDef) (name : String) :
    (d.declareComposite ix refs t name).DeclaresComposite t where
  rawName := rfl
  origin := rfl
  attributes := map_eq_map_of_forall₂ (d.forall₂_compositeFields refs t fun _ _ => rfl)

theorem declareRelation_declares (r : KindedRelation) (names : List (Operation × String))
    (h : names.map Prod.fst = r.kind.operations) :
    (d.declareRelation ix refs r names).Declares r where
  id := rfl
  rawName := rfl
  kind := rfl
  rawNames := by
    intro decl hd
    obtain ⟨q, -, rfl⟩ := List.mem_map.mp hd
    rfl
  operations := by
    have origins : (d.declareRelation ix refs r names).decls.map (·.origin) =
        (names.map Prod.fst).map (Origin.relation r.kind) := by
      simp [declareRelation, Function.comp_def]
    rw [origins, h]
    cases r.kind <;> rfl

end Dialect

theorem Declarations.count_eq {ds : Declarations} {α β : Type} {f : String → List α}
    {g : String → List β}
    (h : ∀ sd ∈ ds.schemas, sd.count = (f sd.rawName).length + (g sd.rawName).length) :
    ds.count = ((ds.schemas.map (·.rawName)).flatMap f).length +
      ((ds.schemas.map (·.rawName)).flatMap g).length := by
  obtain ⟨schemas⟩ := ds
  induction schemas with
  | nil => rfl
  | cons sd schemas ih =>
    have head := h sd List.mem_cons_self
    have tail := ih fun sd' h' => h sd' (List.mem_cons_of_mem _ h')
    simp only [count, List.foldr_cons, List.map_cons, List.flatMap_cons, List.length_append] at *
    omega

namespace Dialect

/-- Exactly the schemas that are written have declarations. -/
theorem mem_rawNames_build_iff (d : Dialect) {s : Snapshot} {o : Options} {name : String} :
    name ∈ (d.build (.ofSnapshot s) o).declarations.schemas.map (·.rawName) ↔ s.emits o name := by
  rw [d.rawName_schemas_build]
  exact Index.mem_emittedNames_iff

variable (d : Dialect) (s : Snapshot) (o : Options)

theorem enumIds_build :
    ((d.build (.ofSnapshot s) o).declarations.schemas.flatMap fun sd => sd.enums.map (·.id)) =
      ((Index.ofSnapshot s).emittedNames o).flatMap fun schema =>
        ((Index.ofSnapshot s).enums schema).map (·.id) := by
  rw [Index.emittedNames, ← d.rawName_schemas_build, List.flatMap_map]
  refine List.flatMap_congr fun sd hsd => ?_
  refine d.forall_mem_build (.ofSnapshot s) o (P := fun sd => sd.enums.map (·.id) =
    ((Index.ofSnapshot s).enums sd.rawName).map (·.id)) (fun p _ covers => ?_) sd hsd
  exact map_eq_map_of_forall₂ ((covers.forall₂_enums d _).imp fun _ _ h => h.id)

theorem relationIds_build :
    ((d.build (.ofSnapshot s) o).declarations.schemas.flatMap fun sd => sd.relations.map (·.id)) =
      ((Index.ofSnapshot s).declaredRelations o).map (·.id) := by
  rw [Index.declaredRelations, Index.emittedNames, ← d.rawName_schemas_build, List.flatMap_map,
    List.map_flatMap]
  refine List.flatMap_congr fun sd hsd => ?_
  refine d.forall_mem_build (.ofSnapshot s) o (P := fun sd => sd.relations.map (·.id) =
    ((Index.ofSnapshot s).relations sd.rawName).map (·.id)) (fun p _ covers => ?_) sd hsd
  exact map_eq_map_of_forall₂ (covers.forall₂_relations d _ fun _ _ _ => rfl)

theorem length_operations_declareSchema {ix : Index} {p : SchemaPlan} (covers : p.Covers ix)
    (refs : References) :
    ((d.declareSchema ix refs p).relations.flatMap (·.decls)).length =
      ((ix.relations p.schema).flatMap (·.kind.operations)).length := by
  have operations : (d.declareSchema ix refs p).relations.map (·.decls.length) =
      (ix.relations p.schema).map (·.kind.operations.length) := by
    refine map_eq_map_of_forall₂ (covers.forall₂_relations d refs fun r names h => ?_)
    rw [← h, declareRelation, List.length_map, List.length_map]
  rw [List.length_flatMap, operations, List.length_flatMap]

/-- A schema has a declaration for each of its types and for each operation of its relations. -/
theorem count_declareSchema {ix : Index} {p : SchemaPlan} (covers : p.Covers ix)
    (refs : References) :
    (d.declareSchema ix refs p).count =
      (ix.enums p.schema ++ ix.composites p.schema).length +
        ((ix.relations p.schema).flatMap (·.kind.operations)).length := by
  have enums := (covers.forall₂_enums d refs).length_eq
  have composites := (covers.forall₂_composites d refs (R := fun _ _ => True)
    fun _ _ => trivial).length_eq
  rw [SchemaDecls.count, SchemaDecls.records, List.length_append, List.length_append, ← enums,
    ← composites, d.length_operations_declareSchema covers, Nat.add_assoc]

theorem count_build :
    (d.build (.ofSnapshot s) o).declarations.count =
      ((Index.ofSnapshot s).declaredTypes o).length +
        (((Index.ofSnapshot s).declaredRelations o).flatMap (·.kind.operations)).length := by
  rw [Index.declaredTypes, Index.declaredRelations, Index.emittedNames,
    ← d.rawName_schemas_build, List.flatMap_assoc]
  exact Declarations.count_eq (d.forall_mem_build _ o fun _ _ covers =>
    d.count_declareSchema covers _)

/-- In every language, exactly the entities that the snapshot has in the schemas let through are
declared, each of them once, in its own schema and in order. -/
theorem build_mirrors : (d.build (.ofSnapshot s) o).declarations.Mirrors s o where
  names := by
    intro name
    rw [d.rawName_schemas_build, List.mem_filter, Index.mem_schemaNames_iff]
  ascending := by
    rw [d.rawName_schemas_build]
    exact Index.emittedNames_pairwise s o
  entities := d.forall_mem_build _ o fun p _ covers => {
    enums := ⟨_, Index.enums_pairwise s p.schema, fun _ => Index.mem_enums_iff,
      covers.forall₂_enums d _⟩
    composites := ⟨_, Index.composites_pairwise s p.schema, fun _ => Index.mem_composites_iff,
      covers.forall₂_composites d _ (d.declareComposite_declares _ _)⟩
    relations := ⟨_, Index.relations_pairwise s p.schema, fun _ => Index.mem_relations_iff,
      covers.forall₂_relations d _ (d.declareRelation_declares _ _)⟩ }
  enumIds := by
    rw [d.enumIds_build, ← List.map_flatMap]
    refine (Index.nodup_ids_declaredTypes s o).sublist (List.Sublist.map _ ?_)
    exact List.Sublist.flatMap_right _ fun _ _ => List.sublist_append_left _ _
  relationIds := by
    rw [d.relationIds_build]
    exact Index.nodup_ids_declaredRelations s o
  count := by
    rw [d.count_build, (Index.declaredTypes_perm s o).length_eq,
      ((Index.declaredRelations_perm s o).flatMap_right _).length_eq]

end Dialect

end CatalogTypes
