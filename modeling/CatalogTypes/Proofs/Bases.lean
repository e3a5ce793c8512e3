import CatalogTypes.Proofs.Accounting
import CatalogTypes.Proofs.GivenNames

/-!
# Where names come from

The name of every declaration is a candidate for the base that its raw name gives, finished by the
language. And each base is claimed, so once all claims are made some declaration has the finished
base for its name.
-/

namespace CatalogTypes

/-! ## Bases -/

/-- The base from which the name of the record is made. -/
def RecordDecl.base (d : Dialect) (schema : String) (r : RecordDecl) : String :=
  match r.origin with
  | .composite => d.compositeName schema r.rawName
  | .relation _ operation => d.relationName schema r.rawName operation

/-- The bases of all types of a schema. -/
def SchemaDecls.bases (d : Dialect) (sd : SchemaDecls) : List String :=
  sd.enums.map (fun e => d.enumName sd.rawName e.rawName) ++
    sd.records.map (·.base d sd.rawName)

/-- The name is the finished form of a candidate for the base. -/
def Dialect.Gives (d : Dialect) (base name : String) : Prop :=
  ∃ n, name = d.escape (Registry.candidate base n)

/-- Every declaration has a name that its raw name gives. -/
structure SchemaDecls.Numbered (sd : SchemaDecls) (d : Dialect) : Prop where
  name : d.Gives (d.namespaceName sd.rawName) sd.name
  enums : ∀ e ∈ sd.enums, d.Gives (d.enumName sd.rawName e.rawName) e.name
  records : ∀ r ∈ sd.records, d.Gives (r.base d sd.rawName) r.name

namespace Dialect

variable (d : Dialect)

theorem gives_claim (reg : Registry) (base : String) : d.Gives base (d.claim reg base).1 :=
  reg.exists_claim_eq base d.escape

theorem gives_claimType (reg : Registry) (base : String) :
    d.Gives base (d.claimType reg base).1 := by
  rw [claimType]
  split
  · exact d.gives_claim reg base
  · exact ⟨0, rfl⟩

theorem gives_nameRelation (schema : String) (types : Registry) (r : KindedRelation) :
    ∀ q ∈ (d.nameRelation schema types r).1.2,
      d.Gives (d.relationName schema (d.nameRelation schema types r).1.1.name q.1) q.2 := by
  refine forall_mem_mapThread
    (P := fun q : Operation × String => d.Gives (d.relationName schema r.name q.1) q.2) ?_ _ _
  exact fun types operation => d.gives_claimType types (d.relationName schema r.name operation)

theorem numbered_nameSchema (ix : Index) (names : Names) (schema : String) (refs : References) :
    (d.declareSchema ix refs (d.nameSchema ix names schema).1).Numbered d where
  name := d.gives_claim names.schemas (d.namespaceName schema)
  enums := by
    intro e he
    obtain ⟨q, hq, rfl⟩ := List.mem_map.mp he
    exact forall_mem_mapThread
      (P := fun q : TypeDef × EnumDecl => d.Gives (d.enumName schema q.2.rawName) q.2.name)
      (fun types t => d.gives_claimType types (d.enumName schema t.name)) _ _ q hq
  records := by
    intro r hr
    rcases List.mem_append.mp hr with hr | hr
    · obtain ⟨q, hq, rfl⟩ := List.mem_map.mp hr
      exact forall_mem_mapThread
        (P := fun q : TypeDef × String => d.Gives (d.compositeName schema q.1.name) q.2)
        (fun types t => d.gives_claimType types (d.compositeName schema t.name)) _ _ q hq
    · obtain ⟨rd, hrd, hr⟩ := List.mem_flatMap.mp hr
      obtain ⟨q, hq, rfl⟩ := List.mem_map.mp hrd
      obtain ⟨decl, hdecl, rfl⟩ := List.mem_map.mp hr
      exact forall_mem_mapThread
        (P := fun q : KindedRelation × List (Operation × String) =>
          ∀ decl ∈ q.2, d.Gives (d.relationName schema q.1.name decl.1) decl.2)
        (d.gives_nameRelation schema) _ _ q hq decl hdecl

theorem numbered_build (ix : Index) (o : Options) :
    ∀ sd ∈ (d.build ix o).declarations.schemas, sd.Numbered d := by
  rw [schemas_build]
  intro sd hsd
  obtain ⟨p, hp, rfl⟩ := List.mem_map.mp hsd
  exact forall_mem_mapThread
    (P := fun p : SchemaPlan => (d.declareSchema ix (d.emitted ix o) p).Numbered d)
    (fun names schema => d.numbered_nameSchema ix names schema _) _ _ p hp

end Dialect

/-- The bases of a schema, from the entities that the index has for it. -/
theorem SchemaPlan.Covers.bases {d : Dialect} {ix : Index} {p : SchemaPlan} (h : p.Covers ix)
    (refs : References) :
    (d.declareSchema ix refs p).bases d =
      (ix.enums p.schema).map (fun t => d.enumName p.schema t.name) ++
        ((ix.composites p.schema).map (fun t => d.compositeName p.schema t.name) ++
          (ix.relations p.schema).flatMap fun r =>
            r.kind.operations.map (d.relationName p.schema r.name)) := by
  have enums : p.enums.map (fun q => d.enumName p.schema q.2.rawName) =
      p.enums.map fun q => d.enumName p.schema q.1.name :=
    List.map_congr_left fun q hq => by rw [(h.declares q hq).rawName]
  have relations : (p.relations.flatMap fun q =>
      q.2.map fun decl => d.relationName p.schema q.1.name decl.1) =
        p.relations.flatMap fun q => q.1.kind.operations.map (d.relationName p.schema q.1.name) :=
    List.flatMap_congr fun q hq => by rw [← h.operations q hq, List.map_map]; rfl
  rw [← h.enums, ← h.composites, ← h.relations, List.map_map, List.map_map, List.flatMap_map]
  simp only [SchemaDecls.bases, SchemaDecls.records, Dialect.declareSchema,
    Dialect.declareComposite, Dialect.declareRelation, RecordDecl.base, List.map_append,
    List.map_map, List.map_flatMap, List.flatMap_map, Function.comp_def, enums, relations]

/-! ## Bases are taken -/

namespace Registry

/-- After a claim the base itself is taken, by this claim or by one before. -/
theorem mem_taken_claim {finish : String → String} (separates : Separates finish) (reg : Registry)
    (base : String) : finish base ∈ (reg.claim base finish).2.taken := by
  rw [(grants_claim separates reg base).taken, List.mem_singleton]
  obtain ⟨k, -, found, -, before⟩ := claim_spec separates reg base
  cases k with
  | zero => exact .inr found.symm
  | succ k => exact .inl (before 0 k.succ_pos)

theorem Grants.mono {reg reg' : Registry} {names : List String} (h : Grants reg names reg')
    {name : String} (taken : name ∈ reg.taken) : name ∈ reg'.taken :=
  (h.taken name).mpr (.inl taken)

/-- What one step of a run takes stays taken. -/
theorem mem_taken_mapThread {σ α β : Type} {f : σ → α → β × σ} (reg : σ → Registry)
    (names : β → List String)
    (step : ∀ s x, Grants (reg s) (names (f s x).1) (reg (f s x).2)) {name : String} {xs : List α}
    {x : α} (hx : x ∈ xs) (taken : ∀ s, name ∈ (reg (f s x).2).taken) (s : σ) :
    name ∈ (reg (mapThread f s xs).2).taken := by
  induction xs generalizing s with
  | nil => cases hx
  | cons y xs ih =>
    rcases List.mem_cons.mp hx with rfl | hx
    · exact (grants_mapThread reg names step (f s x).2 xs).mono (taken s)
    · exact ih hx (f s y).2

end Registry

section Taken

variable {d : Dialect} (h : d.convention.Unnumbered) (distinct : d.distinctTypes)
include h distinct

theorem Dialect.mem_taken_claimType (reg : Registry) (base : String) :
    d.escape base ∈ (d.claimType reg base).2.taken := by
  rw [claimType, if_pos distinct]
  exact Registry.mem_taken_claim h.separates reg base

theorem Dialect.mem_taken_nameEnum (schema : String) (t : TypeDef) (types : Registry) :
    d.escape (d.enumName schema t.name) ∈ (d.nameEnum schema types t).2.taken := by
  have name := mem_taken_claimType h distinct types (d.enumName schema t.name)
  by_cases hs : d.scopedVariants
  · simpa [nameEnum, hs] using name
  · have variants := (d.grants_nameVariants h _ (d.claimType types
      (d.enumName schema t.name)).1 t.enums).mono name
    simpa [nameEnum, hs] using variants

theorem Dialect.mem_taken_nameRelation (schema : String) (r : KindedRelation)
    {operation : Operation} (ho : operation ∈ r.kind.operations) (types : Registry) :
    d.escape (d.relationName schema r.name operation) ∈
      (d.nameRelation schema types r).2.taken := by
  rw [nameRelation]
  refine Registry.mem_taken_mapThread id (fun q : Operation × String => [q.2])
    (fun types operation => ?_) ho (fun types => ?_) types
  · exact grants_claimType h distinct types (d.relationName schema r.name operation)
  · exact mem_taken_claimType h distinct types (d.relationName schema r.name operation)

theorem Dialect.mem_taken_nameSchema {ix : Index} {p : SchemaPlan} (covers : p.Covers ix)
    {refs : References} {base : String} (hb : base ∈ (d.declareSchema ix refs p).bases d)
    (names : Names) : d.escape base ∈ (d.nameSchema ix names p.schema).2.types.taken := by
  rw [covers.bases, List.mem_append, List.mem_append] at hb
  rcases hb with hb | hb | hb
  · obtain ⟨t, ht, rfl⟩ := List.mem_map.mp hb
    refine (grants_relations h distinct p.schema _ _).mono
      ((grants_composites h distinct p.schema _ _).mono ?_)
    exact Registry.mem_taken_mapThread id (fun q : TypeDef × EnumDecl => d.granted q.2)
      (grants_nameEnum h distinct p.schema) ht (mem_taken_nameEnum h distinct p.schema t) _
  · obtain ⟨t, ht, rfl⟩ := List.mem_map.mp hb
    refine (grants_relations h distinct p.schema _ _).mono ?_
    exact Registry.mem_taken_mapThread id (fun q : TypeDef × String => [q.2])
      (grants_nameComposite h distinct p.schema) ht
      (fun types => mem_taken_claimType h distinct types (d.compositeName p.schema t.name)) _
  · obtain ⟨r, hr, hb⟩ := List.mem_flatMap.mp hb
    obtain ⟨operation, ho, rfl⟩ := List.mem_map.mp hb
    exact Registry.mem_taken_mapThread id
      (fun q : KindedRelation × List (Operation × String) => q.2.map (·.2))
      (grants_nameRelation h distinct p.schema) hr
      (mem_taken_nameRelation h distinct p.schema r ho) _

variable (variants : d.scopedVariants) (ix : Index) (o : Options)
include variants

/-- Where each schema has a registry of its own, some type of the schema has each of its bases. -/
theorem Dialect.mem_typeNames_of_mem_bases (apart : d.sharedNamespace = false) :
    ∀ sd ∈ (d.build ix o).declarations.schemas, ∀ base ∈ sd.bases d,
      d.escape base ∈ sd.typeNames := by
  have granted : ∀ p ∈ d.plan ix o, ∀ base ∈ (d.declareSchema ix (d.emitted ix o) p).bases d,
      d.escape base ∈ p.granted d := by
    refine forall_mem_mapThread (P := fun p : SchemaPlan =>
      ∀ base ∈ (d.declareSchema ix (d.emitted ix o) p).bases d, d.escape base ∈ p.granted d) ?_ _ _
    intro names schema base hb
    have grants := grants_nameSchema h distinct ix names schema
    rw [apart, if_neg Bool.false_ne_true] at grants
    have taken := mem_taken_nameSchema h distinct (d.nameSchema_covers ix names schema) hb names
    refine ((grants.taken _).mp taken).resolve_left ?_
    simp [Registry.empty]
  refine d.forall_mem_build ix o fun p hp _ base hb => ?_
  exact (SchemaPlan.granted_perm_typeNames d ix _ variants p).mem_iff.mp (granted p hp base hb)

/-- In a shared namespace, some type has each of the bases. -/
theorem Dialect.mem_flatMap_typeNames_of_mem_bases (shared : d.sharedNamespace) :
    ∀ sd ∈ (d.build ix o).declarations.schemas, ∀ base ∈ sd.bases d,
      d.escape base ∈ (d.build ix o).declarations.schemas.flatMap (·.typeNames) := by
  have step : ∀ names schema, Registry.Grants names.types
      ((d.nameSchema ix names schema).1.granted d) (d.nameSchema ix names schema).2.types := by
    intro names schema
    have grants := grants_nameSchema h distinct ix names schema
    rwa [if_pos shared] at grants
  have grants := Registry.grants_mapThread Names.types _ step ⟨.empty, .empty⟩
    (ix.schemaNames.filter o.admits)
  refine d.forall_mem_build ix o fun p hp covers base hb => ?_
  have schema : p.schema ∈ ix.schemaNames.filter o.admits := by
    rw [← d.schema_plan ix o]
    exact List.mem_map_of_mem hp
  have taken := Registry.mem_taken_mapThread Names.types _ step schema
    (mem_taken_nameSchema h distinct covers hb) ⟨.empty, .empty⟩
  have granted : d.escape base ∈ (d.plan ix o).flatMap (·.granted d) := by
    refine ((grants.taken _).mp taken).resolve_left ?_
    simp [Registry.empty]
  obtain ⟨q, hq, mem⟩ := List.mem_flatMap.mp granted
  refine List.mem_flatMap.mpr ⟨_, List.mem_map_of_mem hq, ?_⟩
  exact (SchemaPlan.granted_perm_typeNames d ix _ variants q).mem_iff.mp mem

end Taken

/-! ## Numbers -/

/-- The name is the finished form of a candidate, and those of all candidates before are taken. -/
def Dialect.GivesAfter (d : Dialect) (taken : String → Prop) (base name : String) : Prop :=
  ∃ n, name = d.escape (Registry.candidate base n) ∧
    ∀ j < n, taken (d.escape (Registry.candidate base j))

theorem Dialect.GivesAfter.mono {d : Dialect} {taken taken' : String → Prop} {base name : String}
    (le : ∀ name, taken name → taken' name) (h : d.GivesAfter taken base name) :
    d.GivesAfter taken' base name :=
  have ⟨n, eq, before⟩ := h
  ⟨n, eq, fun j hj => le _ (before j hj)⟩

/-- What each step of a run says of the names taken by then holds of those taken in the end, if it
holds of more names as well. -/
theorem Registry.forall_mem_mapThread_taken {σ α β : Type} {f : σ → α → β × σ} (reg : σ → Registry)
    (names : β → List String)
    (step : ∀ s x, Grants (reg s) (names (f s x).1) (reg (f s x).2))
    {P : (String → Prop) → β → Prop}
    (mono : ∀ {taken taken' : String → Prop} {y : β}, (∀ name, taken name → taken' name) →
      P taken y → P taken' y)
    (each : ∀ s x, P (· ∈ (reg (f s x).2).taken) (f s x).1) (s : σ) (xs : List α) :
    ∀ y ∈ (mapThread f s xs).1, P (· ∈ (reg (mapThread f s xs).2).taken) y := by
  induction xs generalizing s with
  | nil => simp [mapThread]
  | cons x xs ih =>
    intro y hy
    rcases List.mem_cons.mp hy with rfl | hy
    · exact mono (fun _ => (grants_mapThread reg names step (f s x).2 xs).mono) (each s x)
    · exact ih (f s x).2 y hy

section GivesAfter

variable {d : Dialect} (h : d.convention.Unnumbered) (distinct : d.distinctTypes)
include h distinct

theorem Dialect.givesAfter_claimType (reg : Registry) (base : String) :
    d.GivesAfter (· ∈ (d.claimType reg base).2.taken) base (d.claimType reg base).1 := by
  rw [claimType, if_pos distinct]
  obtain ⟨k, -, found, -, before⟩ := Registry.claim_spec h.separates reg base
  exact ⟨k, found, fun j hj => (d.grants_claim h reg base).mono (before j hj)⟩

theorem Dialect.givesAfter_nameEnum (schema : String) (types : Registry) (t : TypeDef) :
    d.GivesAfter (· ∈ (d.nameEnum schema types t).2.taken)
      (d.enumName schema (d.nameEnum schema types t).1.1.name)
      (d.nameEnum schema types t).1.2.name := by
  rw [d.fst_nameEnum]
  have name := givesAfter_claimType h distinct types (d.enumName schema t.name)
  by_cases hs : d.scopedVariants
  · simpa [nameEnum, hs] using name
  · have variants := d.grants_nameVariants h (d.claimType types (d.enumName schema t.name)).2
      (d.claimType types (d.enumName schema t.name)).1 t.enums
    simpa [nameEnum, hs] using name.mono fun _ => variants.mono

theorem Dialect.givesAfter_nameSchema (ix : Index) (names : Names) (schema : String) :
    (∀ q ∈ (d.nameSchema ix names schema).1.enums,
      d.GivesAfter (· ∈ (d.nameSchema ix names schema).2.types.taken)
        (d.enumName schema q.1.name) q.2.name) ∧
    ∀ q ∈ (d.nameSchema ix names schema).1.composites,
      d.GivesAfter (· ∈ (d.nameSchema ix names schema).2.types.taken)
        (d.compositeName schema q.1.name) q.2 := by
  constructor
  · intro q hq
    have name := Registry.forall_mem_mapThread_taken id
      (fun q : TypeDef × EnumDecl => d.granted q.2)
      (grants_nameEnum h distinct schema)
      (P := fun taken q => d.GivesAfter taken (d.enumName schema q.1.name) q.2.name)
      GivesAfter.mono (givesAfter_nameEnum h distinct schema) _ _ q hq
    exact (name.mono fun _ => (grants_composites h distinct schema _ _).mono).mono fun _ =>
      (grants_relations h distinct schema _ _).mono
  · intro q hq
    have name := Registry.forall_mem_mapThread_taken id (fun q : TypeDef × String => [q.2])
      (grants_nameComposite h distinct schema)
      (P := fun taken q => d.GivesAfter taken (d.compositeName schema q.1.name) q.2)
      GivesAfter.mono
      (fun types t => givesAfter_claimType h distinct types (d.compositeName schema t.name))
      _ _ q hq
    exact name.mono fun _ => (grants_relations h distinct schema _ _).mono

/-- Where each schema has a registry of its own, a number stands in the name of a type only if other
types of the schema have the names that come before. -/
theorem Dialect.givesAfter_build (variants : d.scopedVariants) (ix : Index) (o : Options)
    (apart : d.sharedNamespace = false) :
    ∀ sd ∈ (d.build ix o).declarations.schemas,
      (∀ e ∈ sd.enums, d.GivesAfter (· ∈ sd.typeNames) (d.enumName sd.rawName e.rawName) e.name) ∧
      ∀ c ∈ sd.composites,
        d.GivesAfter (· ∈ sd.typeNames) (d.compositeName sd.rawName c.rawName) c.name := by
  have given : ∀ p ∈ d.plan ix o,
      (∀ q ∈ p.enums,
        d.GivesAfter (· ∈ p.granted d) (d.enumName p.schema q.1.name) q.2.name) ∧
      ∀ q ∈ p.composites,
        d.GivesAfter (· ∈ p.granted d) (d.compositeName p.schema q.1.name) q.2 := by
    refine forall_mem_mapThread (P := fun p : SchemaPlan =>
      (∀ q ∈ p.enums,
        d.GivesAfter (· ∈ p.granted d) (d.enumName p.schema q.1.name) q.2.name) ∧
      ∀ q ∈ p.composites,
        d.GivesAfter (· ∈ p.granted d) (d.compositeName p.schema q.1.name) q.2) ?_ _ _
    intro names schema
    have grants := grants_nameSchema h distinct ix names schema
    rw [apart, if_neg Bool.false_ne_true] at grants
    have granted : ∀ name ∈ (d.nameSchema ix names schema).2.types.taken,
        name ∈ (d.nameSchema ix names schema).1.granted d := fun name taken =>
      ((grants.taken name).mp taken).resolve_left (by simp [Registry.empty])
    obtain ⟨enums, composites⟩ := givesAfter_nameSchema h distinct ix names schema
    exact ⟨fun q hq => (enums q hq).mono granted, fun q hq => (composites q hq).mono granted⟩
  refine d.forall_mem_build ix o fun p hp covers => ?_
  obtain ⟨enums, composites⟩ := given p hp
  have listed : ∀ name ∈ p.granted d, name ∈ (d.declareSchema ix (d.emitted ix o) p).typeNames :=
    fun _ => (SchemaPlan.granted_perm_typeNames d ix _ variants p).mem_iff.mp
  constructor
  · intro e he
    obtain ⟨q, hq, rfl⟩ := List.mem_map.mp he
    rw [(covers.declares q hq).rawName]
    exact (enums q hq).mono listed
  · intro c hc
    obtain ⟨q, hq, rfl⟩ := List.mem_map.mp hc
    exact (composites q hq).mono listed

end GivesAfter

/-- Some namespace has the name that the raw name of a schema gives. -/
theorem Dialect.mem_names_of_namespaceName {d : Dialect} (h : d.convention.Unnumbered) (ix : Index)
    (o : Options) : ∀ sd ∈ (d.build ix o).declarations.schemas,
      d.escape (d.namespaceName sd.rawName) ∈ (d.build ix o).declarations.schemas.map (·.name) := by
  have step : ∀ names schema, Registry.Grants names.schemas [(d.nameSchema ix names schema).1.name]
      (d.nameSchema ix names schema).2.schemas :=
    fun names schema => d.grants_claim h names.schemas (d.namespaceName schema)
  have grants := Registry.grants_map_mapThread Names.schemas (fun p : SchemaPlan => p.name) step
    ⟨.empty, .empty⟩ (ix.schemaNames.filter o.admits)
  refine d.forall_mem_build ix o fun p hp _ => ?_
  have schema : p.schema ∈ ix.schemaNames.filter o.admits := by
    rw [← d.schema_plan ix o]
    exact List.mem_map_of_mem hp
  have taken := Registry.mem_taken_mapThread Names.schemas (fun p : SchemaPlan => [p.name]) step
    schema
    (fun names => Registry.mem_taken_claim h.separates names.schemas (d.namespaceName p.schema))
    ⟨.empty, .empty⟩
  have granted : d.escape (d.namespaceName p.schema) ∈ (d.plan ix o).map (·.name) := by
    refine ((grants.taken _).mp taken).resolve_left ?_
    simp [Registry.empty]
  rw [schemas_build, List.map_map]
  exact granted

/-! ## Raw names -/

/-- The raw names of the enumerations and composites. -/
def SchemaDecls.rawTypes (sd : SchemaDecls) : List String :=
  sd.enums.map (·.rawName) ++ sd.composites.map (·.rawName)

/-- The raw names of the enumerations, composites and relations. -/
def SchemaDecls.rawEntities (sd : SchemaDecls) : List String :=
  sd.rawTypes ++ sd.relations.map (·.rawName)

section RawNames

variable {d : Dialect} {s : Snapshot} {o : Options} {sd : SchemaDecls}
  (hsd : sd ∈ (d.build (.ofSnapshot s) o).declarations.schemas)
include hsd

theorem mem_rawTypes_of_isFirst {t : TypeDef} (first : IsFirst (·.id) s.types t)
    (kind : t.isScalar = false) (schema : sd.rawName = t.schema) : t.name ∈ sd.rawTypes := by
  cases declaresType_of_isFirst hsd first kind schema with
  | enumeration kind h declares =>
    rw [← declares.rawName]
    exact List.mem_append_left _ (List.mem_map_of_mem (List.of_mem_zip h).2)
  | composite kind h declares =>
    rw [← declares.rawName]
    exact List.mem_append_right _ (List.mem_map_of_mem (List.of_mem_zip h).2)

theorem mem_rawEntities_of_isFirst {r : KindedRelation} (first : IsFirst (·.id) s.relations r)
    (schema : sd.rawName = r.schema) : r.name ∈ sd.rawEntities := by
  obtain ⟨rd, h, declares⟩ := declaresRelation_of_isFirst hsd first schema
  rw [← declares.rawName]
  exact List.mem_append_right _ (List.mem_map_of_mem (List.of_mem_zip h).2)

end RawNames

/-! ## Origins -/

section Origins

variable {d : Dialect} {s : Snapshot} {o : Options} {sd : SchemaDecls}
  (hsd : sd ∈ (d.build (.ofSnapshot s) o).declarations.schemas)
include hsd

theorem origin_of_mem_composites {c : RecordDecl} (hc : c ∈ sd.composites) :
    c.origin = .composite := by
  obtain ⟨t, -, declares⟩ := exists_of_forall₂ (d.forall₂_declaresComposite s o sd hsd) c hc
  exact declares.origin

/-- Each record of a relation has the raw name of the relation, and is for one operation. -/
theorem origin_of_mem_decls {rd : RelationDecls} (hrd : rd ∈ sd.relations) {r : RecordDecl}
    (hr : r ∈ rd.decls) :
    r.rawName = rd.rawName ∧ ∃ kind operation, r.origin = .relation kind operation := by
  obtain ⟨t, -, declares⟩ := exists_of_forall₂ (d.forall₂_declaresRelation s o sd hsd) rd hrd
  refine ⟨(declares.rawNames r hr).trans declares.rawName.symm, ?_⟩
  have origin : r.origin ∈ rd.decls.map (·.origin) := List.mem_map_of_mem hr
  rw [declares.operations] at origin
  split at origin
  · simp only [List.mem_cons, List.not_mem_nil, or_false] at origin
    rcases origin with origin | origin | origin
    all_goals exact ⟨_, _, origin⟩
  · exact ⟨_, _, List.mem_singleton.mp origin⟩

/-- Each relation is declared for rows read back. -/
theorem exists_select {rd : RelationDecls} (hrd : rd ∈ sd.relations) :
    ∃ r ∈ rd.decls, ∃ kind, r.origin = .relation kind .select := by
  obtain ⟨t, -, declares⟩ := exists_of_forall₂ (d.forall₂_declaresRelation s o sd hsd) rd hrd
  have select : Origin.relation t.kind .select ∈ rd.decls.map (·.origin) := by
    rw [declares.operations]
    split
    · next table => simp [table]
    · simp
  obtain ⟨r, hr, origin⟩ := List.mem_map.mp select
  exact ⟨r, hr, _, origin⟩

end Origins

end CatalogTypes
