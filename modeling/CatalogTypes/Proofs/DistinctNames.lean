import CatalogTypes.Generate
import CatalogTypes.Proofs.FreshNames
import CatalogTypes.Proofs.Plans

/-!
# Generated names are told apart

Naming a schema is one run of claims on the registry of types, whether it goes on with the names of
the schemas before or starts afresh. `SchemaPlan.granted` lists what such a run gives out; the
declarations have the same names in another order.
-/

namespace CatalogTypes

/-! ## Names of declarations -/

def EnumDecl.variantNames (e : EnumDecl) : List String := e.variants.map (·.name)

namespace SchemaDecls

/-- The names of the enumerations and records. -/
def typeNames (s : SchemaDecls) : List String := s.enums.map (·.name) ++ s.records.map (·.name)

def variantNames (s : SchemaDecls) : List String := s.enums.flatMap (·.variantNames)

end SchemaDecls

/-- How far the names of types are told apart in a language. In TypeScript they are raw names, each
under the key of its kind. -/
def Declarations.TypesDiffer (ds : Declarations) : Language → Prop
  | .go => (ds.schemas.flatMap fun s => s.typeNames ++ s.variantNames).Nodup
  | .python => (ds.schemas.flatMap (·.typeNames)).Nodup
  | .swift => ∀ s ∈ ds.schemas, s.typeNames.Nodup
  | .typescript => True

/-- No two names are the same that the language looks up in one namespace. -/
structure Declarations.NamesDiffer (ds : Declarations) (language : Language) : Prop where
  schemas : (ds.schemas.map (·.name)).Nodup
  types : ds.TypesDiffer language
  variants : ∀ s ∈ ds.schemas, ∀ e ∈ s.enums, e.variantNames.Nodup
  fields : ∀ s ∈ ds.schemas, ∀ r ∈ s.records, (r.fields.map (·.name)).Nodup

/-! ## Names of plans -/

/-- The names of an enumeration that stand among the types. -/
def Dialect.granted (d : Dialect) (e : EnumDecl) : List String :=
  e.name :: if d.scopedVariants then [] else e.variantNames

/-- The names that the registry of types gives out for a schema, in the order of their claims. -/
def SchemaPlan.granted (d : Dialect) (p : SchemaPlan) : List String :=
  p.enums.flatMap (d.granted ·.2) ++ p.composites.map (·.2) ++
    p.relations.flatMap fun q => q.2.map (·.2)

section Claims

variable {d : Dialect}

theorem Dialect.grants_claim (h : d.convention.Unnumbered) (reg : Registry) (base : String) :
    Registry.Grants reg [(d.claim reg base).1] (d.claim reg base).2 :=
  Registry.grants_claim h.separates reg base

theorem Dialect.nodup_name_plan (h : d.convention.Unnumbered) (ix : Index) (o : Options) :
    ((d.plan ix o).map (·.name)).Nodup :=
  (Registry.grants_map_mapThread Names.schemas _
    (fun names schema => d.grants_claim h names.schemas (d.namespaceName schema)) _ _).nodup

theorem Dialect.grants_nameVariants (h : d.convention.Unnumbered) (reg : Registry)
    (enumName : String) (labels : List String) :
    Registry.Grants reg ((d.nameVariants reg enumName labels).1.map (·.name))
      (d.nameVariants reg enumName labels).2 := by
  rw [nameVariants]
  refine Registry.grants_map_mapThread id _ (fun reg label => ?_) reg labels
  exact d.grants_claim h reg (d.variantName enumName label)

theorem Dialect.nodup_variantNames (h : d.convention.Unnumbered) (schema : String)
    (types : Registry) (t : TypeDef) :
    (d.nameEnum schema types t).1.2.variantNames.Nodup := by
  by_cases hs : d.scopedVariants
  · have variants := d.grants_nameVariants h .empty
      (d.claimType types (d.enumName schema t.name)).1 t.enums
    simpa [nameEnum, EnumDecl.variantNames, hs] using variants.nodup
  · have variants := d.grants_nameVariants h (d.claimType types (d.enumName schema t.name)).2
      (d.claimType types (d.enumName schema t.name)).1 t.enums
    simpa [nameEnum, EnumDecl.variantNames, hs] using variants.nodup

theorem Dialect.nodup_variantNames_plan (h : d.convention.Unnumbered) (ix : Index) (o : Options) :
    ∀ p ∈ d.plan ix o, ∀ q ∈ p.enums, q.2.variantNames.Nodup :=
  forall_mem_mapThread (P := fun p : SchemaPlan => ∀ q ∈ p.enums, q.2.variantNames.Nodup)
    (fun _ schema => forall_mem_mapThread
      (P := fun q : TypeDef × EnumDecl => q.2.variantNames.Nodup)
      (d.nodup_variantNames h schema) _ _) _ _

theorem Dialect.nodup_fieldNames (h : d.convention.Unnumbered) (rawNames : List String) :
    (d.fieldNames rawNames).Nodup := by
  have grants := Registry.grants_map_mapThread id id
    (fun reg raw => d.grants_claim h reg (d.convention.fieldName raw)) .empty rawNames
  rw [List.map_id] at grants
  exact grants.nodup

end Claims

/-! ## Names of types -/

section Types

variable {d : Dialect} (h : d.convention.Unnumbered) (distinct : d.distinctTypes)
include h distinct

theorem Dialect.grants_claimType (reg : Registry) (base : String) :
    Registry.Grants reg [(d.claimType reg base).1] (d.claimType reg base).2 := by
  rw [claimType, if_pos distinct]
  exact d.grants_claim h reg base

theorem Dialect.grants_nameEnum (schema : String) (types : Registry) (t : TypeDef) :
    Registry.Grants types (d.granted (d.nameEnum schema types t).1.2)
      (d.nameEnum schema types t).2 := by
  have name := grants_claimType h distinct types (d.enumName schema t.name)
  by_cases hs : d.scopedVariants
  · simpa [nameEnum, granted, hs] using name
  · have variants := name.append (d.grants_nameVariants h _ (d.claimType types
      (d.enumName schema t.name)).1 t.enums)
    simpa [nameEnum, granted, hs, EnumDecl.variantNames] using variants

theorem Dialect.grants_nameRelation (schema : String) (types : Registry) (r : KindedRelation) :
    Registry.Grants types ((d.nameRelation schema types r).1.2.map (·.2))
      (d.nameRelation schema types r).2 := by
  rw [nameRelation]
  refine Registry.grants_map_mapThread id _ (fun types operation => ?_) types r.kind.operations
  exact grants_claimType h distinct types (d.relationName schema r.name operation)

theorem Dialect.grants_nameComposite (schema : String) (types : Registry) (t : TypeDef) :
    Registry.Grants types [(d.nameComposite schema types t).1.2]
      (d.nameComposite schema types t).2 :=
  grants_claimType h distinct types (d.compositeName schema t.name)

theorem Dialect.grants_enums (schema : String) (types : Registry) (ts : List TypeDef) :
    Registry.Grants types ((mapThread (d.nameEnum schema) types ts).1.flatMap (d.granted ·.2))
      (mapThread (d.nameEnum schema) types ts).2 :=
  Registry.grants_mapThread id _ (grants_nameEnum h distinct schema) types ts

theorem Dialect.grants_composites (schema : String) (types : Registry) (ts : List TypeDef) :
    Registry.Grants types ((mapThread (d.nameComposite schema) types ts).1.map (·.2))
      (mapThread (d.nameComposite schema) types ts).2 :=
  Registry.grants_map_mapThread id _ (grants_nameComposite h distinct schema) types ts

theorem Dialect.grants_relations (schema : String) (types : Registry) (rs : List KindedRelation) :
    Registry.Grants types
      ((mapThread (d.nameRelation schema) types rs).1.flatMap fun q => q.2.map (·.2))
      (mapThread (d.nameRelation schema) types rs).2 := by
  have grants := Registry.grants_mapThread id
    (fun q : KindedRelation × List (Operation × String) => q.2.map (·.2))
    (grants_nameRelation h distinct schema) types rs
  exact grants

/-- The types of a schema get names that its registry does not have. -/
theorem Dialect.grants_nameSchema (ix : Index) (names : Names) (schema : String) :
    Registry.Grants (if d.sharedNamespace then names.types else .empty)
      ((d.nameSchema ix names schema).1.granted d) (d.nameSchema ix names schema).2.types :=
  ((grants_enums h distinct schema _ _).append (grants_composites h distinct schema _ _)).append
    (grants_relations h distinct schema _ _)

theorem SchemaPlan.nodup_granted (ix : Index) (o : Options) :
    ∀ p ∈ d.plan ix o, (p.granted d).Nodup :=
  forall_mem_mapThread (P := fun p : SchemaPlan => (p.granted d).Nodup)
    (fun names schema => (Dialect.grants_nameSchema h distinct ix names schema).nodup) _ _

/-- In a shared namespace, the run of claims goes on from schema to schema. -/
theorem SchemaPlan.nodup_flatMap_granted (shared : d.sharedNamespace) (ix : Index) (o : Options) :
    ((d.plan ix o).flatMap (·.granted d)).Nodup := by
  have step : ∀ names schema, Registry.Grants names.types
      ((d.nameSchema ix names schema).1.granted d) (d.nameSchema ix names schema).2.types := by
    intro names schema
    have grants := Dialect.grants_nameSchema h distinct ix names schema
    rwa [if_pos shared] at grants
  exact (Registry.grants_mapThread Dialect.Names.types _ step _ _).nodup

end Types

/-! ## Names of what is built -/

section Declared

variable (d : Dialect) (ix : Index) (refs : References)

/-- The declarations have the names of the plan, though not in the order of the claims. -/
theorem SchemaPlan.granted_perm (p : SchemaPlan) :
    (p.granted d).Perm ((d.declareSchema ix refs p).typeNames ++
      if d.scopedVariants then [] else (d.declareSchema ix refs p).variantNames) := by
  have records : (d.declareSchema ix refs p).records.map (·.name) =
      p.composites.map (·.2) ++ p.relations.flatMap fun q => q.2.map (·.2) := by
    simp [SchemaDecls.records, Dialect.declareSchema, Dialect.declareComposite,
      Dialect.declareRelation, List.map_flatMap, List.flatMap_map, Function.comp_def]
  have enums : (p.enums.flatMap (d.granted ·.2)).Perm
      ((d.declareSchema ix refs p).enums.map (·.name) ++
        if d.scopedVariants then [] else (d.declareSchema ix refs p).variantNames) := by
    by_cases hs : d.scopedVariants
    · simp [Dialect.granted, hs, Dialect.declareSchema, ← List.map_eq_flatMap, Function.comp_def]
    · have split := List.map_append_flatMap_perm (d.declareSchema ix refs p).enums
        (·.name) (·.variantNames)
      simpa [Dialect.granted, hs, Dialect.declareSchema, List.flatMap_map,
        SchemaDecls.variantNames] using split.symm
  rw [SchemaPlan.granted, List.append_assoc, ← records, SchemaDecls.typeNames, List.append_assoc]
  refine (enums.append_right _).trans ?_
  rw [List.append_assoc]
  exact List.perm_append_comm.append_left _

theorem SchemaPlan.granted_perm_typeNames (hs : d.scopedVariants) (p : SchemaPlan) :
    (p.granted d).Perm (d.declareSchema ix refs p).typeNames := by
  have perm := granted_perm d ix refs p
  rwa [if_pos hs, List.append_nil] at perm

theorem map_name_zipWith {α : Type} {f : String → α → Field} (hf : ∀ name x, (f name x).name = name)
    {names : List String} {xs : List α} (h : names.length = xs.length) :
    (names.zipWith f xs).map (·.name) = names := by
  rw [List.map_zipWith, ← List.map_uncurry_zip_eq_zipWith]
  simp only [hf]
  exact List.map_fst_zip (Nat.le_of_eq h)

theorem Dialect.map_name_compositeFields (t : TypeDef) :
    (d.compositeFields ix refs t).map (·.name) = d.fieldNames (t.attributes.map (·.name)) :=
  map_name_zipWith (fun _ _ => rfl) (by simp [d.length_fieldNames])

theorem Dialect.map_name_relationFields (r : KindedRelation) (operation : Operation) :
    (d.relationFields ix refs r operation).map (·.name) =
      d.fieldNames ((ix.columns r.id).map (·.name)) :=
  map_name_zipWith (fun _ _ => rfl) (by simp [d.length_fieldNames])

theorem Dialect.nodup_fields_declareSchema (h : d.convention.Unnumbered) (p : SchemaPlan) :
    ∀ r ∈ (d.declareSchema ix refs p).records, (r.fields.map (·.name)).Nodup := by
  intro r hr
  rcases List.mem_append.mp hr with hr | hr
  · obtain ⟨q, -, rfl⟩ := List.mem_map.mp hr
    exact map_name_compositeFields d ix refs q.1 ▸ nodup_fieldNames h _
  · obtain ⟨rd, hrd, hr⟩ := List.mem_flatMap.mp hr
    obtain ⟨q, -, rfl⟩ := List.mem_map.mp hrd
    obtain ⟨decl, -, rfl⟩ := List.mem_map.mp hr
    exact map_name_relationFields d ix refs q.1 decl.1 ▸ nodup_fieldNames h _

end Declared

/-! ## Languages -/

theorem Language.unnumbered (language : Language) : language.dialect.convention.Unnumbered := by
  cases language with
  | typescript => exact fun _ h => absurd h List.not_mem_nil
  | go => decide
  | swift => decide
  | python => decide

theorem Dialect.typesDiffer_build (ix : Index) (o : Options) (language : Language) :
    (language.dialect.build ix o).declarations.TypesDiffer language := by
  have unnumbered := language.unnumbered
  cases language with
  | go =>
    rw [Declarations.TypesDiffer, schemas_build, List.flatMap_map]
    refine (List.Perm.flatMap_left _ fun p _ => ?_).nodup_iff.mp
      (SchemaPlan.nodup_flatMap_granted unnumbered rfl rfl ix o)
    exact SchemaPlan.granted_perm _ ix _ p
  | python =>
    rw [Declarations.TypesDiffer, schemas_build, List.flatMap_map]
    refine (List.Perm.flatMap_left _ fun p _ => ?_).nodup_iff.mp
      (SchemaPlan.nodup_flatMap_granted unnumbered rfl rfl ix o)
    exact SchemaPlan.granted_perm_typeNames _ ix _ rfl p
  | swift =>
    refine Dialect.forall_mem_build _ ix o fun p hp _ => ?_
    refine (SchemaPlan.granted_perm_typeNames _ ix _ rfl p).nodup_iff.mp ?_
    exact SchemaPlan.nodup_granted unnumbered rfl ix o p hp
  | typescript => trivial

/-- Whatever names the snapshot has, and however they fold, escape or end in numbers: no two
generated names clash. -/
theorem declare_namesDiffer (s : Snapshot) (o : Options) :
    (declare s o).declarations.NamesDiffer o.language := by
  have unnumbered := o.language.unnumbered
  constructor
  case schemas =>
    rw [declare, Dialect.schemas_build, List.map_map]
    exact Dialect.nodup_name_plan unnumbered _ o
  case types => exact Dialect.typesDiffer_build _ o o.language
  case variants =>
    refine Dialect.forall_mem_build _ _ o fun p hp _ e he => ?_
    obtain ⟨q, hq, rfl⟩ := List.mem_map.mp he
    exact Dialect.nodup_variantNames_plan unnumbered _ o p hp q hq
  case fields =>
    exact Dialect.forall_mem_build _ _ o fun p _ _ =>
      Dialect.nodup_fields_declareSchema _ _ _ unnumbered p

end CatalogTypes
