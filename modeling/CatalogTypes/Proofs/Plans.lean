import CatalogTypes.Declarations.Build
import Mathlib.Data.List.Forall2

/-!
# What a plan takes over from the index

Naming hands registries from each entity to the next, but which entities are named, and in which
order, does not depend on any registry. `SchemaPlan.Covers` records this for one schema, and
`forall_mem_build` hands it on to the declarations that are built from the plans.
-/

namespace CatalogTypes

/-! ## Threaded maps -/

section MapThread

variable {σ α β γ : Type} {f : σ → α → β × σ}

/-- What no state has a say in is mapped as without any state. -/
theorem map_mapThread {g : β → γ} {h : α → γ} (step : ∀ s x, g (f s x).1 = h x) (s : σ)
    (xs : List α) : (mapThread f s xs).1.map g = xs.map h := by
  induction xs generalizing s with
  | nil => rfl
  | cons x xs ih => simp [mapThread, step, ih]

theorem forall_mem_mapThread {P : β → Prop} (step : ∀ s x, P (f s x).1) (s : σ) (xs : List α) :
    ∀ y ∈ (mapThread f s xs).1, P y := by
  induction xs generalizing s with
  | nil => simp [mapThread]
  | cons x xs ih =>
    intro y hy
    rcases List.mem_cons.mp hy with rfl | hy
    · exact step s x
    · exact ih _ y hy

end MapThread

theorem forall₂_zipWith {α β γ : Type} {R : β → γ → Prop} {f : α → β → γ}
    (step : ∀ a b, R b (f a b)) {as : List α} {bs : List β} (h : as.length = bs.length) :
    List.Forall₂ R bs (as.zipWith f bs) := by
  induction bs generalizing as with
  | nil => simp
  | cons b bs ih =>
    cases as with
    | nil => simp at h
    | cons a as => exact .cons (step a b) (ih (by simpa using h))

theorem map_eq_map_of_forall₂ {α β γ : Type} {f : α → γ} {g : β → γ} {as : List α} {bs : List β}
    (h : List.Forall₂ (fun a b => g b = f a) as bs) : bs.map g = as.map f := by
  induction h with
  | nil => rfl
  | cons h _ ih => rw [List.map_cons, List.map_cons, h, ih]

theorem exists_of_forall₂ {α β : Type} {R : α → β → Prop} {as : List α} {bs : List β}
    (h : List.Forall₂ R as bs) : ∀ b ∈ bs, ∃ a ∈ as, R a b := by
  induction h with
  | nil => simp
  | cons h _ ih =>
    intro b hb
    rcases List.mem_cons.mp hb with rfl | hb
    · exact ⟨_, List.mem_cons_self, h⟩
    · obtain ⟨a, ha, hab⟩ := ih b hb
      exact ⟨a, List.mem_cons_of_mem _ ha, hab⟩

theorem exists_zip_of_forall₂ {α β : Type} {R : α → β → Prop} {as : List α} {bs : List β}
    (h : List.Forall₂ R as bs) : ∀ a ∈ as, ∃ b, (a, b) ∈ as.zip bs ∧ R a b := by
  induction h with
  | nil => simp
  | cons h _ ih =>
    intro a ha
    rcases List.mem_cons.mp ha with rfl | ha
    · exact ⟨_, List.mem_cons_self, h⟩
    · obtain ⟨b, hb, hab⟩ := ih a ha
      exact ⟨b, List.mem_cons_of_mem _ hb, hab⟩

/-- Lists that are related are related at their own members. -/
theorem forall₂_mem {α β : Type} {R : α → β → Prop} {as : List α} {bs : List β}
    (h : List.Forall₂ R as bs) : List.Forall₂ (fun a b => (a ∈ as ∧ b ∈ bs) ∧ R a b) as bs := by
  have left := (List.forall₂_and_left _ _).mpr ⟨fun a ha => ha, h⟩
  have right := (List.forall₂_and_left _ _).mpr ⟨fun b hb => hb, left.flip⟩
  apply right.flip.imp
  rintro a b ⟨hb, ha, hab⟩
  exact ⟨⟨ha, hb⟩, hab⟩

/-! ## Plans -/

/-- The enumeration has the id, the raw name and the labels of the type. -/
structure EnumDecl.Declares (e : EnumDecl) (t : TypeDef) : Prop where
  id : e.id = t.id
  rawName : e.rawName = t.name
  labels : e.variants.map (·.value) = t.enums

/-- The plan names the entities that the index has for its schema, one by one. -/
structure SchemaPlan.Covers (p : SchemaPlan) (ix : Index) : Prop where
  enums : p.enums.map Prod.fst = ix.enums p.schema
  composites : p.composites.map Prod.fst = ix.composites p.schema
  relations : p.relations.map Prod.fst = ix.relations p.schema
  declares : ∀ q ∈ p.enums, q.2.Declares q.1
  operations : ∀ q ∈ p.relations, q.2.map Prod.fst = q.1.kind.operations

namespace Dialect

variable (d : Dialect)

theorem labels_nameVariants (reg : Registry) (enumName : String) (labels : List String) :
    (d.nameVariants reg enumName labels).1.map (·.value) = labels := by
  rw [nameVariants, map_mapThread (h := id) fun _ _ => rfl, List.map_id]

theorem fst_nameEnum (schema : String) (types : Registry) (t : TypeDef) :
    (d.nameEnum schema types t).1.1 = t := rfl

theorem nameEnum_declares (schema : String) (types : Registry) (t : TypeDef) :
    (d.nameEnum schema types t).1.2.Declares t := by
  refine ⟨rfl, rfl, ?_⟩
  by_cases h : d.scopedVariants <;> simp [nameEnum, h, labels_nameVariants]

theorem fst_nameComposite (schema : String) (types : Registry) (t : TypeDef) :
    (d.nameComposite schema types t).1.1 = t := rfl

theorem fst_nameRelation (schema : String) (types : Registry) (r : KindedRelation) :
    (d.nameRelation schema types r).1.1 = r := rfl

theorem operations_nameRelation (schema : String) (types : Registry) (r : KindedRelation) :
    (d.nameRelation schema types r).1.2.map Prod.fst = r.kind.operations := by
  rw [nameRelation, map_mapThread (h := id) fun _ _ => rfl, List.map_id]

theorem schema_nameSchema (ix : Index) (names : Names) (schema : String) :
    (d.nameSchema ix names schema).1.schema = schema := rfl

theorem nameSchema_covers (ix : Index) (names : Names) (schema : String) :
    (d.nameSchema ix names schema).1.Covers ix where
  enums := by
    rw [nameSchema, map_mapThread (h := id) (d.fst_nameEnum schema), List.map_id]
  composites := by
    rw [nameSchema, map_mapThread (h := id) (d.fst_nameComposite schema), List.map_id]
  relations := by
    rw [nameSchema, map_mapThread (h := id) (d.fst_nameRelation schema), List.map_id]
  declares :=
    forall_mem_mapThread (P := fun q : TypeDef × EnumDecl => q.2.Declares q.1)
      (d.nameEnum_declares schema) _ _
  operations :=
    forall_mem_mapThread
      (P := fun q : KindedRelation × List (Operation × String) =>
        q.2.map Prod.fst = q.1.kind.operations)
      (d.operations_nameRelation schema) _ _

variable (ix : Index) (o : Options)

theorem schema_plan : (d.plan ix o).map (·.schema) = ix.schemaNames.filter o.admits := by
  rw [plan, map_mapThread (h := id) (d.schema_nameSchema ix), List.map_id]

theorem plan_covers : ∀ p ∈ d.plan ix o, p.Covers ix :=
  forall_mem_mapThread (P := fun p : SchemaPlan => p.Covers ix) (d.nameSchema_covers ix) _ _

/-! ## Declarations -/

/-- The references by which the fields of `build` get their types. -/
def emitted : References := d.references (d.plan ix o)

theorem schemas_build :
    (d.build ix o).declarations.schemas =
      (d.plan ix o).map (d.declareSchema ix (d.emitted ix o)) := rfl

theorem rawName_schemas_build :
    (d.build ix o).declarations.schemas.map (·.rawName) = ix.schemaNames.filter o.admits := by
  rw [schemas_build, List.map_map, ← d.schema_plan ix o]
  rfl

/-- What the declarations of every plan that covers the index have, all schemas that are built
have. -/
theorem forall_mem_build {P : SchemaDecls → Prop}
    (h : ∀ p ∈ d.plan ix o, p.Covers ix → P (d.declareSchema ix (d.emitted ix o) p)) :
    ∀ s ∈ (d.build ix o).declarations.schemas, P s := by
  intro s hs
  rw [schemas_build] at hs
  obtain ⟨p, hp, rfl⟩ := List.mem_map.mp hs
  exact h p hp (d.plan_covers ix o p hp)

end Dialect

section Declared

variable (d : Dialect) {ix : Index} (refs : References) {p : SchemaPlan}

theorem SchemaPlan.Covers.forall₂_enums (h : p.Covers ix) :
    List.Forall₂ (fun t e => e.Declares t) (ix.enums p.schema)
      (d.declareSchema ix refs p).enums := by
  rw [← h.enums, Dialect.declareSchema, List.forall₂_map_left_iff, List.forall₂_map_right_iff,
    List.forall₂_same]
  exact h.declares

/-- The composites are declared in order, each of them from its type. -/
theorem SchemaPlan.Covers.forall₂_composites (h : p.Covers ix) {R : TypeDef → RecordDecl → Prop}
    (step : ∀ t name, R t (d.declareComposite ix refs t name)) :
    List.Forall₂ R (ix.composites p.schema) (d.declareSchema ix refs p).composites := by
  rw [← h.composites, Dialect.declareSchema, List.forall₂_map_left_iff,
    List.forall₂_map_right_iff, List.forall₂_same]
  exact fun q _ => step q.1 q.2

/-- The relations are declared in order, each of them for the operations of its kind. -/
theorem SchemaPlan.Covers.forall₂_relations (h : p.Covers ix)
    {R : KindedRelation → RelationDecls → Prop}
    (step : ∀ r names, names.map Prod.fst = r.kind.operations →
      R r (d.declareRelation ix refs r names)) :
    List.Forall₂ R (ix.relations p.schema) (d.declareSchema ix refs p).relations := by
  rw [← h.relations, Dialect.declareSchema, List.forall₂_map_left_iff,
    List.forall₂_map_right_iff, List.forall₂_same]
  exact fun q hq => step q.1 q.2 (h.operations q hq)

theorem Dialect.length_fieldNames (rawNames : List String) :
    (d.fieldNames rawNames).length = rawNames.length :=
  length_mapThread ..

/-- The fields of a composite stand for its attributes, in order. -/
theorem Dialect.forall₂_compositeFields (t : TypeDef) {R : Attribute → Field → Prop}
    (step : ∀ name attr, R attr
      { name, rawName := attr.name, isOptional := false,
        type := (ix.resolveAttribute refs.contains t attr).typeOrNull d (refs[·]?) true }) :
    List.Forall₂ R t.attributes (d.compositeFields ix refs t) :=
  forall₂_zipWith step (by simp [d.length_fieldNames])

/-- The fields of a relation stand for its columns, in order. -/
theorem Dialect.forall₂_relationFields (r : KindedRelation) (operation : Operation)
    {R : Column → Field → Prop}
    (step : ∀ name c, R c
      { name, rawName := c.name, isOptional := operation.isOptional c,
        type := (resolveColumn ix refs r c).typeOrNull d (refs[·]?) c.isNullable }) :
    List.Forall₂ R (ix.columns r.id) (d.relationFields ix refs r operation) :=
  forall₂_zipWith step (by simp [d.length_fieldNames])

end Declared

end CatalogTypes
