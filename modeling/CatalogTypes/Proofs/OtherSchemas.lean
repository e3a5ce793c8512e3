import CatalogTypes.Proofs.InputOrder
import CatalogTypes.Proofs.Inventory

/-!
# What is not written does not show

Relations of all schemas go through one map of ids and one map of columns, and in a shared namespace
all names come from one registry. A build asks an index about the schemas that are written and about
nothing else, so indexes that agree on these give the same declarations (`build_congr_on`), down to
the numbers at the ends of names. `generate_agreeOn` says what this means for two snapshots.
-/

namespace CatalogTypes

/-! ## Indexes that agree on the schemas that are written -/

theorem mapThread_congr {σ α β : Type} {f g : σ → α → β × σ} {xs : List α}
    (h : ∀ x ∈ xs, ∀ s, f s x = g s x) (s : σ) : mapThread f s xs = mapThread g s xs := by
  induction xs generalizing s with
  | nil => rfl
  | cons x xs ih =>
    have rest := ih fun y hy => h y (List.mem_cons_of_mem _ hy)
    simp only [mapThread, h x List.mem_cons_self, rest]

/-- The indexes have the same schemas and types, and the same relations and columns in the schemas
that are written. -/
structure Index.AlikeOn (ix ix' : Index) (o : Options) : Prop where
  schemas : ix.schemas = ix'.schemas
  typesById : ix.typesById = ix'.typesById
  typesByName : ix.typesByName = ix'.typesByName
  typesBySchema : ix.typesBySchema = ix'.typesBySchema
  relations : ∀ schema ∈ ix.emittedNames o, ix.relations schema = ix'.relations schema
  columns : ∀ schema ∈ ix.emittedNames o, ∀ r ∈ ix.relations schema,
    ix.columns r.id = ix'.columns r.id

namespace Index.AlikeOn

variable {ix ix' : Index} {o : Options} (h : ix.AlikeOn ix' o)

include h

theorem emittedNames : ix.emittedNames o = ix'.emittedNames o := by
  rw [Index.emittedNames, Index.emittedNames, schemaNames, schemaNames, h.schemas]

theorem enums : ix.enums = ix'.enums := by
  funext schema
  rw [Index.enums, Index.enums, h.typesBySchema]

theorem composites : ix.composites = ix'.composites := by
  funext schema
  rw [Index.composites, Index.composites, h.typesBySchema]

theorem resolve : ix.resolve = ix'.resolve := by
  funext isEmitted home format
  simp only [Index.resolve, Index.meaning, Index.typeNamed?, Index.qualified?, Index.named?,
    h.typesByName]

theorem resolveAttribute : ix.resolveAttribute = ix'.resolveAttribute := by
  funext isEmitted t attr
  rw [Index.resolveAttribute, Index.resolveAttribute, Index.type?, Index.type?, h.typesById,
    h.resolve]

theorem resolveColumn : Dialect.resolveColumn ix = Dialect.resolveColumn ix' := by
  funext refs r c
  rw [Dialect.resolveColumn, Dialect.resolveColumn, h.resolve]

theorem plan (d : Dialect) : d.plan ix o = d.plan ix' o := by
  have step : ∀ schema ∈ ix.emittedNames o, ∀ names,
      d.nameSchema ix names schema = d.nameSchema ix' names schema := by
    intro schema hs names
    rw [Dialect.nameSchema, Dialect.nameSchema, h.enums, h.composites, h.relations schema hs]
  show (mapThread _ _ (ix.emittedNames o)).1 = (mapThread _ _ (ix'.emittedNames o)).1
  rw [← h.emittedNames, mapThread_congr step]

variable {d : Dialect} {p : SchemaPlan} (hp : p ∈ d.plan ix o)

include hp

/-- The relations that a plan names have the same columns in both indexes. -/
theorem columns_of_mem_plan {r : KindedRelation} {names : List (Operation × String)}
    (hr : (r, names) ∈ p.relations) : ix.columns r.id = ix'.columns r.id := by
  apply h.columns p.schema
  · rw [Index.emittedNames, ← d.schema_plan]
    exact List.mem_map_of_mem hp
  · rw [← (d.plan_covers ix o p hp).relations]
    exact List.mem_map_of_mem (f := Prod.fst) hr

theorem declareSchema (refs : References) :
    d.declareSchema ix refs p = d.declareSchema ix' refs p := by
  have composite : d.declareComposite ix refs = d.declareComposite ix' refs := by
    funext t name
    rw [Dialect.declareComposite, Dialect.declareComposite, Dialect.compositeFields,
      Dialect.compositeFields, h.resolveAttribute]
  have relation : ∀ q ∈ p.relations,
      d.declareRelation ix refs q.1 q.2 = d.declareRelation ix' refs q.1 q.2 := by
    intro q hq
    simp only [Dialect.declareRelation, Dialect.relationFields, h.resolveColumn,
      h.columns_of_mem_plan hp hq]
  rw [Dialect.declareSchema, Dialect.declareSchema, composite]
  exact congrArg (SchemaDecls.mk _ _ _ _) (List.map_congr_left relation)

theorem warnings (refs : References) : p.warnings ix refs = p.warnings ix' refs := by
  rw [SchemaPlan.warnings, SchemaPlan.warnings, h.resolveAttribute, h.resolveColumn]
  congr 1
  apply List.flatMap_congr
  rintro ⟨r, names⟩ hr
  simp only [h.columns_of_mem_plan hp hr]

end Index.AlikeOn

/-- What is built shows of an index only its schemas and types, and what it has in the schemas that
are written. -/
theorem Dialect.build_congr_on (d : Dialect) {ix ix' : Index} {o : Options}
    (h : ix.AlikeOn ix' o) : d.build ix o = d.build ix' o := by
  have schemas : ∀ refs, (d.plan ix o).map (d.declareSchema ix refs) =
      (d.plan ix o).map (d.declareSchema ix' refs) := by
    intro refs
    exact List.map_congr_left fun p hp => h.declareSchema hp refs
  have warnings : ∀ refs, (d.plan ix o).flatMap (·.warnings ix refs) =
      (d.plan ix o).flatMap (·.warnings ix' refs) := by
    intro refs
    exact List.flatMap_congr fun p hp => h.warnings hp refs
  simp only [build, schemas, warnings]
  rw [h.plan]

/-! ## Snapshots that agree on what is written -/

/-- The snapshots have the same schemas and types. In each of the four lists the relations that are
written are the same, in the same order, and each of them has the same columns. -/
structure Snapshot.AgreeOn (s s' : Snapshot) (o : Options) : Prop where
  schemas : s.schemas = s'.schemas
  types : s.types = s'.types
  relations : ∀ kind, (s.relationsOf kind).filter (s.emits o ·.schema) =
    (s'.relationsOf kind).filter (s'.emits o ·.schema)
  columns : ∀ r ∈ s.relations, s.emits o r.schema →
    s.columns.filter (·.tableId == r.id) = s'.columns.filter (·.tableId == r.id)

/-- Without repeated keys there is nothing to drop. -/
theorem firsts_eq_self {α κ : Type} [BEq κ] [Hashable κ] [LawfulBEq κ] {key : α → κ}
    {xs : List α} (nodup : (xs.map key).Nodup) : firsts key xs = xs := by
  induction xs with
  | nil => rfl
  | cons x xs ih =>
    obtain ⟨new, nodup⟩ := List.nodup_cons.mp nodup
    have others : xs.filter (key · != key x) = xs := by
      rw [List.filter_eq_self]
      intro y hy
      rw [bne_iff_ne]
      intro same
      exact new (same ▸ List.mem_map_of_mem hy)
    rw [firsts_cons, others, ih nodup]

/-- If each relation has an id of its own, the relations of a schema are all that lie in it. -/
theorem Index.relationsBySchema_get {s : Snapshot} (distinct : (s.relations.map (·.id)).Nodup)
    (schema : String) :
    (ofSnapshot s).relationsBySchema.get schema = s.relations.filter (·.schema == schema) := by
  rw [ofSnapshot, Grouping.get_ofList, Snapshot.keptRelations, firsts_eq_self distinct]

namespace Snapshot.AgreeOn

variable {s s' : Snapshot} {o : Options} (agree : s.AgreeOn s' o)

include agree

theorem emits (schema : String) : s.emits o schema = s'.emits o schema := by
  rw [Snapshot.emits, Snapshot.emits, agree.schemas]

/-- A schema that is written has the same relations in both snapshots, of each kind. -/
theorem filter_relations {schema : String} (emitted : s.emits o schema) :
    s.relations.filter (·.schema == schema) = s'.relations.filter (·.schema == schema) := by
  -- Among the relations that are written, those of the schema are all that lie in it.
  have among : ∀ (t : Snapshot) (kind : RelationKind), t.emits o schema →
      (t.relationsOf kind).filter (·.schema == schema) =
        ((t.relationsOf kind).filter (t.emits o ·.schema)).filter (·.schema == schema) := by
    intro t kind emitted
    rw [List.filter_filter]
    apply List.filter_congr
    intro r _
    cases h : r.schema == schema with
    | true => rw [eq_of_beq h, emitted, Bool.and_true]
    | false => rfl
  rw [Snapshot.relations, Snapshot.relations, List.filter_flatMap, List.filter_flatMap]
  apply List.flatMap_congr
  intro kind _
  rw [List.filter_map, List.filter_map]
  apply congrArg
  show (s.relationsOf kind).filter (·.schema == schema) =
    (s'.relationsOf kind).filter (·.schema == schema)
  rw [among s kind emitted, among s' kind (agree.emits schema ▸ emitted), agree.relations kind]

variable (distinct : (s.relations.map (·.id)).Nodup) (distinct' : (s'.relations.map (·.id)).Nodup)

include distinct distinct'

theorem relations_eq {schema : String} (emitted : s.emits o schema) :
    (Index.ofSnapshot s).relations schema = (Index.ofSnapshot s').relations schema := by
  rw [Index.relations, Index.relations, Index.relationsBySchema_get distinct,
    Index.relationsBySchema_get distinct', agree.filter_relations emitted]

theorem columns_eq {r : KindedRelation} (hr : r ∈ (Index.ofSnapshot s).relations r.schema)
    (emitted : s.emits o r.schema) :
    (Index.ofSnapshot s).columns r.id = (Index.ofSnapshot s').columns r.id := by
  have hr' : r ∈ (Index.ofSnapshot s').relations r.schema :=
    agree.relations_eq distinct distinct' emitted ▸ hr
  have present := (Index.mem_relations_iff.mp hr).1.mem
  have present' := (Index.mem_relations_iff.mp hr').1.mem
  rw [Index.columns, Index.columns, Index.columnsByTable_get present,
    Index.columnsByTable_get present', agree.columns r present emitted]

theorem alikeOn : (Index.ofSnapshot s).AlikeOn (Index.ofSnapshot s') o where
  schemas := by
    show sortBy _ (firsts _ s.schemas) = sortBy _ (firsts _ s'.schemas)
    rw [agree.schemas]
  typesById := by
    simp only [Index.ofSnapshot, Snapshot.keptTypes, agree.types]
  typesByName := by
    simp only [Index.ofSnapshot, Snapshot.keptTypes, agree.types]
  typesBySchema := by
    simp only [Index.ofSnapshot, Snapshot.keptTypes, agree.types]
  relations := by
    intro schema hs
    exact agree.relations_eq distinct distinct' (Index.mem_emittedNames_iff.mp hs)
  columns := by
    intro schema hs r hr
    obtain ⟨-, rfl⟩ := Index.mem_relations_iff.mp hr
    exact agree.columns_eq distinct distinct' hr (Index.mem_emittedNames_iff.mp hs)

end Snapshot.AgreeOn

/-- In every language, what a snapshot holds of relations and columns outside of the schemas that
are written changes neither the text nor what is noticed about fields. -/
theorem generate_agreeOn {s s' : Snapshot} {o : Options} (agree : s.AgreeOn s' o)
    (distinct : (s.relations.map (·.id)).Nodup) (distinct' : (s'.relations.map (·.id)).Nodup) :
    (generate s o).output = (generate s' o).output ∧
      (declare s o).warnings = (declare s' o).warnings := by
  have built : declare s o = declare s' o :=
    o.language.dialect.build_congr_on (agree.alikeOn distinct distinct')
  constructor
  · rw [generate, generate, built]
  · rw [built]

/-- Both relations would be named alike if both were written. -/
def Snapshot.crossing : Snapshot where
  schemas := [⟨1, "app"⟩, ⟨2, "app_log"⟩]
  tables := [⟨10, "app", "log_event"⟩, ⟨11, "app_log", "event"⟩]
  columns := [
    { tableId := 11, name := "code", format := "unheard" },
    { tableId := 10, name := "code", format := "int4" }]

/-- In the schemas `app_log` and `gone`, the relations and columns of `crossing` are others. -/
def Snapshot.crossingElsewhere : Snapshot where
  schemas := [⟨1, "app"⟩, ⟨2, "app_log"⟩]
  tables := [⟨12, "app_log", "code"⟩, ⟨10, "app", "log_event"⟩]
  views := [⟨13, "gone", "log_event"⟩]
  columns := [
    { tableId := 99, name := "code", format := "text" },
    { tableId := 10, name := "code", format := "int4" },
    { tableId := 13, name := "code", format := "int8" }]

theorem generate_agreeOn_crossing :
    let o : Options := { language := .go, excluded := some ["app_log"] }
    Snapshot.crossing.AgreeOn .crossingElsewhere o ∧
      (generate .crossing o).output = (generate .crossingElsewhere o).output := by
  intro o
  have agree : Snapshot.crossing.AgreeOn .crossingElsewhere o := by
    refine ⟨rfl, rfl, ?_, by decide⟩
    intro kind
    cases kind <;> decide
  exact ⟨agree, (generate_agreeOn agree (by decide) (by decide)).1⟩

end CatalogTypes
