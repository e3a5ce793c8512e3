import CatalogTypes.Proofs.Findings
import Mathlib.Data.List.Nodup
import Mathlib.Data.List.Perm.Basic

/-!
# The order of the input does not show

Text is generated from what an index answers, and every answer is a sorted list or a look-up by key.
So two indexes that answer alike give the same text (`build_congr`), and an index answers alike
however the lists of the snapshot are ordered, as long as no two entities share the key that they
are sorted by, and however the map of kept types is enumerated.
-/

namespace CatalogTypes

/-! ## Indexes that answer alike -/

/-- The indexes give the same answers. -/
structure Index.Alike (ix ix' : Index) : Prop where
  schemaNames : ix.schemaNames = ix'.schemaNames
  enums : ix.enums = ix'.enums
  composites : ix.composites = ix'.composites
  relations : ix.relations = ix'.relations
  columns : ix.columns = ix'.columns
  type? : ix.type? = ix'.type?
  typeNamed? : ix.typeNamed? = ix'.typeNamed?

namespace Index.Alike

variable {ix ix' : Index} (h : ix.Alike ix')

include h

theorem meaning : ix.meaning = ix'.meaning := by
  funext isEmitted home element
  rw [Index.meaning, Index.meaning, h.typeNamed?]

theorem resolve : ix.resolve = ix'.resolve := by
  funext isEmitted home format
  rw [Index.resolve, Index.resolve, h.meaning]

theorem resolveAttribute : ix.resolveAttribute = ix'.resolveAttribute := by
  funext isEmitted t attr
  rw [Index.resolveAttribute, Index.resolveAttribute, h.type?, h.resolve]

theorem nameSchema (d : Dialect) : d.nameSchema ix = d.nameSchema ix' := by
  funext names schema
  rw [Dialect.nameSchema, Dialect.nameSchema, h.enums, h.composites, h.relations]

theorem plan (d : Dialect) : d.plan ix = d.plan ix' := by
  funext o
  rw [Dialect.plan, Dialect.plan, h.nameSchema, h.schemaNames]

theorem declareSchema (d : Dialect) : d.declareSchema ix = d.declareSchema ix' := by
  have column : Dialect.resolveColumn ix = Dialect.resolveColumn ix' := by
    funext refs r c
    rw [Dialect.resolveColumn, Dialect.resolveColumn, h.resolve]
  have composite : d.declareComposite ix = d.declareComposite ix' := by
    funext refs t name
    rw [Dialect.declareComposite, Dialect.declareComposite, Dialect.compositeFields,
      Dialect.compositeFields, h.resolveAttribute]
  have relation : d.declareRelation ix = d.declareRelation ix' := by
    funext refs r names
    simp only [Dialect.declareRelation, Dialect.relationFields, column, h.columns]
  funext refs p
  rw [Dialect.declareSchema, Dialect.declareSchema, composite, relation]

theorem warnings (p : SchemaPlan) : p.warnings ix = p.warnings ix' := by
  funext refs
  simp only [SchemaPlan.warnings, Dialect.resolveColumn, h.resolve, h.resolveAttribute, h.columns]

end Index.Alike

/-- What is built shows of an index only its answers. -/
theorem Dialect.build_congr (d : Dialect) {ix ix' : Index} (h : ix.Alike ix') (o : Options) :
    d.build ix o = d.build ix' o := by
  simp only [build, h.plan, h.declareSchema, h.warnings]

/-! ## Types in another order -/

namespace Index

variable {ix ix' : Index} {ts ts' : List TypeDef}
variable (perm : ts.Perm ts') (ids : ∀ t ∈ ts, ∀ u ∈ ts, t.id = u.id → t = u)

include perm ids

private theorem sortTypes_eq (p : TypeDef → Bool) :
    sortBy compareTypes (ts.filter p) = sortBy compareTypes (ts'.filter p) := by
  refine sortBy_eq_of_perm (perm.filter p) fun t ht u hu h => ?_
  have same : t.name = u.name ∧ t.id = u.id := by
    simpa [compareTypes, compareLex, compareOn, Ordering.then_eq_eq] using h
  exact ids t (List.mem_filter.mp ht).1 u (List.mem_filter.mp hu).1 same.2

section BySchema

variable (h : ix.typesBySchema = .ofList (·.schema) ts)
variable (h' : ix'.typesBySchema = .ofList (·.schema) ts')

include h h'

theorem enums_eq : ix.enums = ix'.enums := by
  funext schema
  simp only [enums, h, h', Grouping.get_ofList, List.filter_filter]
  exact sortTypes_eq perm ids _

theorem composites_eq : ix.composites = ix'.composites := by
  funext schema
  simp only [composites, h, h', Grouping.get_ofList, List.filter_filter]
  exact sortTypes_eq perm ids _

end BySchema

theorem typeNamed?_eq (h : ix.typesByName = .ofList (·.name) (sortBy (compareOn (·.id)) ts))
    (h' : ix'.typesByName = .ofList (·.name) (sortBy (compareOn (·.id)) ts')) :
    ix.typeNamed? = ix'.typeNamed? := by
  have sorted : sortBy (compareOn (·.id)) ts = sortBy (compareOn (·.id)) ts' := by
    refine sortBy_eq_of_perm perm fun t ht u hu same => ids t ht u hu ?_
    simpa [compareOn] using same
  have same : ix.typesByName = ix'.typesByName := by rw [h, h', sorted]
  funext name home
  simp only [typeNamed?, qualified?, named?, same]

end Index

/-! ## Enumerations of the map of types -/

/-- The used schemas that are not declared, when the kept types are gone through in the order of
`values`. -/
def Snapshot.undeclaredAmong (s : Snapshot) (values : List TypeDef) : List String :=
  let used := (values.filter (!·.isScalar)).map (·.schema) ++ s.keptRelations.map (·.schema)
  let declared := Std.HashSet.ofList (s.schemas.map (·.name))
  sortBy compare (firsts id (used.filter (!declared.contains ·)))

/-- The index of the snapshot, when the map of kept types yields its values in the order of
`values`. -/
def Index.enumerating (s : Snapshot) (values : List TypeDef) : Index :=
  { ofSnapshot s with
    typesByName := Grouping.ofList (·.name) (sortBy (compareOn (·.id)) values)
    typesBySchema := Grouping.ofList (·.schema) values
    warnings := s.typeFlaws ++ s.relationFlaws ++ s.columnFlaws ++
      (s.undeclaredAmong values).map .undeclaredSchema }

/-- What is generated from an index. -/
def generateFrom (ix : Index) (o : Options) : Generated :=
  let built := o.language.dialect.build ix o
  { output := o.language.render o.access built.declarations
    warnings := (Findings.ofList (ix.warnings ++ built.warnings)).toList }

theorem Index.enumerating_keptTypes (s : Snapshot) : enumerating s s.keptTypes = ofSnapshot s := rfl

theorem generateFrom_ofSnapshot (s : Snapshot) (o : Options) :
    generateFrom (.ofSnapshot s) o = generate s o := rfl

section Enumeration

variable {s : Snapshot} {values : List TypeDef} (perm : values.Perm s.keptTypes)

include perm

theorem ids_of_perm_keptTypes : ∀ t ∈ values, ∀ u ∈ values, t.id = u.id → t = u :=
  fun _ ht _ hu => Snapshot.eq_of_mem_keptTypes (perm.mem_iff.mp ht) (perm.mem_iff.mp hu)

theorem Index.enumerating_alike : (enumerating s values).Alike (ofSnapshot s) where
  schemaNames := rfl
  enums := enums_eq perm (ids_of_perm_keptTypes perm) rfl rfl
  composites := composites_eq perm (ids_of_perm_keptTypes perm) rfl rfl
  relations := rfl
  columns := rfl
  type? := rfl
  typeNamed? := typeNamed?_eq perm (ids_of_perm_keptTypes perm) rfl rfl

theorem Snapshot.undeclaredAmong_eq : s.undeclaredAmong values = s.undeclaredSchemas := by
  refine sortBy_eq_of_perm ?_ fun x _ y _ h => by simpa using h
  refine (List.perm_ext_iff_of_nodup (nodup_firsts _ _) (nodup_firsts _ _)).mpr fun schema => ?_
  rw [mem_firsts_iff, mem_firsts_iff, isFirst_id_iff, isFirst_id_iff, usedSchemas]
  exact (((perm.filter _).map _).append_right _).filter _ |>.mem_iff

/-- However the map of kept types is enumerated, the same is generated, warnings included. -/
theorem generateFrom_enumerating (o : Options) :
    generateFrom (.enumerating s values) o = generate s o := by
  have warnings : (Index.enumerating s values).warnings = (Index.ofSnapshot s).warnings := by
    rw [Index.enumerating, Snapshot.undeclaredAmong_eq perm]
    rfl
  rw [← generateFrom_ofSnapshot, generateFrom, generateFrom,
    Dialect.build_congr _ (Index.enumerating_alike perm), warnings]

end Enumeration

/-! ## Shuffled snapshots -/

/-- The snapshots differ in the order of their lists only. -/
structure Snapshot.Shuffled (s s' : Snapshot) : Prop where
  schemas : s.schemas.Perm s'.schemas
  tables : s.tables.Perm s'.tables
  views : s.views.Perm s'.views
  materializedViews : s.materializedViews.Perm s'.materializedViews
  foreignTables : s.foreignTables.Perm s'.foreignTables
  columns : s.columns.Perm s'.columns
  types : s.types.Perm s'.types

/-- No id is given twice, to relations of any kind or to types, and the columns of a relation differ
in name or position. -/
structure Snapshot.Distinct (s : Snapshot) : Prop where
  relations : (s.relations.map (·.id)).Nodup
  types : (s.types.map (·.id)).Nodup
  columns : (s.columns.map fun c => (c.tableId, c.name, c.ordinalPosition)).Nodup

/-- Without repeated keys, every element is the first with its key. -/
theorem isFirst_iff_mem {α κ : Type} {key : α → κ} {xs : List α} (nodup : (xs.map key).Nodup)
    {x : α} : IsFirst key xs x ↔ x ∈ xs := by
  refine ⟨IsFirst.mem, fun hx => ?_⟩
  obtain ⟨y, first, same⟩ : ∃ y, IsFirst key xs y ∧ key y = key x := exists_isFirst hx
  rwa [← List.inj_on_of_nodup_map nodup first.mem hx same]

theorem not_isRepeat {α κ : Type} {key : α → κ} {xs : List α} (nodup : (xs.map key).Nodup)
    (x : α) : ¬ IsRepeat key xs x := by
  rintro ⟨before, after, rfl, y, hy, same⟩
  rw [List.map_append, List.nodup_append] at nodup
  exact nodup.2.2 _ (List.mem_map_of_mem hy) _ (by simp) same

namespace Snapshot.Shuffled

variable {s s' : Snapshot} (h : s.Shuffled s')

include h

theorem symm : s'.Shuffled s :=
  ⟨h.schemas.symm, h.tables.symm, h.views.symm, h.materializedViews.symm, h.foreignTables.symm,
    h.columns.symm, h.types.symm⟩

theorem relations : s.relations.Perm s'.relations := by
  refine List.Perm.flatMap_left _ fun kind _ => List.Perm.map _ ?_
  cases kind with
  | table => exact h.tables
  | view => exact h.views
  | materializedView => exact h.materializedViews
  | foreignTable => exact h.foreignTables

theorem distinct (distinct : s.Distinct) : s'.Distinct where
  relations := (h.relations.map _).nodup distinct.relations
  types := (h.types.map _).nodup distinct.types
  columns := (h.columns.map _).nodup distinct.columns

theorem schemaNames : (Index.ofSnapshot s).schemaNames = (Index.ofSnapshot s').schemaNames := by
  have perm : (Index.ofSnapshot s).schemaNames.Perm (Index.ofSnapshot s').schemaNames := by
    refine (List.perm_ext_iff_of_nodup (Index.nodup_schemaNames s)
      (Index.nodup_schemaNames s')).mpr fun name => ?_
    simp only [Index.mem_schemaNames_iff, h.schemas.mem_iff]
  refine perm.eq_of_pairwise (fun x y _ _ hxy hyx => ?_) (Index.schemaNames_pairwise s)
    (Index.schemaNames_pairwise s')
  exact absurd (String.lt_trans hxy hyx) (String.lt_irrefl x)

theorem keptColumns : s.keptColumns.Perm s'.keptColumns := by
  have known : ∀ id, s.tableIds.contains id = s'.tableIds.contains id := by
    intro id
    rw [tableIds_contains, tableIds_contains, h.relations.any_eq]
  rw [Snapshot.keptColumns, Snapshot.keptColumns, funext fun c : Column => known c.tableId]
  exact h.columns.filter _

variable (distinct : s.Distinct)

include distinct

theorem keptTypes : s.keptTypes.Perm s'.keptTypes := by
  refine (List.perm_ext_iff_of_nodup s.nodup_keptTypes s'.nodup_keptTypes).mpr fun t => ?_
  rw [mem_keptTypes_iff, mem_keptTypes_iff, isFirst_iff_mem distinct.types,
    isFirst_iff_mem (h.distinct distinct).types]
  exact h.types.mem_iff

theorem keptRelations : s.keptRelations.Perm s'.keptRelations := by
  refine (List.perm_ext_iff_of_nodup s.nodup_keptRelations s'.nodup_keptRelations).mpr fun r => ?_
  rw [mem_keptRelations_iff, mem_keptRelations_iff, isFirst_iff_mem distinct.relations,
    isFirst_iff_mem (h.distinct distinct).relations]
  exact h.relations.mem_iff

theorem columns_eq : (Index.ofSnapshot s).columns = (Index.ofSnapshot s').columns := by
  funext id
  simp only [Index.columns, Index.ofSnapshot, Grouping.get_ofList]
  refine sortBy_eq_of_perm (h.keptColumns.filter _) fun c hc c' hc' same => ?_
  obtain ⟨hc, owner⟩ := List.mem_filter.mp hc
  obtain ⟨hc', owner'⟩ := List.mem_filter.mp hc'
  have owner : c.tableId = c'.tableId := (eq_of_beq owner).trans (eq_of_beq owner').symm
  have same : c.name = c'.name ∧ c.ordinalPosition = c'.ordinalPosition := by
    simpa [compareColumns, compareLex, compareOn, Ordering.then_eq_eq] using same
  refine List.inj_on_of_nodup_map distinct.columns (List.mem_filter.mp hc).1
    (List.mem_filter.mp hc').1 ?_
  rw [owner, same.1, same.2]

theorem relations_eq : (Index.ofSnapshot s).relations = (Index.ofSnapshot s').relations := by
  funext schema
  simp only [Index.relations, Index.ofSnapshot, Grouping.get_ofList]
  refine sortBy_eq_of_perm ((h.keptRelations distinct).filter _) fun r hr r' hr' same => ?_
  have same : r.name = r'.name ∧ r.kind.rank = r'.kind.rank ∧ r.id = r'.id := by
    simpa [compareRelations, compareLex, compareOn, Ordering.then_eq_eq] using same
  exact eq_of_mem_keptRelations (List.mem_filter.mp hr).1 (List.mem_filter.mp hr').1 same.2.2

theorem alike : (Index.ofSnapshot s).Alike (Index.ofSnapshot s') := by
  have perm := h.keptTypes distinct
  have ids : ∀ t ∈ s.keptTypes, ∀ u ∈ s.keptTypes, t.id = u.id → t = u :=
    fun _ ht _ hu => eq_of_mem_keptTypes ht hu
  refine ⟨h.schemaNames, Index.enums_eq perm ids rfl rfl, Index.composites_eq perm ids rfl rfl,
    h.relations_eq distinct, h.columns_eq distinct, ?_, Index.typeNamed?_eq perm ids rfl rfl⟩
  funext id
  refine Option.ext fun t => ?_
  rw [Index.type?_eq_some_iff, Index.type?_eq_some_iff, perm.mem_iff]

/-- No id is given twice, so there are no repeats to report, and no other flaw is one of order. -/
theorem flaw {w : Warning} (flaw : s.Flaw w) : s'.Flaw w := by
  have distinct' := h.distinct distinct
  rcases flaw with again | ⟨first, both⟩ | again | ⟨hc, orphan⟩ | ⟨used, undeclared⟩
  · exact absurd again (not_isRepeat distinct.types _)
  · rw [isFirst_iff_mem distinct.types, h.types.mem_iff] at first
    exact .ambiguousType ((isFirst_iff_mem distinct'.types).mpr first) both
  · exact absurd again (not_isRepeat distinct.relations _)
  · refine .orphanColumn (h.columns.mem_iff.mp hc) fun r hr => orphan r ?_
    exact h.relations.mem_iff.mpr hr
  · refine .undeclaredSchema ?_ fun x hx => undeclared x (h.schemas.mem_iff.mpr hx)
    rcases used with ⟨t, first, kind, schema⟩ | ⟨r, first, schema⟩
    · rw [isFirst_iff_mem distinct.types, h.types.mem_iff] at first
      exact .inl ⟨t, (isFirst_iff_mem distinct'.types).mpr first, kind, schema⟩
    · rw [isFirst_iff_mem distinct.relations, h.relations.mem_iff] at first
      exact .inr ⟨r, (isFirst_iff_mem distinct'.relations).mpr first, schema⟩

end Snapshot.Shuffled

/-- The same text, and the same warnings up to their order. -/
structure Generated.Alike (g g' : Generated) : Prop where
  output : g.output = g'.output
  warnings : g.warnings.Perm g'.warnings

/-- In every language, a generation shows neither the order of any list of the snapshot nor the
order in which the map of kept types yields its values. -/
theorem generate_shuffled {s s' : Snapshot} (shuffled : s.Shuffled s') (distinct : s.Distinct)
    (o : Options) :
    (generate s o).Alike (generate s' o) ∧
      ∀ values, values.Perm s.keptTypes →
        generateFrom (.enumerating s values) o = generate s o := by
  refine ⟨?_, fun values perm => generateFrom_enumerating perm o⟩
  have built : declare s o = declare s' o := Dialect.build_congr _ (shuffled.alike distinct) o
  constructor
  · rw [generate, generate, built]
  · refine (List.perm_ext_iff_of_nodup (nodup_warnings_generate s o)
      (nodup_warnings_generate s' o)).mpr fun w => ?_
    rw [mem_warnings_generate_iff, mem_warnings_generate_iff, built]
    refine or_congr_left ⟨shuffled.flaw distinct, ?_⟩
    exact shuffled.symm.flaw (shuffled.distinct distinct)

/-- The snapshot with every list turned round. -/
def Snapshot.reverse (s : Snapshot) : Snapshot where
  schemas := s.schemas.reverse
  tables := s.tables.reverse
  views := s.views.reverse
  materializedViews := s.materializedViews.reverse
  foreignTables := s.foreignTables.reverse
  columns := s.columns.reverse
  types := s.types.reverse

theorem Snapshot.shuffled_reverse (s : Snapshot) : s.Shuffled s.reverse := by
  constructor <;> exact (List.reverse_perm _).symm

/-- Two tables of one name in two schemas, with enumerations of one name. -/
def Snapshot.twins : Snapshot where
  schemas := [⟨1, "app"⟩, ⟨2, "log"⟩]
  tables := [⟨10, "app", "event"⟩, ⟨11, "log", "event"⟩]
  columns := [
    { tableId := 10, name := "level", format := "level" },
    { tableId := 11, name := "level", format := "level[]" },
    { tableId := 10, name := "code", format := "unheard", ordinalPosition := 1 }]
  types := [.enumeration 20 "app" "level" ["low"], .enumeration 21 "log" "level" ["high"]]

theorem generate_shuffled_twins :
    Snapshot.twins.Distinct ∧
      (generate .twins {}).Alike (generate (Snapshot.reverse .twins) {}) := by
  have distinct : Snapshot.twins.Distinct := ⟨by decide, by decide, by decide⟩
  exact ⟨distinct, (generate_shuffled (Snapshot.shuffled_reverse _) distinct {}).1⟩

end CatalogTypes
