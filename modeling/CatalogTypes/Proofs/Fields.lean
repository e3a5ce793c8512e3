import CatalogTypes.Proofs.ByteOrder
import CatalogTypes.Proofs.FieldTypes
import Mathlib.Data.List.Perm.Basic

/-!
# Which fields declarations have

The fields of a declaration are compared with the columns and attributes of the snapshot. A relation
finds its columns by its id and stands in its schema by its name, so relations of one name do not
mix up their columns; `build_hasFields` says so for every schema, and counts the fields of all
schemas together against the snapshot.
-/

namespace CatalogTypes

/-! ## Lists -/

/-- A sort leaves elements that compare equal in the order of the input. -/
theorem filter_sortBy {α : Type} {cmp : α → α → Ordering} [Std.TransCmp cmp] {p : α → Bool}
    {xs : List α} (ties : ∀ x ∈ xs, ∀ y ∈ xs, p x → p y → cmp x y = .eq) :
    (sortBy cmp xs).filter p = xs.filter p := by
  have sorted : (xs.filter p).Pairwise fun x y => (cmp x y).isLE := by
    apply List.pairwise_of_forall_mem_list
    intro x hx y hy
    obtain ⟨hx, px⟩ := List.mem_filter.mp hx
    obtain ⟨hy, py⟩ := List.mem_filter.mp hy
    rw [ties x hx y hy px py]
    rfl
  have sub : (xs.filter p).Sublist (sortBy cmp xs) := by
    apply List.sublist_mergeSort
    · exact fun _ _ _ h h' => Std.TransCmp.isLE_trans h h'
    · exact isLE_or_isLE cmp
    · exact sorted
    · exact List.filter_sublist
  have kept : (xs.filter p).Sublist ((sortBy cmp xs).filter p) := by
    simpa [List.filter_filter] using sub.filter p
  exact (kept.eq_of_length ((sortBy_perm cmp xs).filter p).length_eq.symm).symm

/-- Lists of elements by key hold the elements that have one of the keys, each of them once. -/
theorem flatMap_filter_perm {α κ : Type} [BEq κ] [LawfulBEq κ] {ks : List κ} (nodup : ks.Nodup)
    (key : α → κ) (xs : List α) :
    (ks.flatMap fun k => xs.filter (key · == k)).Perm (xs.filter (ks.contains <| key ·)) := by
  induction ks with
  | nil => simp
  | cons k ks ih =>
    obtain ⟨hk, nodup⟩ := List.nodup_cons.mp nodup
    have head : (xs.filter ((k :: ks).contains <| key ·)).filter (key · == k) =
        xs.filter (key · == k) := by
      rw [List.filter_filter]
      refine List.filter_congr fun x _ => ?_
      cases h : key x == k <;> simp [h]
    have tail : (xs.filter ((k :: ks).contains <| key ·)).filter (!key · == k) =
        xs.filter (ks.contains <| key ·) := by
      rw [List.filter_filter]
      refine List.filter_congr fun x _ => ?_
      cases h : key x == k with
      | true =>
        have absent : ks.contains (key x) = false := by
          rw [eq_of_beq h]
          simpa using hk
        rw [absent]
        rfl
      | false => simp [h]
    rw [List.flatMap_cons]
    refine ((ih nodup).append_left _).trans ?_
    rw [← head, ← tail]
    exact List.filter_append_perm _ _

theorem forall₂_zipWith_zipWith {α β γ : Type} {R : γ → γ → Prop} {f g : α → β → γ}
    (step : ∀ a b, R (f a b) (g a b)) (as : List α) (bs : List β) :
    List.Forall₂ R (as.zipWith f bs) (as.zipWith g bs) := by
  induction as generalizing bs with
  | nil => exact .nil
  | cons a as ih =>
    cases bs with
    | nil => exact .nil
    | cons b bs => exact .cons (step a b) (ih bs)

/-! ## Columns in order -/

/-- Whether a column stands before another in its relation: by the bytes of its name, then by its
position. -/
def Column.Before (c c' : Column) : Prop :=
  Text.bytes c.name < Text.bytes c'.name ∨
    c.name = c'.name ∧ c.ordinalPosition < c'.ordinalPosition

/-- The columns of the snapshot with the id of a relation, in order. Columns with one name and one
position come in the order of the snapshot. -/
structure Snapshot.ListsColumns (s : Snapshot) (id : ObjectId) (cs : List Column) : Prop where
  perm : cs.Perm (s.columns.filter (·.tableId == id))
  ascending : cs.Pairwise fun c c' =>
    c.Before c' ∨ c.name = c'.name ∧ c.ordinalPosition = c'.ordinalPosition
  stable : ∀ name position,
    cs.filter (fun c => c.name == name && c.ordinalPosition == position) =
      s.columns.filter fun c =>
        c.tableId == id && (c.name == name && c.ordinalPosition == position)

theorem compareColumns_isLE_iff {c c' : Column} :
    (compareColumns c c').isLE ↔
      c.Before c' ∨ c.name = c'.name ∧ c.ordinalPosition = c'.ordinalPosition := by
  have lt : compareColumns c c' = .lt ↔ c.Before c' := by
    simp only [compareColumns, compareLex, compareOn, Column.Before, Ordering.then_eq_lt,
      compare_string_eq_lt_iff, compare_id_eq_lt_iff, Text.lt_iff_bytes_lt, Std.compare_eq_iff_eq]
  have eq : compareColumns c c' = .eq ↔
      c.name = c'.name ∧ c.ordinalPosition = c'.ordinalPosition := by
    simp [compareColumns, compareLex, compareOn, Ordering.then_eq_eq]
  rw [← lt, ← eq]
  cases compareColumns c c' <;> simp

theorem Index.listsColumns {s : Snapshot} {r : KindedRelation} (hr : r ∈ s.relations) :
    s.ListsColumns r.id ((ofSnapshot s).columns r.id) where
  perm := columns_perm hr
  ascending := by
    refine (sortBy_pairwise compareColumns _).imp fun h => compareColumns_isLE_iff.mp h
  stable := by
    intro name position
    rw [columns, filter_sortBy, columnsByTable_get hr, List.filter_filter]
    · refine List.filter_congr fun c _ => ?_
      rw [Bool.and_comm]
    · intro c _ c' _ hc hc'
      simp_all [compareColumns, compareLex, compareOn]

/-! ## Fields -/

/-- The field stands for the column in a declaration for the operation. -/
structure Field.ShowsColumn (f : Field) (operation : Operation) (c : Column) : Prop where
  rawName : f.rawName = c.name
  isOptional : f.isOptional = operation.isOptional c
  isNullable : f.type.isNullable = c.isNullable

/-- The field stands for the attribute of a composite. -/
structure Field.ShowsAttribute (f : Field) (attr : Attribute) : Prop where
  rawName : f.rawName = attr.name
  isOptional : f.isOptional = false
  isNullable : f.type.isNullable

/-- The fields differ at most in whether they may be left out, and `f'` may be if `f` may be. -/
def Field.Loosens (f f' : Field) : Prop :=
  f' = { f with isOptional := f'.isOptional } ∧ (f.isOptional → f'.isOptional)

/-- The relation is declared for each of its operations with a field for each of the columns. From
one declaration to the next, more fields may be left out, and nothing else changes. -/
structure RelationDecls.HasColumns (rd : RelationDecls) (r : KindedRelation) (cs : List Column) :
    Prop where
  id : rd.id = r.id
  decls : List.Forall₂ (fun operation decl => decl.rawName = r.name ∧
    decl.origin = .relation r.kind operation ∧
    List.Forall₂ (fun c f => f.ShowsColumn operation c) cs decl.fields) r.kind.operations rd.decls
  alike : rd.decls.Pairwise fun decl decl' => List.Forall₂ Field.Loosens decl.fields decl'.fields

/-- The composite is declared with a field for each of its attributes, in their order. -/
structure RecordDecl.HasAttributes (c : RecordDecl) (t : TypeDef) : Prop where
  rawName : c.rawName = t.name
  origin : c.origin = .composite
  fields : List.Forall₂ (fun attr f => f.ShowsAttribute attr) t.attributes c.fields

/-- Every relation of the schema has its own columns and every composite its own attributes. -/
structure SchemaDecls.HasFields (sd : SchemaDecls) (s : Snapshot) : Prop where
  relations : ∃ rs : List KindedRelation, rs.Pairwise KindedRelation.Before ∧
    (∀ r, r ∈ rs ↔ IsFirst (·.id) s.relations r ∧ r.schema = sd.rawName) ∧
    List.Forall₂ (fun r rd => ∃ cs, s.ListsColumns r.id cs ∧ rd.HasColumns r cs) rs sd.relations
  composites : ∃ ts : List TypeDef, ts.Pairwise TypeDef.Before ∧
    (∀ t, t ∈ ts ↔ IsFirst (·.id) s.types t ∧ t.isComposite ∧ t.schema = sd.rawName) ∧
    List.Forall₂ (fun t c => c.HasAttributes t) ts sd.composites

namespace Declarations

/-- The fields of all declarations for an operation, by the ids of their relations. -/
def columnFields (ds : Declarations) (operation : Operation) : List (ObjectId × String) :=
  ds.schemas.flatMap fun sd => sd.relations.flatMap fun rd =>
    (rd.decls.filter (·.operation? == some operation)).flatMap fun decl =>
      decl.fields.map fun f => (rd.id, f.rawName)

/-- The fields of all composites, by schema and composite. -/
def attributeFields (ds : Declarations) : List (String × String × String) :=
  ds.schemas.flatMap fun sd => sd.composites.flatMap fun c =>
    c.fields.map fun f => (sd.rawName, c.rawName, f.rawName)

end Declarations

/-- The columns of the relations that are declared for an operation. -/
def Snapshot.declaredColumns (s : Snapshot) (o : Options) (operation : Operation) : List Column :=
  s.columns.filter fun c => s.keptRelations.any fun r =>
    r.id == c.tableId && s.emits o r.schema && r.kind.operations.contains operation

/-- The composites that are declared. -/
def Snapshot.declaredComposites (s : Snapshot) (o : Options) : List TypeDef :=
  s.keptTypes.filter fun t => t.isComposite && s.emits o t.schema

/-- The fields are those of the snapshot: in every schema that is written, each relation and each
composite has just its own, and over all schemas no column and no attribute is lost or comes
twice. -/
structure Declarations.HasFields (ds : Declarations) (s : Snapshot) (o : Options) : Prop where
  names : ∀ name, name ∈ ds.schemas.map (·.rawName) ↔ s.emits o name
  schemas : ∀ sd ∈ ds.schemas, sd.HasFields s
  columns : ∀ operation, (ds.columnFields operation).Perm
    ((s.declaredColumns o operation).map fun c => (c.tableId, c.name))
  attributes : ds.attributeFields.Perm
    ((s.declaredComposites o).flatMap fun t =>
      t.attributes.map fun attr => (t.schema, t.name, attr.name))

theorem Resolved.isNullable_typeOrNull (d : Dialect) (reference? : ObjectId → Option String)
    (nullable : Bool) (r : Resolved) :
    (r.typeOrNull d reference? nullable).isNullable = nullable := by
  cases nullable with
  | true => exact TargetType.isNullable_orNull _
  | false =>
    obtain ⟨layers, meaning⟩ := r
    cases layers <;> rfl

/-- A later operation leaves at least as much out. -/
theorem RelationKind.operations_pairwise (kind : RelationKind) :
    kind.operations.Pairwise fun operation operation' =>
      ∀ c, operation.isOptional c → operation'.isOptional c := by
  cases kind with
  | table =>
    simpa [operations, isReadOnly, Operation.all] using
      fun c => Operation.isOptional_insert_of_select (c := c)
  | view | materializedView | foreignTable => exact List.pairwise_singleton _ _

theorem RelationKind.nodup_operations (kind : RelationKind) : kind.operations.Nodup := by
  cases kind <;> decide

namespace Dialect

variable (d : Dialect) {ix : Index} (refs : References)

theorem declareRelation_hasColumns (r : KindedRelation) (names : List (Operation × String))
    (h : names.map Prod.fst = r.kind.operations) :
    (d.declareRelation ix refs r names).HasColumns r (ix.columns r.id) where
  id := rfl
  decls := by
    rw [← h, declareRelation, List.forall₂_map_left_iff, List.forall₂_map_right_iff,
      List.forall₂_same]
    rintro ⟨operation, name⟩ -
    refine ⟨rfl, rfl, d.forall₂_relationFields refs r operation fun name c => ⟨rfl, rfl, ?_⟩⟩
    exact Resolved.isNullable_typeOrNull ..
  alike := by
    have monotone := r.kind.operations_pairwise
    rw [← h, List.pairwise_map] at monotone
    rw [declareRelation, List.pairwise_map]
    refine monotone.imp fun {q q'} looser => ?_
    exact forall₂_zipWith_zipWith (fun name c => ⟨rfl, looser c⟩) _ _

theorem declareComposite_hasAttributes (t : TypeDef) (name : String) :
    (d.declareComposite ix refs t name).HasAttributes t where
  rawName := rfl
  origin := rfl
  fields := by
    refine d.forall₂_compositeFields refs t fun name attr => ⟨rfl, rfl, ?_⟩
    exact Resolved.isNullable_typeOrNull d (refs[·]?) true _

end Dialect

/-! ## Fields of all schemas -/

theorem flatMap_eq_of_forall₂ {α β γ : Type} {f : α → List γ} {g : β → List γ} {as : List α}
    {bs : List β} (h : List.Forall₂ (fun a b => g b = f a) as bs) :
    bs.flatMap g = as.flatMap f := by
  rw [List.flatMap_def, List.flatMap_def, map_eq_map_of_forall₂ h]

theorem flatMap_filter {α β : Type} (p : α → Bool) (f : α → List β) (xs : List α) :
    (xs.filter p).flatMap f = xs.flatMap fun x => if p x then f x else [] := by
  induction xs with
  | nil => rfl
  | cons x xs ih => cases h : p x <;> simp [h, ih]

/-- What depends on the key alone comes once if the key is there. -/
theorem flatMap_const_of_nodup {α β κ : Type} [BEq κ] [LawfulBEq κ] {key : α → κ} {xs : List α}
    (nodup : (xs.map key).Nodup) (k : κ) (ys : List β) :
    (xs.filter (key · == k)).flatMap (fun _ => ys) =
      if (xs.map key).contains k then ys else [] := by
  induction xs with
  | nil => rfl
  | cons x xs ih =>
    rw [List.map_cons, List.nodup_cons] at nodup
    have rest := ih nodup.2
    cases h : key x == k with
    | true =>
      obtain rfl := eq_of_beq h
      rw [if_neg (by simpa using nodup.1)] at rest
      simp [rest]
    | false =>
      have h' : (k == key x) = false := by rwa [BEq.comm]
      rw [List.filter_cons_of_neg (by simp [h]), rest, List.map_cons, List.contains_cons, h',
        Bool.false_or]

namespace RelationDecls.HasColumns

variable {rd : RelationDecls} {r : KindedRelation} {cs : List Column}

theorem operations (h : rd.HasColumns r cs) :
    rd.decls.map (·.operation?) = r.kind.operations.map some := by
  refine map_eq_map_of_forall₂ (h.decls.imp ?_)
  rintro operation decl ⟨-, origin, -⟩
  rw [RecordDecl.operation?, origin]

theorem rawNames (h : rd.HasColumns r cs) {decl : RecordDecl} (hd : decl ∈ rd.decls) :
    decl.fields.map (·.rawName) = cs.map (·.name) := by
  obtain ⟨operation, -, -, -, fields⟩ := exists_of_forall₂ h.decls decl hd
  exact map_eq_map_of_forall₂ (fields.imp fun _ _ shows => shows.rawName)

/-- The relation has its columns in the declaration for an operation, if it has one. -/
theorem columnFields (h : rd.HasColumns r cs) (operation : Operation) :
    ((rd.decls.filter (·.operation? == some operation)).flatMap fun decl =>
      decl.fields.map fun f => (rd.id, f.rawName)) =
      if r.kind.operations.contains operation then cs.map fun c => (r.id, c.name) else [] := by
  have same : ∀ decl ∈ rd.decls.filter (·.operation? == some operation),
      (decl.fields.map fun f => (rd.id, f.rawName)) = cs.map fun c => (r.id, c.name) := by
    intro decl hd
    have names := congrArg (List.map (Prod.mk r.id)) (h.rawNames (List.mem_filter.mp hd).1)
    rw [List.map_map, List.map_map] at names
    rw [h.id]
    exact names
  have nodup : (rd.decls.map (·.operation?)).Nodup := by
    rw [h.operations]
    exact r.kind.nodup_operations.map fun _ _ => Option.some.inj
  rw [List.flatMap_congr same, flatMap_const_of_nodup nodup, h.operations]
  congr 1
  simp

end RelationDecls.HasColumns

/-- A column is declared if its relation is among the relations that are. -/
theorem Index.declaredColumns_eq (s : Snapshot) (o : Options) (operation : Operation) :
    s.declaredColumns o operation = s.columns.filter fun c =>
      ((((ofSnapshot s).declaredRelations o).filter
        (·.kind.operations.contains operation)).map (·.id)).contains c.tableId := by
  refine List.filter_congr fun c _ => ?_
  rw [Bool.eq_iff_iff]
  simp only [List.any_eq_true, Snapshot.mem_keptRelations_iff, Bool.and_eq_true, beq_iff_eq,
    List.contains_iff_mem, List.mem_map, List.mem_filter, mem_declaredRelations_iff]
  refine exists_congr fun r => ?_
  tauto

namespace Dialect

variable (d : Dialect) (s : Snapshot) (o : Options)

theorem forall₂_hasColumns : ∀ sd ∈ (d.build (.ofSnapshot s) o).declarations.schemas,
    List.Forall₂ (fun r rd => rd.HasColumns r ((Index.ofSnapshot s).columns r.id))
      ((Index.ofSnapshot s).relations sd.rawName) sd.relations :=
  d.forall_mem_build _ o fun _ _ covers =>
    covers.forall₂_relations d _ (d.declareRelation_hasColumns _)

theorem forall₂_hasAttributes : ∀ sd ∈ (d.build (.ofSnapshot s) o).declarations.schemas,
    List.Forall₂ (fun t c => c.HasAttributes t) ((Index.ofSnapshot s).composites sd.rawName)
      sd.composites :=
  d.forall_mem_build _ o fun _ _ covers =>
    covers.forall₂_composites d _ (d.declareComposite_hasAttributes _)

theorem columnFields_build (operation : Operation) :
    (d.build (.ofSnapshot s) o).declarations.columnFields operation =
      (((Index.ofSnapshot s).declaredRelations o).filter
        (·.kind.operations.contains operation)).flatMap fun r =>
          ((Index.ofSnapshot s).columns r.id).map fun c => (r.id, c.name) := by
  rw [flatMap_filter, Index.declaredRelations, Index.emittedNames, ← d.rawName_schemas_build,
    List.flatMap_map, List.flatMap_assoc, Declarations.columnFields]
  refine List.flatMap_congr fun sd hsd => flatMap_eq_of_forall₂ ?_
  exact (d.forall₂_hasColumns s o sd hsd).imp fun r rd h => h.columnFields operation

theorem attributeFields_build :
    (d.build (.ofSnapshot s) o).declarations.attributeFields =
      (((Index.ofSnapshot s).emittedNames o).flatMap (Index.ofSnapshot s).composites).flatMap
        fun t => t.attributes.map fun attr => (t.schema, t.name, attr.name) := by
  rw [Index.emittedNames, ← d.rawName_schemas_build, List.flatMap_map, List.flatMap_assoc,
    Declarations.attributeFields]
  refine List.flatMap_congr fun sd hsd => flatMap_eq_of_forall₂ ?_
  have lies : ∀ t ∈ (Index.ofSnapshot s).composites sd.rawName, t.schema = sd.rawName :=
    fun t ht => (Index.mem_composites_iff.mp ht).2.2
  refine ((List.forall₂_and_left _ _).mpr ⟨lies, d.forall₂_hasAttributes s o sd hsd⟩).imp ?_
  rintro t c ⟨schema, h⟩
  have names := congrArg (List.map fun name => (t.schema, t.name, name))
    (map_eq_map_of_forall₂ (h.fields.imp fun _ _ shows => shows.rawName))
  rw [List.map_map, List.map_map] at names
  rw [← schema, h.rawName]
  exact names

/-- Every column of a declared relation is a field of its own for each operation, and there are no
other fields. -/
theorem columnFields_perm (operation : Operation) :
    ((d.build (.ofSnapshot s) o).declarations.columnFields operation).Perm
      ((s.declaredColumns o operation).map fun c => (c.tableId, c.name)) := by
  rw [columnFields_build, Index.declaredColumns_eq]
  let rs := ((Index.ofSnapshot s).declaredRelations o).filter
    (·.kind.operations.contains operation)
  have nodup : (rs.map (·.id)).Nodup :=
    (Index.nodup_ids_declaredRelations s o).sublist (List.filter_sublist.map _)
  have perm : (rs.flatMap fun r => ((Index.ofSnapshot s).columns r.id).map fun c =>
      (r.id, c.name)).Perm (rs.flatMap fun r => (s.columns.filter (·.tableId == r.id)).map fun c =>
        (c.tableId, c.name)) := by
    refine List.Perm.flatMap_left _ fun r hr => ?_
    have first := (Index.mem_declaredRelations_iff.mp (List.mem_filter.mp hr).1).1
    refine ((Index.columns_perm first.mem).map _).trans (.of_eq (List.map_congr_left ?_))
    intro c hc
    rw [eq_of_beq (List.mem_filter.mp hc).2]
  refine perm.trans ?_
  rw [← List.map_flatMap, ← List.flatMap_map (fun r : KindedRelation => r.id)
    (fun id => s.columns.filter (·.tableId == id))]
  exact (flatMap_filter_perm nodup _ _).map _

/-- Every attribute of a declared composite is a field of its own, and there are no other fields. -/
theorem attributeFields_perm :
    (d.build (.ofSnapshot s) o).declarations.attributeFields.Perm
      ((s.declaredComposites o).flatMap fun t =>
        t.attributes.map fun attr => (t.schema, t.name, attr.name)) := by
  rw [attributeFields_build]
  refine List.Perm.flatMap_right _ ?_
  have nodup : (((Index.ofSnapshot s).emittedNames o).flatMap
      (Index.ofSnapshot s).composites).Nodup :=
    (Index.nodup_declaredTypes s o).sublist
      (List.Sublist.flatMap_right _ fun _ _ => List.sublist_append_right _ _)
  refine (List.perm_ext_iff_of_nodup nodup ((Snapshot.nodup_keptTypes s).filter _)).mpr fun t => ?_
  simp only [List.mem_flatMap, Index.mem_composites_iff, Index.mem_emittedNames_iff,
    List.mem_filter, Snapshot.mem_keptTypes_iff, Bool.and_eq_true]
  constructor
  · rintro ⟨_, emitted, first, kind, rfl⟩
    exact ⟨first, kind, emitted⟩
  · rintro ⟨first, kind, emitted⟩
    exact ⟨_, emitted, first, kind, rfl⟩

/-- In every language, fields stand for the columns and attributes of the snapshot one by one, each
in the declarations of its own relation or composite. -/
theorem build_hasFields : (d.build (.ofSnapshot s) o).declarations.HasFields s o where
  names _ := d.mem_rawNames_build_iff
  schemas := by
    intro sd hsd
    refine ⟨⟨_, Index.relations_pairwise s sd.rawName, fun _ => Index.mem_relations_iff, ?_⟩,
      ⟨_, Index.composites_pairwise s sd.rawName, fun _ => Index.mem_composites_iff,
        d.forall₂_hasAttributes s o sd hsd⟩⟩
    have present : ∀ r ∈ (Index.ofSnapshot s).relations sd.rawName, r ∈ s.relations :=
      fun r hr => (Index.mem_relations_iff.mp hr).1.mem
    refine ((List.forall₂_and_left _ _).mpr ⟨present, d.forall₂_hasColumns s o sd hsd⟩).imp ?_
    rintro r rd ⟨hr, h⟩
    exact ⟨_, Index.listsColumns hr, h⟩
  columns := d.columnFields_perm s o
  attributes := d.attributeFields_perm s o

end Dialect

end CatalogTypes
