import CatalogTypes.Proofs.Fields
import CatalogTypes.Proofs.Findings
import Mathlib.Data.List.Infix

/-!
# An index answers like a scan

An index is filled from hash maps and sets in one walk through the snapshot. `Index.Scans` says what
its answers are without any of them: each list of the snapshot is gone through anew, and an element
is compared with all those before it.
-/

namespace CatalogTypes

/-! ## Scans of a list -/

section Lists

variable {α κ : Type} [BEq κ]

/-- Each element of a list, with all those before it. -/
def withEarlier (xs : List α) : List (List α × α) := xs.inits.zip xs

theorem withEarlier_cons (x : α) (xs : List α) :
    withEarlier (x :: xs) =
      ([], x) :: (withEarlier xs).map fun (earlier, y) => (x :: earlier, y) := by
  rw [withEarlier, List.inits_cons, List.zip_cons_cons, List.zip_map_left]
  rfl

/-- The elements whose key none of those before them has. -/
def scanFirsts (key : α → κ) (xs : List α) : List α :=
  (withEarlier xs).filterMap fun (earlier, x) =>
    if earlier.any (key · == key x) then none else some x

/-- `ys` has the elements of `xs` in ascending order. -/
structure Arranges (before : α → α → Prop) (xs ys : List α) : Prop where
  perm : ys.Perm xs
  ascending : ys.Pairwise before

variable [Hashable κ] [LawfulBEq κ]

/-- A set of keys that grows on the way knows what a comparison with all earlier elements knows. -/
theorem markRepeats_eq (key : α → κ) (seen : Std.HashSet κ) (xs : List α) :
    markRepeats key seen xs = (withEarlier xs).map fun (earlier, x) =>
      (x, seen.contains (key x) || earlier.any (key · == key x)) := by
  induction xs generalizing seen with
  | nil => rfl
  | cons x xs ih =>
    rw [markRepeats, ih, withEarlier_cons, List.map_cons, List.map_map]
    refine congrArg₂ List.cons ?_ (List.map_congr_left ?_)
    · simp only [List.any_nil, Bool.or_false]
    · rintro ⟨earlier, y⟩ -
      simp only [Function.comp_apply, Std.HashSet.contains_insert, List.any_cons]
      rw [← Bool.or_assoc, Bool.or_comm (seen.contains _)]

theorem filterMap_markRepeats {β : Type} (key : α → κ) (f : α × Bool → Option β) (xs : List α) :
    (markRepeats key ∅ xs).filterMap f = (withEarlier xs).filterMap fun (earlier, x) =>
      f (x, earlier.any (key · == key x)) := by
  rw [markRepeats_eq, List.filterMap_map]
  simp only [Std.HashSet.contains_empty, Bool.false_or]
  rfl

theorem firsts_eq_scanFirsts (key : α → κ) (xs : List α) : firsts key xs = scanFirsts key xs :=
  filterMap_markRepeats key _ xs

end Lists

/-- The element found for a key is the first that has it. -/
theorem find?_eq_some_iff_isFirst {α κ : Type} [BEq κ] [LawfulBEq κ] {key : α → κ} {xs : List α}
    {k : κ} {x : α} :
    xs.find? (key · == k) = some x ↔ IsFirst key xs x ∧ key x = k := by
  rw [List.find?_eq_some_iff_append, beq_iff_eq, and_comm, IsFirst]
  refine and_congr_left fun same => exists_congr fun before => ?_
  simp only [same, Bool.not_eq_true', beq_eq_false_iff_ne, exists_and_right]

/-- It is found in any list that keeps just the first elements. -/
theorem find?_eq_of_mem_iff {α κ : Type} [BEq κ] [LawfulBEq κ] {key : α → κ} {xs ys : List α}
    (keeps : ∀ x, x ∈ ys ↔ IsFirst key xs x) (k : κ) :
    ys.find? (key · == k) = xs.find? (key · == k) := by
  have sound : ∀ {x}, ys.find? (key · == k) = some x → IsFirst key xs x ∧ key x = k := by
    intro x found
    have same := List.find?_some found
    exact ⟨(keeps x).mp (List.mem_of_find?_eq_some found), eq_of_beq same⟩
  refine Option.ext fun x => Iff.trans ⟨sound, ?_⟩ find?_eq_some_iff_isFirst.symm
  rintro ⟨first, rfl⟩
  obtain ⟨y, found⟩ : ∃ y, ys.find? (key · == key x) = some y :=
    Option.isSome_iff_exists.mp (List.find?_isSome.mpr ⟨x, (keeps x).mpr first, BEq.rfl⟩)
  rw [found, (sound found).1.eq first (sound found).2]

/-! ## Answers of an index -/

theorem Snapshot.relations_eq_append (s : Snapshot) :
    s.relations = s.tables.map (KindedRelation.mk · .table) ++
      s.views.map (KindedRelation.mk · .view) ++
      s.materializedViews.map (KindedRelation.mk · .materializedView) ++
      s.foreignTables.map (KindedRelation.mk · .foreignTable) := by
  simp [relations, RelationKind.all, relationsOf]

/-- Every answer of an index, in terms of the lists of the snapshot alone. -/
structure Index.Scans (ix : Index) (s : Snapshot) : Prop where
  schemaNames : ix.schemaNames.Pairwise (· < ·) ∧
    ∀ name, name ∈ ix.schemaNames ↔ ∃ x ∈ s.schemas, x.name = name
  schema? : ∀ name, ix.schema? name = s.schemas.find? (·.name == name)
  type? : ∀ id, ix.type? id = s.types.find? (·.id == id)
  relations : ∀ schema, Arranges KindedRelation.Before
    ((scanFirsts (·.id) (s.tables.map (KindedRelation.mk · .table) ++
      s.views.map (KindedRelation.mk · .view) ++
      s.materializedViews.map (KindedRelation.mk · .materializedView) ++
      s.foreignTables.map (KindedRelation.mk · .foreignTable))).filter (·.schema == schema))
    (ix.relations schema)
  enums : ∀ schema, Arranges TypeDef.Before
    ((scanFirsts (·.id) s.types).filter fun t => t.schema == schema && !t.enums.isEmpty)
    (ix.enums schema)
  composites : ∀ schema, Arranges TypeDef.Before
    ((scanFirsts (·.id) s.types).filter fun t =>
      t.schema == schema && (t.enums.isEmpty && !t.attributes.isEmpty))
    (ix.composites schema)
  columns : ∀ id, (∃ r ∈ s.relations, r.id = id) → s.ListsColumns id (ix.columns id)
  orphans : ∀ id, (∀ r ∈ s.relations, r.id ≠ id) → ix.columns id = []
  /-- Types, relations and columns are warned of in their own order, and undeclared schemas in
  ascending order behind them. -/
  warnings : ∃ undeclared : List String, undeclared.Pairwise (· < ·) ∧
    (∀ schema, schema ∈ undeclared ↔ s.Uses schema ∧ ∀ x ∈ s.schemas, x.name ≠ schema) ∧
    ix.warnings =
      ((withEarlier s.types).filterMap fun (earlier, t) =>
        if earlier.any (·.id == t.id) then some (.duplicateType t.id t.name)
        else if !t.enums.isEmpty && !t.attributes.isEmpty then some (.ambiguousType t.id t.name)
        else none) ++
      ((withEarlier s.relations).filterMap fun (earlier, r) =>
        if earlier.any (·.id == r.id) then some (.duplicateRelation r.id r.name) else none) ++
      (s.columns.filterMap fun c =>
        if s.relations.any (·.id == c.tableId) then none
        else some (.orphanColumn c.tableId c.name)) ++
      undeclared.map .undeclaredSchema

namespace Index

variable (s : Snapshot)

theorem schema?_eq_find? (name : String) :
    (ofSnapshot s).schema? name = s.schemas.find? (·.name == name) :=
  find?_eq_of_mem_iff (fun _ => mem_sortBy.trans mem_firsts_iff) name

theorem type?_eq_find? (id : ObjectId) :
    (ofSnapshot s).type? id = s.types.find? (·.id == id) := by
  refine Option.ext fun t => ?_
  rw [type?_eq_some_iff, Snapshot.mem_keptTypes_iff, find?_eq_some_iff_isFirst]

theorem relations_perm (schema : String) :
    ((ofSnapshot s).relations schema).Perm
      ((scanFirsts (·.id) s.relations).filter (·.schema == schema)) := by
  rw [relations, ofSnapshot, Grouping.get_ofList, Snapshot.keptRelations, firsts_eq_scanFirsts]
  exact sortBy_perm ..

theorem sortTypes_perm (schema : String) (p : TypeDef → Bool) :
    (sortBy compareTypes (((ofSnapshot s).typesBySchema.get schema).filter p)).Perm
      ((scanFirsts (·.id) s.types).filter fun t => t.schema == schema && p t) := by
  rw [ofSnapshot, Grouping.get_ofList, Snapshot.keptTypes, firsts_eq_scanFirsts, List.filter_filter]
  simp only [Bool.and_comm (p _)]
  exact sortBy_perm ..

theorem columns_eq_nil {id : ObjectId} (h : ∀ r ∈ s.relations, r.id ≠ id) :
    (ofSnapshot s).columns id = [] := by
  have unknown : s.tableIds.contains id = false := Snapshot.tableIds_contains_eq_false_iff.mpr h
  have none : (ofSnapshot s).columnsByTable.get id = [] := by
    rw [ofSnapshot, Grouping.get_ofList, Snapshot.keptColumns, List.filter_filter,
      List.filter_eq_nil_iff]
    intro c _ hc
    obtain ⟨same, known⟩ := Bool.and_eq_true_iff.mp hc
    rw [eq_of_beq same, unknown] at known
    exact Bool.false_ne_true known
  rw [columns, none]
  exact (sortBy_perm compareColumns []).eq_nil

end Index

namespace Snapshot

variable (s : Snapshot)

theorem typeFlaws_eq : s.typeFlaws = (withEarlier s.types).filterMap fun (earlier, t) =>
    t.flaw? (earlier.any (·.id == t.id)) :=
  filterMap_markRepeats _ _ _

theorem relationFlaws_eq :
    s.relationFlaws = (withEarlier s.relations).filterMap fun (earlier, r) =>
      if earlier.any (·.id == r.id) then some (.duplicateRelation r.id r.name) else none :=
  filterMap_markRepeats _ _ _

theorem columnFlaws_eq :
    s.columnFlaws = s.columns.filterMap fun c =>
      if s.relations.any (·.id == c.tableId) then none
      else some (.orphanColumn c.tableId c.name) := by
  rw [columnFlaws, ← List.filterMap_eq_map, List.filterMap_filter]
  refine List.filterMap_congr fun c _ => ?_
  rw [tableIds_contains]
  cases s.relations.any (·.id == c.tableId)
  · rfl
  · rfl

theorem undeclaredSchemas_pairwise : s.undeclaredSchemas.Pairwise (· < ·) := by
  refine (sortBy_pairwise_lt (nodup_firsts _ _) fun x _ y _ h => ?_).imp
    fun h => compare_string_eq_lt_iff.mp h
  exact Std.compare_eq_iff_eq.mp h

end Snapshot

theorem Index.ofSnapshot_scans (s : Snapshot) : (ofSnapshot s).Scans s where
  schemaNames := ⟨schemaNames_pairwise s, fun _ => mem_schemaNames_iff⟩
  schema? := schema?_eq_find? s
  type? := type?_eq_find? s
  relations schema := ⟨s.relations_eq_append ▸ relations_perm s schema, relations_pairwise s schema⟩
  enums schema := ⟨sortTypes_perm s schema _, enums_pairwise s schema⟩
  composites schema := ⟨sortTypes_perm s schema _, composites_pairwise s schema⟩
  columns := by
    rintro id ⟨r, hr, rfl⟩
    exact listsColumns hr
  orphans _ := columns_eq_nil s
  warnings := by
    refine ⟨s.undeclaredSchemas, s.undeclaredSchemas_pairwise,
      fun _ => Snapshot.mem_undeclaredSchemas_iff, ?_⟩
    rw [← s.columnFlaws_eq, ← s.relationFlaws_eq]
    exact congrArg (· ++ s.relationFlaws ++ s.columnFlaws ++ _) s.typeFlaws_eq

end CatalogTypes
