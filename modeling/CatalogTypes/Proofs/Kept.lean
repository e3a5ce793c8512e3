import CatalogTypes.Catalog.Index
import Mathlib.Data.List.Nodup

/-!
# What an index keeps of a snapshot, and in which order

An index answers from hash maps and sorted lists. The lemmas here say what the answers are in terms
of the lists of the snapshot alone: an entity is kept if it is the first of its list with its id,
and the entities of a schema come in strictly ascending order, so each of them comes once.
-/

namespace CatalogTypes

/-! ## First elements -/

section Firsts

variable {α κ : Type}

/-- `x` stands in `xs`, and no element before it has its key. -/
def IsFirst (key : α → κ) (xs : List α) (x : α) : Prop :=
  ∃ before after, xs = before ++ x :: after ∧ ∀ y ∈ before, key y ≠ key x

theorem IsFirst.mem {key : α → κ} {xs : List α} {x : α} (h : IsFirst key xs x) : x ∈ xs := by
  obtain ⟨before, after, rfl, -⟩ := h
  simp

theorem not_isFirst_nil (key : α → κ) (x : α) : ¬ IsFirst key [] x := by
  rintro ⟨before, after, h, -⟩
  simp at h

theorem isFirst_cons_iff {key : α → κ} {x y : α} {xs : List α} :
    IsFirst key (y :: xs) x ↔ x = y ∨ key y ≠ key x ∧ IsFirst key xs x := by
  constructor
  · rintro ⟨before, after, h, first⟩
    cases before with
    | nil => exact .inl (List.cons.inj h).1.symm
    | cons z before =>
      obtain ⟨rfl, rfl⟩ := List.cons.inj h
      refine .inr ⟨first _ (by simp), before, after, rfl, fun w hw => ?_⟩
      exact first w (List.mem_cons_of_mem _ hw)
  · rintro (rfl | ⟨hne, before, after, rfl, first⟩)
    · exact ⟨[], xs, rfl, by simp⟩
    · refine ⟨y :: before, after, rfl, fun w hw => ?_⟩
      rcases List.mem_cons.mp hw with rfl | hw
      · exact hne
      · exact first w hw

/-- Two first elements with one key are the same. -/
theorem IsFirst.eq {key : α → κ} {xs : List α} {x y : α} (hx : IsFirst key xs x)
    (hy : IsFirst key xs y) (h : key x = key y) : x = y := by
  induction xs with
  | nil => exact absurd hx (not_isFirst_nil key x)
  | cons z xs ih =>
    rcases isFirst_cons_iff.mp hx with rfl | ⟨hxz, hx⟩
    · rcases isFirst_cons_iff.mp hy with rfl | ⟨hyz, -⟩
      · rfl
      · exact absurd h hyz
    · rcases isFirst_cons_iff.mp hy with rfl | ⟨-, hy⟩
      · exact absurd h.symm hxz
      · exact ih hx hy

/-- Every key in a list has a first element. -/
theorem exists_isFirst {key : α → κ} {xs : List α} {x : α} (h : x ∈ xs) :
    ∃ y, IsFirst key xs y ∧ key y = key x := by
  induction xs with
  | nil => simp at h
  | cons z xs ih =>
    by_cases hz : key z = key x
    · exact ⟨z, isFirst_cons_iff.mpr (.inl rfl), hz⟩
    · have hx : x ∈ xs := by
        rcases List.mem_cons.mp h with rfl | hx
        · exact absurd rfl hz
        · exact hx
      obtain ⟨y, hy, hyx⟩ := ih hx
      exact ⟨y, isFirst_cons_iff.mpr (.inr ⟨by rwa [hyx], hy⟩), hyx⟩

variable [BEq κ] [Hashable κ] [LawfulBEq κ]

theorem mem_firstsAfter_iff {key : α → κ} {seen : Std.HashSet κ} {xs : List α} {x : α} :
    x ∈ firstsAfter key seen xs ↔ key x ∉ seen ∧ IsFirst key xs x := by
  induction xs generalizing seen with
  | nil => simp [firstsAfter, markRepeats, not_isFirst_nil]
  | cons y xs ih =>
    have rest : x ∈ firstsAfter key (seen.insert (key y)) xs ↔
        (key y ≠ key x ∧ key x ∉ seen) ∧ IsFirst key xs x := by
      rw [ih, Std.HashSet.mem_insert]
      simp [not_or]
    rw [firstsAfter_cons, isFirst_cons_iff]
    by_cases hy : key y ∈ seen
    · rw [if_pos (by simpa using hy), rest]
      constructor
      · rintro ⟨⟨hne, hx⟩, first⟩
        exact ⟨hx, .inr ⟨hne, first⟩⟩
      · rintro ⟨hx, rfl | ⟨hne, first⟩⟩
        · exact absurd hy hx
        · exact ⟨⟨hne, hx⟩, first⟩
    · rw [if_neg (by simpa using hy), List.mem_cons, rest]
      constructor
      · rintro (rfl | ⟨⟨hne, hx⟩, first⟩)
        · exact ⟨hy, .inl rfl⟩
        · exact ⟨hx, .inr ⟨hne, first⟩⟩
      · rintro ⟨hx, rfl | ⟨hne, first⟩⟩
        · exact .inl rfl
        · exact .inr ⟨⟨hne, hx⟩, first⟩

@[simp] theorem mem_firsts_iff {key : α → κ} {xs : List α} {x : α} :
    x ∈ firsts key xs ↔ IsFirst key xs x := by
  simp [firsts, mem_firstsAfter_iff]

theorem nodup_firstsAfter (key : α → κ) (seen : Std.HashSet κ) (xs : List α) :
    (firstsAfter key seen xs).Nodup := by
  induction xs generalizing seen with
  | nil => simp [firstsAfter, markRepeats]
  | cons x xs ih =>
    rw [firstsAfter_cons]
    split
    · exact ih _
    · refine List.nodup_cons.mpr ⟨fun hx => ?_, ih _⟩
      exact (mem_firstsAfter_iff.mp hx).1 (by simp)

theorem nodup_firsts (key : α → κ) (xs : List α) : (firsts key xs).Nodup :=
  nodup_firstsAfter key ∅ xs

end Firsts

/-! ## Maps from lists -/

/-- A map from a list without repeated keys has just the entries of the list. -/
theorem getElem?_ofList_eq_some_iff {κ β : Type} [BEq κ] [Hashable κ] [LawfulBEq κ]
    {entries : List (κ × β)} {k : κ} {v : β} (nodup : (entries.map Prod.fst).Nodup) :
    (Std.HashMap.ofList entries)[k]? = some v ↔ (k, v) ∈ entries := by
  have distinct : entries.Pairwise fun a b => (a.1 == b.1) = false :=
    (List.pairwise_map.mp nodup).imp fun h => by simpa using h
  have found : ∀ v, (k, v) ∈ entries → (Std.HashMap.ofList entries)[k]? = some v := fun v h =>
    Std.HashMap.getElem?_ofList_of_mem BEq.rfl distinct h
  refine ⟨fun h => ?_, found v⟩
  by_cases hk : k ∈ entries.map Prod.fst
  · obtain ⟨⟨_, v'⟩, hv', rfl⟩ := List.mem_map.mp hk
    obtain rfl : v' = v := Option.some.inj ((found v' hv').symm.trans h)
    exact hv'
  · rw [Std.HashMap.getElem?_ofList_of_contains_eq_false (by simpa using hk)] at h
    exact absurd h (by simp)

/-! ## Sorted lists -/

theorem mem_sortBy {α : Type} {cmp : α → α → Ordering} {xs : List α} {x : α} :
    x ∈ sortBy cmp xs ↔ x ∈ xs :=
  (sortBy_perm cmp xs).mem_iff

/-- Without repeats, and when only equal elements compare equal, sorting leaves no ties. -/
theorem sortBy_pairwise_lt {α : Type} {cmp : α → α → Ordering} [Std.TransCmp cmp] {xs : List α}
    (nodup : xs.Nodup) (distinct : ∀ x ∈ xs, ∀ y ∈ xs, cmp x y = .eq → x = y) :
    (sortBy cmp xs).Pairwise fun x y => cmp x y = .lt := by
  have ne : (sortBy cmp xs).Pairwise (· ≠ ·) := (sortBy_perm cmp xs).nodup_iff.mpr nodup
  refine ((sortBy_pairwise cmp xs).and ne).imp_of_mem fun {x y} hx hy ⟨le, hne⟩ => ?_
  rcases h : cmp x y with _ | _ | _
  · rfl
  · exact absurd (distinct x (mem_sortBy.mp hx) y (mem_sortBy.mp hy) h) hne
  · rw [h] at le
    exact absurd le (by decide)

theorem compare_string_eq_lt_iff {a b : String} : compare a b = .lt ↔ a < b :=
  compareOfLessAndEq_eq_lt

theorem compare_id_eq_lt_iff {a b : ObjectId} : compare a b = .lt ↔ a < b :=
  compareOfLessAndEq_eq_lt

/-- Whether one type stands before another in its schema: by name, then by id. -/
def TypeDef.Before (t t' : TypeDef) : Prop := t.name < t'.name ∨ t.name = t'.name ∧ t.id < t'.id

/-- Whether one relation stands before another in its schema: by name, then by kind, then by id. -/
def KindedRelation.Before (r r' : KindedRelation) : Prop :=
  r.name < r'.name ∨
    r.name = r'.name ∧ (r.kind.rank < r'.kind.rank ∨ r.kind = r'.kind ∧ r.id < r'.id)

theorem compareTypes_eq_lt_iff {t t' : TypeDef} : compareTypes t t' = .lt ↔ t.Before t' := by
  simp [compareTypes, compareLex, compareOn, TypeDef.Before, Ordering.then_eq_lt,
    compare_string_eq_lt_iff, compare_id_eq_lt_iff]

theorem compareRelations_eq_lt_iff {r r' : KindedRelation} :
    compareRelations r r' = .lt ↔ r.Before r' := by
  have rank : r.kind.rank = r'.kind.rank ↔ r.kind = r'.kind :=
    ⟨RelationKind.rank_injective, fun h => by rw [h]⟩
  simp [compareRelations, compareLex, compareOn, KindedRelation.Before, Ordering.then_eq_lt,
    compare_string_eq_lt_iff, compare_id_eq_lt_iff, Nat.compare_eq_lt, rank]

theorem KindedRelation.Before.ne {r r' : KindedRelation} (h : r.Before r') : r ≠ r' := by
  rintro rfl
  rcases h with h | ⟨-, h | ⟨-, h⟩⟩
  · exact String.lt_irrefl _ h
  · exact Nat.lt_irrefl _ h
  · exact UInt32.lt_irrefl _ h

/-! ## Kept entities -/

namespace Snapshot

variable {s : Snapshot}

@[simp] theorem mem_keptTypes_iff {t : TypeDef} :
    t ∈ s.keptTypes ↔ IsFirst (·.id) s.types t := mem_firsts_iff

@[simp] theorem mem_keptRelations_iff {r : KindedRelation} :
    r ∈ s.keptRelations ↔ IsFirst (·.id) s.relations r := mem_firsts_iff

theorem tableIds_contains (s : Snapshot) (id : ObjectId) :
    s.tableIds.contains id = s.relations.any (·.id == id) := by
  rw [Bool.eq_iff_iff, tableIds, Std.HashSet.contains_ofList]
  simp

theorem nodup_keptTypes (s : Snapshot) : s.keptTypes.Nodup := nodup_firsts _ _

theorem nodup_keptRelations (s : Snapshot) : s.keptRelations.Nodup := nodup_firsts _ _

/-- Two kept types with one id are the same. -/
theorem eq_of_mem_keptTypes {t t' : TypeDef} (h : t ∈ s.keptTypes) (h' : t' ∈ s.keptTypes)
    (id : t.id = t'.id) : t = t' :=
  (mem_firsts_iff.mp h).eq (mem_firsts_iff.mp h') id

theorem eq_of_mem_keptRelations {r r' : KindedRelation} (h : r ∈ s.keptRelations)
    (h' : r' ∈ s.keptRelations) (id : r.id = r'.id) : r = r' :=
  (mem_firsts_iff.mp h).eq (mem_firsts_iff.mp h') id

end Snapshot

namespace Index

variable {s : Snapshot}

theorem mem_schemaNames_iff {name : String} :
    name ∈ (ofSnapshot s).schemaNames ↔ ∃ x ∈ s.schemas, x.name = name := by
  simp only [schemaNames, ofSnapshot, List.mem_map, mem_sortBy, Snapshot.keptSchemas,
    mem_firsts_iff]
  constructor
  · rintro ⟨x, hx, rfl⟩
    exact ⟨x, hx.mem, rfl⟩
  · rintro ⟨x, hx, rfl⟩
    exact exists_isFirst hx

theorem schemaNames_pairwise (s : Snapshot) :
    (ofSnapshot s).schemaNames.Pairwise (· < ·) := by
  have sorted : (sortBy (compareOn (·.name)) s.keptSchemas).Pairwise fun x y : Schema =>
      compareOn (·.name) x y = .lt := by
    refine sortBy_pairwise_lt (nodup_firsts _ _) fun x hx y hy h => ?_
    exact (mem_firsts_iff.mp hx).eq (mem_firsts_iff.mp hy) (by simpa [compareOn] using h)
  exact List.pairwise_map.mpr (sorted.imp fun h => compare_string_eq_lt_iff.mp h)

theorem mem_typesBySchema_iff {schema : String} {t : TypeDef} :
    t ∈ (ofSnapshot s).typesBySchema.get schema ↔ t ∈ s.keptTypes ∧ t.schema = schema := by
  simp [ofSnapshot]

theorem nodup_typesBySchema (schema : String) :
    ((ofSnapshot s).typesBySchema.get schema).Nodup := by
  rw [ofSnapshot, Grouping.get_ofList]
  exact (Snapshot.nodup_keptTypes s).filter _

/-- The enumerations of a schema are the kept types with labels that lie in it. -/
theorem mem_enums_iff {schema : String} {t : TypeDef} :
    t ∈ (ofSnapshot s).enums schema ↔
      IsFirst (·.id) s.types t ∧ t.isEnumeration ∧ t.schema = schema := by
  rw [enums, mem_sortBy, List.mem_filter, mem_typesBySchema_iff,
    Snapshot.mem_keptTypes_iff]
  tauto

/-- The composites of a schema are the kept types with attributes and no labels that lie in it. -/
theorem mem_composites_iff {schema : String} {t : TypeDef} :
    t ∈ (ofSnapshot s).composites schema ↔
      IsFirst (·.id) s.types t ∧ t.isComposite ∧ t.schema = schema := by
  rw [composites, mem_sortBy, List.mem_filter, mem_typesBySchema_iff,
    Snapshot.mem_keptTypes_iff]
  tauto

theorem mem_relations_iff {schema : String} {r : KindedRelation} :
    r ∈ (ofSnapshot s).relations schema ↔
      IsFirst (·.id) s.relations r ∧ r.schema = schema := by
  simp [relations, mem_sortBy, ofSnapshot]

private theorem sortTypes_pairwise {schema : String} (p : TypeDef → Bool) :
    (sortBy compareTypes
      (((ofSnapshot s).typesBySchema.get schema).filter p)).Pairwise TypeDef.Before := by
  refine (sortBy_pairwise_lt ((nodup_typesBySchema schema).filter p)
    fun t ht t' ht' h => ?_).imp fun h => compareTypes_eq_lt_iff.mp h
  have kept : ∀ x ∈ ((ofSnapshot s).typesBySchema.get schema).filter p, x ∈ s.keptTypes :=
    fun x hx => (mem_typesBySchema_iff.mp (List.mem_filter.mp hx).1).1
  have hid : t.name = t'.name ∧ t.id = t'.id := by
    simpa [compareTypes, compareLex, compareOn, Ordering.then_eq_eq] using h
  exact Snapshot.eq_of_mem_keptTypes (kept t ht) (kept t' ht') hid.2

theorem enums_pairwise (s : Snapshot) (schema : String) :
    ((ofSnapshot s).enums schema).Pairwise TypeDef.Before :=
  sortTypes_pairwise _

theorem composites_pairwise (s : Snapshot) (schema : String) :
    ((ofSnapshot s).composites schema).Pairwise TypeDef.Before :=
  sortTypes_pairwise _

theorem relations_pairwise (s : Snapshot) (schema : String) :
    ((ofSnapshot s).relations schema).Pairwise KindedRelation.Before := by
  have kept : ∀ x ∈ (ofSnapshot s).relationsBySchema.get schema, x ∈ s.keptRelations := by
    intro x hx
    simp only [ofSnapshot, Grouping.get_ofList, List.mem_filter] at hx
    exact hx.1
  have nodup : ((ofSnapshot s).relationsBySchema.get schema).Nodup := by
    rw [ofSnapshot, Grouping.get_ofList]
    exact (Snapshot.nodup_keptRelations s).filter _
  refine (sortBy_pairwise_lt nodup fun r hr r' hr' h => ?_).imp
    fun h => compareRelations_eq_lt_iff.mp h
  have hid : r.name = r'.name ∧ r.kind.rank = r'.kind.rank ∧ r.id = r'.id := by
    simpa [compareRelations, compareLex, compareOn, Ordering.then_eq_eq] using h
  exact Snapshot.eq_of_mem_keptRelations (kept r hr) (kept r' hr') hid.2.2

/-- No column of a relation is dropped. -/
theorem columnsByTable_get {r : KindedRelation} (hr : r ∈ s.relations) :
    (ofSnapshot s).columnsByTable.get r.id = s.columns.filter (·.tableId == r.id) := by
  have known : s.tableIds.contains r.id := by
    rw [s.tableIds_contains]
    exact List.any_eq_true.mpr ⟨r, hr, BEq.rfl⟩
  rw [ofSnapshot, Grouping.get_ofList, Snapshot.keptColumns, List.filter_filter]
  refine List.filter_congr fun c _ => ?_
  cases h : c.tableId == r.id with
  | true => rw [eq_of_beq h, known, Bool.and_true]
  | false => rfl

/-- The columns of a relation are all columns of the snapshot that give its id. -/
theorem columns_perm {r : KindedRelation} (hr : r ∈ s.relations) :
    ((ofSnapshot s).columns r.id).Perm (s.columns.filter (·.tableId == r.id)) := by
  rw [columns, columnsByTable_get hr]
  exact sortBy_perm ..

theorem mem_columns_iff {r : KindedRelation} (hr : r ∈ s.relations) {c : Column} :
    c ∈ (ofSnapshot s).columns r.id ↔ c ∈ s.columns ∧ c.tableId = r.id := by
  rw [(columns_perm hr).mem_iff, List.mem_filter, beq_iff_eq]

theorem mem_keptTypes_of_typesByName {name : String} {t : TypeDef}
    (h : t ∈ (ofSnapshot s).typesByName.get name) : t ∈ s.keptTypes := by
  rw [ofSnapshot, Grouping.get_ofList] at h
  exact mem_sortBy.mp (List.mem_filter.mp h).1

/-- Every type that a name denotes is kept. -/
theorem mem_keptTypes_of_typeNamed? {name : String} {home : Option String} {t : TypeDef}
    (h : (ofSnapshot s).typeNamed? name home = some t) : t ∈ s.keptTypes := by
  rw [typeNamed?, Option.or_eq_some_iff] at h
  rcases h with h | ⟨-, h⟩
  · obtain ⟨_, -, found⟩ := Option.bind_eq_some_iff.mp h
    exact mem_keptTypes_of_typesByName (List.mem_of_find?_eq_some found)
  · rw [named?, Option.or_eq_some_iff] at h
    rcases h with h | ⟨-, h⟩
    · obtain ⟨_, -, found⟩ := Option.bind_eq_some_iff.mp h
      exact mem_keptTypes_of_typesByName (List.mem_of_find?_eq_some found)
    · exact mem_keptTypes_of_typesByName (List.mem_of_mem_head? h)

/-- The type found for an id is the kept type that has it. -/
theorem type?_eq_some_iff {id : ObjectId} {t : TypeDef} :
    (ofSnapshot s).type? id = some t ↔ t ∈ s.keptTypes ∧ t.id = id := by
  have nodup : ((s.keptTypes.map fun t => (t.id, t)).map Prod.fst).Nodup := by
    rw [List.map_map]
    exact (Snapshot.nodup_keptTypes s).map_on fun t ht t' ht' h =>
      Snapshot.eq_of_mem_keptTypes ht ht' h
  rw [type?, ofSnapshot, getElem?_ofList_eq_some_iff nodup]
  simp only [List.mem_map, Prod.mk.injEq]
  constructor
  · rintro ⟨t, ht, rfl, rfl⟩
    exact ⟨ht, rfl⟩
  · rintro ⟨ht, rfl⟩
    exact ⟨t, ht, rfl, rfl⟩

theorem nodup_schemaNames (s : Snapshot) : (ofSnapshot s).schemaNames.Nodup :=
  (schemaNames_pairwise s).imp fun h => String.ne_of_lt h

theorem nodup_enums (s : Snapshot) (schema : String) : ((ofSnapshot s).enums schema).Nodup :=
  (sortBy_perm _ _).nodup_iff.mpr ((nodup_typesBySchema schema).filter _)

theorem nodup_composites (s : Snapshot) (schema : String) :
    ((ofSnapshot s).composites schema).Nodup :=
  (sortBy_perm _ _).nodup_iff.mpr ((nodup_typesBySchema schema).filter _)

end Index

end CatalogTypes
