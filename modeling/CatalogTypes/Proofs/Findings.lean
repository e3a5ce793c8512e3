import CatalogTypes.Generate
import CatalogTypes.Proofs.Kept

/-!
# Which warnings a snapshot itself gives rise to

`Snapshot.Flaw` says what may be wrong with a snapshot, one rule for each kind of warning, and
`mem_flaws_iff` that a walk through the snapshot finds exactly that. Collecting warnings drops
repeats and nothing else.
-/

namespace CatalogTypes

/-! ## Collected warnings -/

/-- An element is its own key, so nothing is lost with its repeats. -/
theorem isFirst_id_iff {α : Type} {xs : List α} {x : α} : IsFirst id xs x ↔ x ∈ xs := by
  constructor
  · exact IsFirst.mem
  · intro h
    obtain ⟨_, first, rfl⟩ : ∃ y, IsFirst id xs y ∧ id y = id x := exists_isFirst h
    exact first

namespace Findings

variable (f : Findings) (ws : List Warning)

/-- Warnings are collected once, in the order of their first occurrence. -/
theorem toList_recordAll : (f.recordAll ws).toList = f.toList ++ firstsAfter id f.seen ws := by
  induction ws generalizing f with
  | nil => simp [recordAll, firstsAfter, markRepeats]
  | cons w ws ih =>
    have step : f.recordAll (w :: ws) = (f.record w).recordAll ws := rfl
    rw [step, ih, toList_record, firstsAfter_cons, id]
    by_cases h : f.seen.contains w
    · have same : firstsAfter id (f.seen.insert w) ws = firstsAfter id f.seen ws := by
        refine firstsAfter_congr id (fun k => ?_) ws
        rw [Std.HashSet.contains_insert]
        cases hk : w == k with
        | true => rw [← eq_of_beq hk, h, Bool.or_true]
        | false => rfl
      rw [if_pos h, if_pos h, record, if_pos h, same]
    · rw [if_neg h, if_neg h, record, if_neg h, List.append_assoc]
      rfl

theorem toList_ofList : (ofList ws).toList = firsts id ws := by
  rw [ofList, toList_recordAll, toList_empty, List.nil_append]
  rfl

theorem mem_toList_ofList {w : Warning} : w ∈ (ofList ws).toList ↔ w ∈ ws := by
  rw [toList_ofList, mem_firsts_iff, isFirst_id_iff]

theorem nodup_toList_ofList : (ofList ws).toList.Nodup := by
  rw [toList_ofList]
  exact nodup_firsts id ws

end Findings

/-! ## Repeats -/

section Repeats

variable {α κ : Type}

/-- `x` stands in `xs` behind an element with its key. -/
def IsRepeat (key : α → κ) (xs : List α) (x : α) : Prop :=
  ∃ before after, xs = before ++ x :: after ∧ ∃ y ∈ before, key y = key x

theorem not_isRepeat_nil (key : α → κ) (x : α) : ¬ IsRepeat key [] x := by
  rintro ⟨before, after, h, -⟩
  simp at h

theorem isRepeat_cons_iff {key : α → κ} {x y : α} {xs : List α} :
    IsRepeat key (y :: xs) x ↔ x ∈ xs ∧ key y = key x ∨ IsRepeat key xs x := by
  constructor
  · rintro ⟨before, after, h, z, hz, hzx⟩
    cases before with
    | nil => simp at hz
    | cons w before =>
      obtain ⟨rfl, rfl⟩ := List.cons.inj h
      rcases List.mem_cons.mp hz with rfl | hz
      · exact .inl ⟨by simp, hzx⟩
      · exact .inr ⟨before, after, rfl, z, hz, hzx⟩
  · rintro (⟨hx, hyx⟩ | ⟨before, after, rfl, z, hz, hzx⟩)
    · obtain ⟨before, after, rfl⟩ := List.append_of_mem hx
      exact ⟨y :: before, after, rfl, y, by simp, hyx⟩
    · exact ⟨y :: before, after, rfl, z, List.mem_cons_of_mem _ hz, hzx⟩

variable [BEq κ] [Hashable κ] [LawfulBEq κ]

theorem mem_markRepeats_true_iff {key : α → κ} {seen : Std.HashSet κ} {xs : List α} {x : α} :
    (x, true) ∈ markRepeats key seen xs ↔ x ∈ xs ∧ key x ∈ seen ∨ IsRepeat key xs x := by
  induction xs generalizing seen with
  | nil => simp [markRepeats, not_isRepeat_nil]
  | cons y xs ih =>
    rw [markRepeats, List.mem_cons, ih, isRepeat_cons_iff, Std.HashSet.mem_insert, List.mem_cons,
      Prod.mk.injEq, beq_iff_eq, eq_comm (a := true), Std.HashSet.contains_iff_mem]
    constructor
    · rintro (⟨rfl, hx⟩ | ⟨hx, hyx | seen⟩ | again)
      · exact .inl ⟨.inl rfl, hx⟩
      · exact .inr (.inl ⟨hx, hyx⟩)
      · exact .inl ⟨.inr hx, seen⟩
      · exact .inr (.inr again)
    · rintro (⟨rfl | hx, seen⟩ | ⟨hx, hyx⟩ | again)
      · exact .inl ⟨rfl, seen⟩
      · exact .inr (.inl ⟨hx, .inr seen⟩)
      · exact .inr (.inl ⟨hx, .inl hyx⟩)
      · exact .inr (.inr again)

theorem mem_markRepeats_false_iff {key : α → κ} {xs : List α} {x : α} :
    (x, false) ∈ markRepeats key ∅ xs ↔ IsFirst key xs x := by
  rw [← mem_firsts_iff]
  simp [firsts, firstsAfter]

end Repeats

/-! ## Flaws -/

namespace Snapshot

variable (s : Snapshot)

/-- Whether something that could be declared lies in the schema: a kept relation, enumeration or
composite. -/
def Uses (schema : String) : Prop :=
  (∃ t, IsFirst (·.id) s.types t ∧ t.isScalar = false ∧ t.schema = schema) ∨
    ∃ r, IsFirst (·.id) s.relations r ∧ r.schema = schema

/-- What is wrong with a snapshot, whatever is generated from it. -/
inductive Flaw : Warning → Prop
  | duplicateType {t : TypeDef} (h : IsRepeat (·.id) s.types t) : Flaw (.duplicateType t.id t.name)
  | ambiguousType {t : TypeDef} (h : IsFirst (·.id) s.types t) (both : t.isAmbiguous) :
      Flaw (.ambiguousType t.id t.name)
  | duplicateRelation {r : KindedRelation} (h : IsRepeat (·.id) s.relations r) :
      Flaw (.duplicateRelation r.id r.name)
  | orphanColumn {c : Column} (hc : c ∈ s.columns) (h : ∀ r ∈ s.relations, r.id ≠ c.tableId) :
      Flaw (.orphanColumn c.tableId c.name)
  | undeclaredSchema {schema : String} (used : s.Uses schema)
      (h : ∀ x ∈ s.schemas, x.name ≠ schema) : Flaw (.undeclaredSchema schema)

variable {s}

theorem mem_typeFlaws_iff {w : Warning} :
    w ∈ s.typeFlaws ↔ (∃ t, IsRepeat (·.id) s.types t ∧ w = .duplicateType t.id t.name) ∨
      ∃ t, IsFirst (·.id) s.types t ∧ t.isAmbiguous ∧ w = .ambiguousType t.id t.name := by
  rw [typeFlaws, List.mem_filterMap]
  constructor
  · rintro ⟨⟨t, repeated⟩, ht, h⟩
    cases repeated with
    | true =>
      rcases mem_markRepeats_true_iff.mp ht with ⟨-, h'⟩ | again
      · simp at h'
      · exact .inl ⟨t, again, (Option.some.inj h).symm⟩
    | false =>
      obtain ⟨both, rfl⟩ : t.isAmbiguous ∧ .ambiguousType t.id t.name = w := by
        simpa [TypeDef.flaw?] using h
      exact .inr ⟨t, mem_markRepeats_false_iff.mp ht, both, rfl⟩
  · rintro (⟨t, again, rfl⟩ | ⟨t, first, both, rfl⟩)
    · exact ⟨(t, true), mem_markRepeats_true_iff.mpr (.inr again), rfl⟩
    · exact ⟨(t, false), mem_markRepeats_false_iff.mpr first, by simp [TypeDef.flaw?, both]⟩

theorem mem_relationFlaws_iff {w : Warning} :
    w ∈ s.relationFlaws ↔
      ∃ r, IsRepeat (·.id) s.relations r ∧ w = .duplicateRelation r.id r.name := by
  rw [relationFlaws, List.mem_filterMap]
  constructor
  · rintro ⟨⟨r, repeated⟩, hr, h⟩
    cases repeated with
    | true =>
      rcases mem_markRepeats_true_iff.mp hr with ⟨-, h'⟩ | again
      · simp at h'
      · exact ⟨r, again, (Option.some.inj h).symm⟩
    | false => simp at h
  · rintro ⟨r, again, rfl⟩
    exact ⟨(r, true), mem_markRepeats_true_iff.mpr (.inr again), rfl⟩

theorem tableIds_contains_eq_false_iff {id : ObjectId} :
    s.tableIds.contains id = false ↔ ∀ r ∈ s.relations, r.id ≠ id := by
  simp [tableIds_contains]

theorem mem_columnFlaws_iff {w : Warning} :
    w ∈ s.columnFlaws ↔ ∃ c ∈ s.columns, (∀ r ∈ s.relations, r.id ≠ c.tableId) ∧
      w = .orphanColumn c.tableId c.name := by
  simp only [columnFlaws, List.mem_map, List.mem_filter, Bool.not_eq_true',
    tableIds_contains_eq_false_iff]
  constructor
  · rintro ⟨c, ⟨hc, h⟩, rfl⟩
    exact ⟨c, hc, h, rfl⟩
  · rintro ⟨c, hc, h, rfl⟩
    exact ⟨c, ⟨hc, h⟩, rfl⟩

theorem mem_usedSchemas_iff {schema : String} : schema ∈ s.usedSchemas ↔ s.Uses schema := by
  simp [usedSchemas, Uses, and_assoc]

theorem mem_undeclaredSchemas_iff {schema : String} :
    schema ∈ s.undeclaredSchemas ↔ s.Uses schema ∧ ∀ x ∈ s.schemas, x.name ≠ schema := by
  rw [undeclaredSchemas, mem_sortBy, mem_firsts_iff, isFirst_id_iff, List.mem_filter,
    mem_usedSchemas_iff, Std.HashSet.contains_ofList]
  simp

/-- The walk through a snapshot finds all of its flaws and nothing else. -/
theorem mem_flaws_iff {w : Warning} : w ∈ s.flaws ↔ s.Flaw w := by
  simp only [flaws, List.mem_append, mem_typeFlaws_iff, mem_relationFlaws_iff, mem_columnFlaws_iff,
    List.mem_map, mem_undeclaredSchemas_iff]
  constructor
  · rintro ((((⟨t, again, rfl⟩ | ⟨t, first, both, rfl⟩) | ⟨r, again, rfl⟩) | ⟨c, hc, h, rfl⟩) |
      ⟨schema, ⟨used, h⟩, rfl⟩)
    · exact .duplicateType again
    · exact .ambiguousType first both
    · exact .duplicateRelation again
    · exact .orphanColumn hc h
    · exact .undeclaredSchema used h
  · rintro (again | ⟨first, both⟩ | again | ⟨hc, h⟩ | ⟨used, h⟩)
    · exact .inl (.inl (.inl (.inl ⟨_, again, rfl⟩)))
    · exact .inl (.inl (.inl (.inr ⟨_, first, both, rfl⟩)))
    · exact .inl (.inl (.inr ⟨_, again, rfl⟩))
    · exact .inl (.inr ⟨_, hc, h, rfl⟩)
    · exact .inr ⟨_, ⟨used, h⟩, rfl⟩

end Snapshot

/-- A generation reports the flaws of the snapshot and what its fields gave rise to. -/
theorem mem_warnings_generate_iff {s : Snapshot} {o : Options} {w : Warning} :
    w ∈ (generate s o).warnings ↔ s.Flaw w ∨ w ∈ (declare s o).warnings := by
  rw [generate, Findings.mem_toList_ofList, List.mem_append, Snapshot.mem_flaws_iff]

theorem nodup_warnings_generate (s : Snapshot) (o : Options) : (generate s o).warnings.Nodup :=
  Findings.nodup_toList_ofList _

end CatalogTypes
