import CatalogTypes.Proofs.ValueTypes
import Mathlib.Data.List.Induction

/-!
# Composites are recursive exactly on cycles

A step of a walk takes a node off the pending ones, and the targets of a node become pending only
once. So a walk has no more steps than edges have targets, whichever node it visits next, and the
search for cycles ends with the same answer for any order (`Graph.DecidesCycles`). Composites are
searched under their references; of those that share a reference, the last one counts.
-/

namespace CatalogTypes

namespace Graph

variable {g : Graph} {goal : String} {n : Nat}

/-! ## The length of walks -/

/-- The targets of the edges of all nodes that are not in `seen`. -/
def targets (g : Graph) (seen : Std.HashSet String) : List String :=
  (g.unseen seen).flatMap g.next

theorem mem_unseen_iff {seen : Std.HashSet String} {node : String} :
    node ∈ g.unseen seen ↔ node ∈ g.successors.keys ∧ node ∉ seen := by
  rw [unseen, List.mem_filter, Bool.not_eq_true', ← Bool.not_eq_true,
    Std.HashSet.contains_iff_mem]

/-- The targets of a node are taken out when it is seen. -/
theorem targets_perm (g : Graph) {seen : Std.HashSet String} {node : String} (new : node ∉ seen) :
    (g.targets seen).Perm (g.next node ++ g.targets (seen.insert node)) := by
  rw [targets, targets, unseen_insert]
  by_cases listed : node ∈ g.successors.keys
  · have nodup : (g.unseen seen).Nodup := g.successors.nodup_keys.filter _
    have perm : (g.unseen seen).Perm (node :: (g.unseen seen).filter (node != ·)) := by
      have erased := List.perm_cons_erase (mem_unseen_iff.mpr ⟨listed, new⟩)
      simpa only [nodup.erase_eq_filter, bne_comm] using erased
    rw [← List.flatMap_cons]
    exact perm.flatMap_right g.next
  · have none : g.next node = [] := by
      by_contra some
      exact listed (mem_keys_of_next_ne_nil some)
    have same : (g.unseen seen).filter (node != ·) = g.unseen seen := by
      refine List.filter_eq_self.mpr fun other ho => bne_iff_ne.mpr ?_
      rintro rfl
      exact listed (mem_unseen_iff.mp ho).1
    rw [none, same, List.nil_append]

namespace Walk

variable {w w' : Walk}

/-- How many nodes a walk may still have to visit. -/
def load (g : Graph) (w : Walk) : Nat := w.pending.length + (g.targets w.seen).length

theorem Step.load_eq (h : Step g goal w w') : w.load g = w'.load g + 1 := by
  cases h with
  | known visits =>
    have length := visits.length_eq
    rw [List.length_cons] at length
    simp only [load]
    omega
  | new visits _ new queues =>
    have visited := visits.length_eq
    have queued := queues.length_eq
    have moved := (targets_perm g new).length_eq
    rw [List.length_cons] at visited
    rw [List.length_append] at queued moved
    simp only [load]
    omega

theorem Steps.load_eq (h : Steps g goal n w w') : w.load g = w'.load g + n := by
  induction h with
  | refl => rfl
  | step first _ ih => rw [first.load_eq, ih, Nat.add_assoc]

/-- A walk that has not come to its end can go on. -/
theorem exists_step_or_ends (g : Graph) (goal : String) (w : Walk) :
    (∃ w', Step g goal w w') ∨ ∃ answer, w.Ends goal answer := by
  obtain ⟨seen, pending⟩ := w
  cases pending with
  | nil => exact .inr ⟨false, .spent⟩
  | cons node rest =>
    by_cases met : node = goal
    · exact .inr ⟨true, .met (met ▸ List.mem_cons_self)⟩
    · by_cases known : node ∈ seen
      · exact .inl ⟨_, .known .rfl met known⟩
      · exact .inl ⟨_, .new .rfl met known .rfl⟩

end Walk

/-! ## Cycles of a graph -/

/-- What the search for cycles comes to. -/
structure DecidesCycles (g : Graph) : Prop where
  onCycle_iff : ∀ node, g.onCycle node ↔ Relation.TransGen g.Edge node node
  ends : ∀ node, ∃ n w, Walk.Steps g node n (.start g node) w ∧ w.Ends node (g.onCycle node)
  /-- Whichever pending nodes a walk visits, it has no more steps than edges have targets. -/
  bounded : ∀ node n w, Walk.Steps g node n (.start g node) w →
    n ≤ (g.next node).length + (g.targets ∅).length
  goesOn : ∀ node w, (∃ w', Walk.Step g node w w') ∨ ∃ answer, w.Ends node answer
  /-- Wherever a walk ends, it has the same answer. -/
  agrees : ∀ node n w answer, Walk.Steps g node n (.start g node) w → w.Ends node answer →
    answer = g.onCycle node
  /-- Neither the order of targets nor their repeats matter. -/
  congr : ∀ g' : Graph, (∀ a b, g'.Edge a b ↔ g.Edge a b) → g'.onCycle = g.onCycle
  mem_cyclic_iff : ∀ node, node ∈ g.cyclic ↔
    node ∈ g.successors ∧ Relation.TransGen g.Edge node node

theorem decidesCycles (g : Graph) : g.DecidesCycles where
  onCycle_iff _ := onCycle_iff
  ends node := Walk.exists_steps_reaches g node ∅ (g.next node)
  bounded node n w steps := by
    have load : (g.next node).length + (g.targets ∅).length = w.load g + n := steps.load_eq
    omega
  goesOn := Walk.exists_step_or_ends g
  agrees node n w answer steps ends := by
    rw [Bool.eq_iff_iff, onCycle_iff, ← Walk.leads_start]
    exact steps.answer_iff ends (Walk.sound_start g node)
  congr g' same := by
    have edges : g'.Edge = g.Edge := by
      ext a b
      exact same a b
    funext node
    rw [Bool.eq_iff_iff, onCycle_iff, onCycle_iff, edges]
  mem_cyclic_iff node := by
    rw [← Std.HashSet.contains_iff_mem, Graph.mem_cyclic_iff, ← Std.HashMap.mem_keys]
    exact (and_iff_right_of_imp mem_keys_of_transGen).symm

/-- Of the entries with one key, the last one gives the edges. -/
theorem edge_ofList_map_iff {α : Type} {key : α → String} {listed : α → List String}
    {xs : List α} {a b : String} :
    (ofList (xs.map fun x => (key x, listed x))).Edge a b ↔
      ∃ x, IsFirst key xs.reverse x ∧ key x = a ∧ b ∈ listed x := by
  induction xs using List.reverseRecOn with
  | nil =>
    refine iff_of_false ?_ ?_
    · simp [Edge, next, ofList]
    · rintro ⟨x, first, -⟩
      exact not_isFirst_nil key x first
  | append_singleton xs last ih =>
    have step : (ofList ((xs ++ [last]).map fun x => (key x, listed x))).next a =
        if key last = a then listed last
        else (ofList (xs.map fun x => (key x, listed x))).next a := by
      simp only [next, ofList, List.map_append, List.map_singleton,
        Std.HashMap.ofList_eq_insertMany_empty, Std.HashMap.insertMany_append,
        Std.HashMap.insertMany_list_singleton, Std.HashMap.getD_insert, beq_iff_eq]
    rw [Edge, step, List.reverse_append, List.reverse_singleton, List.singleton_append]
    simp only [isFirst_cons_iff]
    by_cases same : key last = a
    · rw [if_pos same]
      constructor
      · intro hb
        exact ⟨last, .inl rfl, same, hb⟩
      · rintro ⟨x, rfl | ⟨other, -⟩, here, hb⟩
        · exact hb
        · exact absurd (same.trans here.symm) other
    · rw [if_neg same]
      refine Iff.trans ih (exists_congr fun x => ?_)
      constructor
      · rintro ⟨first, here, hb⟩
        exact ⟨.inr ⟨fun eq => same (eq.trans here), first⟩, here, hb⟩
      · rintro ⟨rfl | ⟨-, first⟩, here, hb⟩
        · exact absurd here same
        · exact ⟨first, here, hb⟩

end Graph

/-! ## Composites -/

namespace Swift

/-- The composites in order, with their schemas. -/
def composites (ds : Declarations) : List Declared :=
  ds.schemas.flatMap fun s => s.composites.map (Declared.mk s)

/-- The last composite with the reference `a` holds a value of the type `b` in place. -/
def Holds (ds : Declarations) (a b : String) : Prop :=
  ∃ x, IsFirst Declared.reference (composites ds).reverse x ∧ x.reference = a ∧
    ∃ f ∈ x.record.fields, b ∈ inPlace f.type

theorem containment_eq (ds : Declarations) :
    containment ds = .ofList ((composites ds).map fun x =>
      (x.reference, x.record.fields.flatMap (inPlace ·.type))) := by
  rw [containment, composites, List.map_flatMap]
  simp only [List.map_map]
  rfl

theorem edge_containment (ds : Declarations) : (containment ds).Edge = Holds ds := by
  ext a b
  rw [containment_eq, Graph.edge_ofList_map_iff]
  simp only [List.mem_flatMap]
  rfl

theorem mem_containment_iff {ds : Declarations} {name : String} :
    name ∈ (containment ds).successors ↔ ∃ x ∈ composites ds, x.reference = name := by
  rw [containment_eq, Graph.ofList, Std.HashMap.mem_ofList, List.contains_iff_mem, List.map_map]
  exact List.mem_map

end Swift

/-- A node is found exactly if it is on a cycle, whatever the graph is; and so are the references of
composites that hold themselves in place. -/
theorem Graph.search_decidesCycles (g : Graph) (ds : Declarations) :
    g.DecidesCycles ∧ ∀ name, name ∈ (Swift.containment ds).cyclic ↔
      (∃ x ∈ Swift.composites ds, x.reference = name) ∧
        Relation.TransGen (Swift.Holds ds) name name := by
  refine ⟨g.decidesCycles, fun name => ?_⟩
  rw [(Swift.containment ds).decidesCycles.mem_cyclic_iff, Swift.mem_containment_iff,
    Swift.edge_containment]

end CatalogTypes
