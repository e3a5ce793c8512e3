import CatalogTypes.Emit.Graph
import CatalogTypes.Proofs.Kept
import Mathlib.Logic.Relation

/-!
# A walk finds exactly the cycles

A walk keeps the nodes that it has seen, and the edges of these lead to nodes that it has seen or
still has to visit. So when nothing is left to visit the seen nodes are closed under edges, and a
goal that was not met cannot be reached (`Walk.Steps.answer_iff`). It does not matter which of the
pending nodes is visited next: `Graph.reaches` takes the first.
-/

namespace CatalogTypes.Graph

variable {g : Graph} {goal : String}

/-- An edge leads from `a` to `b`. -/
def Edge (g : Graph) (a b : String) : Prop := b ∈ g.next a

/-! ## Walks -/

/-- What a walk has seen, and what it still has to visit. -/
structure Walk where
  seen : Std.HashSet String
  pending : List String

namespace Walk

variable {w w' : Walk} {n : Nat} {answer : Bool}

/-- A step visits any of the pending nodes but the goal. When it sees this node for the first time,
the targets of its edges come anywhere among the pending nodes. -/
inductive Step (g : Graph) (goal : String) : Walk → Walk → Prop
  | known {seen : Std.HashSet String} {pending rest : List String} {node : String}
      (visits : pending.Perm (node :: rest)) (other : node ≠ goal) (h : node ∈ seen) :
      Step g goal ⟨seen, pending⟩ ⟨seen, rest⟩
  | new {seen : Std.HashSet String} {pending pending' rest : List String} {node : String}
      (visits : pending.Perm (node :: rest)) (other : node ≠ goal) (h : node ∉ seen)
      (queues : pending'.Perm (g.next node ++ rest)) :
      Step g goal ⟨seen, pending⟩ ⟨seen.insert node, pending'⟩

inductive Steps (g : Graph) (goal : String) : (n : Nat) → Walk → Walk → Prop
  | refl (w : Walk) : Steps g goal 0 w w
  | step {n : Nat} {w w' w'' : Walk} (h : Step g goal w w') (rest : Steps g goal n w' w'') :
      Steps g goal (n + 1) w w''

/-- A walk ends when it comes upon its goal, or when nothing is left to visit. -/
inductive Ends (goal : String) : Walk → (answer : Bool) → Prop
  | met {seen : Std.HashSet String} {pending : List String} (h : goal ∈ pending) :
      Ends goal ⟨seen, pending⟩ true
  | spent {seen : Std.HashSet String} : Ends goal ⟨seen, []⟩ false

/-- The walk has come across the node. -/
def Finds (w : Walk) (a : String) : Prop := a ∈ w.seen ∨ a ∈ w.pending

/-- Some node that the walk has come across leads to the goal. -/
def Leads (g : Graph) (w : Walk) (goal : String) : Prop :=
  ∃ a, w.Finds a ∧ Relation.ReflTransGen g.Edge a goal

/-- The invariant of a walk. -/
structure Sound (g : Graph) (goal : String) (w : Walk) : Prop where
  closed : ∀ a ∈ w.seen, ∀ b, g.Edge a b → w.Finds b
  unmet : goal ∉ w.seen

/-! ### Steps -/

/-- What a step does with the node that it visits. -/
structure Visits (g : Graph) (goal node : String) (w w' : Walk) : Prop where
  found : w.Finds node
  other : node ≠ goal
  mem_seen_iff : ∀ a, a ∈ w'.seen ↔ a = node ∨ a ∈ w.seen
  finds_iff : ∀ a, w'.Finds a ↔ w.Finds a ∨ node ∉ w.seen ∧ g.Edge node a

theorem Step.exists_visits (h : Step g goal w w') : ∃ node, Visits g goal node w w' := by
  have mem_pending : ∀ {node : String} {pending rest : List String},
      pending.Perm (node :: rest) → ∀ a, a ∈ pending ↔ a = node ∨ a ∈ rest := by
    intro node pending rest visits a
    rw [visits.mem_iff, List.mem_cons]
  cases h with
  | @known seen pending rest node visits other known =>
    refine ⟨node, .inr ((mem_pending visits node).mpr (.inl rfl)), other, fun a => ?_, fun a => ?_⟩
    · refine (or_iff_right_of_imp ?_).symm
      rintro rfl
      exact known
    · rw [Finds, Finds, mem_pending visits]
      grind
  | @new seen pending pending' rest node visits other new queues =>
    have mem_pending' : ∀ a, a ∈ pending' ↔ g.Edge node a ∨ a ∈ rest := by
      intro a
      rw [queues.mem_iff, List.mem_append]
      rfl
    have mem_seen : ∀ a, a ∈ seen.insert node ↔ a = node ∨ a ∈ seen := by
      intro a
      rw [Std.HashSet.mem_insert, beq_iff_eq, eq_comm]
    refine ⟨node, .inr ((mem_pending visits node).mpr (.inl rfl)), other, mem_seen, fun a => ?_⟩
    rw [Finds, Finds, mem_pending visits, mem_pending', mem_seen]
    grind

theorem Step.sound (h : Step g goal w w') (sound : w.Sound g goal) : w'.Sound g goal := by
  obtain ⟨node, visits⟩ := h.exists_visits
  constructor
  case closed =>
    intro a ha b edge
    rw [visits.finds_iff]
    rcases (visits.mem_seen_iff a).mp ha with rfl | ha
    · by_cases known : a ∈ w.seen
      · exact .inl (sound.closed a known b edge)
      · exact .inr ⟨known, edge⟩
    · exact .inl (sound.closed a ha b edge)
  case unmet =>
    intro met
    rcases (visits.mem_seen_iff goal).mp met with rfl | met
    · exact visits.other rfl
    · exact sound.unmet met

/-- A step does not change whether the goal can be reached: the node that it visits leads to all
that it finds. -/
theorem Step.leads_iff (h : Step g goal w w') : w'.Leads g goal ↔ w.Leads g goal := by
  obtain ⟨node, visits⟩ := h.exists_visits
  constructor
  · rintro ⟨a, ha, path⟩
    rcases (visits.finds_iff a).mp ha with ha | ⟨-, edge⟩
    · exact ⟨a, ha, path⟩
    · exact ⟨node, visits.found, .head edge path⟩
  · rintro ⟨a, ha, path⟩
    exact ⟨a, (visits.finds_iff a).mpr (.inl ha), path⟩

/-! ### Whole walks -/

theorem Steps.sound (h : Steps g goal n w w') (sound : w.Sound g goal) : w'.Sound g goal := by
  induction h with
  | refl => exact sound
  | step first _ ih => exact ih (first.sound sound)

theorem Steps.leads_iff (h : Steps g goal n w w') : w'.Leads g goal ↔ w.Leads g goal := by
  induction h with
  | refl => exact Iff.rfl
  | step first _ ih => exact ih.trans first.leads_iff

theorem Ends.answer_iff (h : w.Ends goal answer) (sound : w.Sound g goal) :
    answer ↔ w.Leads g goal := by
  cases h with
  | met met => exact iff_of_true rfl ⟨goal, .inr met, .refl⟩
  | @spent seen =>
    refine iff_of_false Bool.false_ne_true ?_
    rintro ⟨a, ha, path⟩
    have reached : ∀ b, Relation.ReflTransGen g.Edge a b → b ∈ seen := by
      intro b path
      induction path with
      | refl => exact ha.resolve_right List.not_mem_nil
      | tail _ edge ih => exact (sound.closed _ ih _ edge).resolve_right List.not_mem_nil
    exact sound.unmet (reached goal path)

/-- Wherever a walk ends, its answer is whether it led to the goal when it began. -/
theorem Steps.answer_iff (h : Steps g goal n w w') (ends : w'.Ends goal answer)
    (sound : w.Sound g goal) : answer ↔ w.Leads g goal :=
  (ends.answer_iff (h.sound sound)).trans h.leads_iff

/-- The walk from the targets of a node. -/
def start (g : Graph) (node : String) : Walk := ⟨∅, g.next node⟩

theorem sound_start (g : Graph) (node : String) : (start g node).Sound g node where
  closed _ ha := absurd ha Std.HashSet.not_mem_empty
  unmet := Std.HashSet.not_mem_empty

theorem leads_start {node : String} :
    (start g node).Leads g node ↔ Relation.TransGen g.Edge node node := by
  rw [Relation.TransGen.head'_iff]
  refine exists_congr fun a => and_congr_left fun _ => ?_
  exact or_iff_right Std.HashSet.not_mem_empty

/-- A walk that always visits the first of the pending nodes ends at the answer of `reaches`. -/
theorem exists_steps_reaches (g : Graph) (goal : String) (seen : Std.HashSet String)
    (stack : List String) :
    ∃ n w, Steps g goal n ⟨seen, stack⟩ w ∧ w.Ends goal (g.reaches goal seen stack) := by
  fun_induction reaches g goal seen stack with
  | case1 seen => exact ⟨0, _, .refl _, .spent⟩
  | case2 seen node stack met =>
    obtain rfl := eq_of_beq met
    exact ⟨0, _, .refl _, .met List.mem_cons_self⟩
  | case3 seen node stack unequal known ih =>
    obtain ⟨n, w, steps, ends⟩ := ih
    have other : node ≠ goal := by simpa using unequal
    exact ⟨n + 1, w, .step (.known .rfl other (by simpa using known)) steps, ends⟩
  | case4 seen node stack unequal unknown ih =>
    obtain ⟨n, w, steps, ends⟩ := ih
    have other : node ≠ goal := by simpa using unequal
    exact ⟨n + 1, w, .step (.new .rfl other (by simpa using unknown) .rfl) steps, ends⟩

end Walk

/-! ## Cycles -/

theorem onCycle_iff {node : String} : g.onCycle node ↔ Relation.TransGen g.Edge node node := by
  obtain ⟨n, w, steps, ends⟩ := Walk.exists_steps_reaches g node ∅ (g.next node)
  rw [← Walk.leads_start]
  exact steps.answer_iff ends (Walk.sound_start g node)

theorem mem_keys_of_transGen {a b : String} (path : Relation.TransGen g.Edge a b) :
    a ∈ g.successors.keys := by
  obtain ⟨c, edge, -⟩ := Relation.TransGen.head'_iff.mp path
  exact mem_keys_of_next_ne_nil (List.ne_nil_of_mem edge)

theorem mem_cyclic_iff {node : String} :
    g.cyclic.contains node ↔ Relation.TransGen g.Edge node node := by
  rw [cyclic, Std.HashSet.contains_ofList, List.contains_iff_mem, List.mem_filter, onCycle_iff]
  exact and_iff_right_of_imp mem_keys_of_transGen

theorem edge_ofList_iff {edges : List (String × List String)}
    (nodup : (edges.map Prod.fst).Nodup) {a b : String} :
    (ofList edges).Edge a b ↔ ∃ bs, (a, bs) ∈ edges ∧ b ∈ bs := by
  simp only [Edge, next, ofList, Std.HashMap.getD_eq_getD_getElem?]
  simp only [← getElem?_ofList_eq_some_iff nodup]
  cases (Std.HashMap.ofList edges)[a]? with
  | none => simp
  | some bs => simp

end CatalogTypes.Graph
