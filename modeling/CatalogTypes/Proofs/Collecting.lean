import CatalogTypes.Proofs.Findings

/-!
# Collected warnings are the first ones, in order

A collector is filled by calls that record one warning or several. Each record keeps it
`Findings.Faithful`: its set has the warnings of its list, and the list has none of them twice. What
it holds in the end depends on the recorded warnings alone, not on how they were spread over calls
(`Findings.run_eq`), and its list has them without their repeats.
-/

namespace CatalogTypes

/-- Repeats are found by keys that were seen, or by comparing with all that comes later. -/
theorem firsts_id_eq_eraseDups {α : Type} [BEq α] [Hashable α] [LawfulBEq α] (xs : List α) :
    firsts id xs = xs.eraseDups := by
  match xs with
  | [] => rfl
  | x :: xs =>
    rw [firsts_cons, List.eraseDups_cons]
    apply congrArg (x :: ·)
    exact firsts_id_eq_eraseDups (xs.filter fun y => !y == x)
termination_by xs.length
decreasing_by exact Nat.lt_succ_of_le (List.length_filter_le ..)

namespace Findings

/-! ## Calls -/

inductive Call where
  | record (w : Warning)
  | recordAll (ws : List Warning)

/-- The warnings that a call hands over. -/
def Call.warnings : Call → List Warning
  | record w => [w]
  | recordAll ws => ws

def Call.apply (f : Findings) : Call → Findings
  | record w => f.record w
  | recordAll ws => f.recordAll ws

/-- The calls are made in turn. -/
def run (f : Findings) (calls : List Call) : Findings := calls.foldl Call.apply f

theorem Call.apply_eq (f : Findings) (call : Call) : call.apply f = f.recordAll call.warnings := by
  cases call with
  | record w => rfl
  | recordAll ws => rfl

/-- Calls do what one call does that hands over all their warnings. -/
theorem run_eq (f : Findings) (calls : List Call) :
    f.run calls = f.recordAll (calls.flatMap Call.warnings) := by
  induction calls generalizing f with
  | nil => rfl
  | cons call calls ih =>
    rw [List.flatMap_cons, recordAll_append, ← Call.apply_eq]
    exact ih _

/-! ## The list and the set -/

/-- The set has the warnings of the list, and the list has each of them once. -/
structure Faithful (f : Findings) : Prop where
  mem_seen_iff : ∀ w, w ∈ f.seen ↔ w ∈ f.toList
  nodup : f.toList.Nodup

variable {f : Findings}

theorem faithful_empty : Faithful empty where
  mem_seen_iff w := by
    rw [toList_empty]
    exact iff_of_false Std.HashSet.not_mem_empty List.not_mem_nil
  nodup := List.nodup_nil

theorem Faithful.record (h : f.Faithful) (w : Warning) : (f.record w).Faithful := by
  unfold Findings.record
  split
  case isTrue => exact h
  case isFalse unseen =>
    have new : w ∉ f.toList := by
      rwa [← h.mem_seen_iff, ← Std.HashSet.contains_iff_mem]
    have list : (Findings.mk (f.warnings.push w) (f.seen.insert w)).toList = f.toList ++ [w] := by
      simp [toList]
    constructor
    case mem_seen_iff =>
      intro v
      rw [list, Std.HashSet.mem_insert, beq_iff_eq, h.mem_seen_iff, List.mem_append,
        List.mem_singleton, or_comm, eq_comm]
    case nodup =>
      rw [list, ← List.concat_eq_append]
      exact h.nodup.concat new

theorem Faithful.recordAll (h : f.Faithful) (ws : List Warning) : (f.recordAll ws).Faithful := by
  induction ws generalizing f with
  | nil => exact h
  | cons w ws ih => exact ih (h.record w)

theorem isEmpty_iff : f.isEmpty ↔ f.toList = [] := by
  rw [isEmpty, Array.isEmpty_iff, toList, Array.toList_eq_nil_iff]

/-! ## Runs -/

/-- What calls to a new collector come to. -/
structure KeepsFirsts (calls : List Call) : Prop where
  /-- Later repeats are dropped. -/
  toList : (empty.run calls).toList = (calls.flatMap Call.warnings).eraseDups
  seen : ∀ past, past <+: calls → (empty.run past).Faithful
  isEmpty : (empty.run calls).isEmpty ↔ ∀ call ∈ calls, call.warnings = []
  /-- The same warnings give the same collector, the set included, in whatever calls they come. -/
  spread : ∀ calls', calls'.flatMap Call.warnings = calls.flatMap Call.warnings →
    empty.run calls' = empty.run calls

theorem run_keepsFirsts (calls : List Call) : KeepsFirsts calls := by
  have list : (empty.run calls).toList = (calls.flatMap Call.warnings).eraseDups := by
    rw [run_eq, ← firsts_id_eq_eraseDups]
    exact toList_ofList _
  constructor
  case toList => exact list
  case seen =>
    intro past _
    rw [run_eq]
    exact faithful_empty.recordAll _
  case isEmpty =>
    rw [isEmpty_iff, list, ← List.flatMap_eq_nil_iff]
    constructor
    · intro none
      rw [List.eq_nil_iff_forall_not_mem] at none ⊢
      intro w hw
      exact none w (List.mem_eraseDups.mpr hw)
    · intro none
      rw [none, List.eraseDups_nil]
  case spread =>
    intro calls' same
    rw [run_eq, run_eq, same]

end Findings

end CatalogTypes
