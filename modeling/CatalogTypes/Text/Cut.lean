/-! # Texts cut at separators -/

namespace CatalogTypes.Text

/-- What stands before and after the first separator. -/
def cut? (separator : Char) : List Char → Option (List Char × List Char)
  | [] => none
  | c :: cs =>
    if c = separator then some ([], cs)
    else (cut? separator cs).map fun (before, after) => (c :: before, after)

theorem cut?_eq_some_iff {separator : Char} {cs before after : List Char} :
    cut? separator cs = some (before, after) ↔
      cs = before ++ separator :: after ∧ separator ∉ before := by
  induction cs generalizing before with
  | nil => simp [cut?]
  | cons c cs ih =>
    by_cases h : c = separator
    · cases before with
      | nil => simp [cut?, h]
      | cons b before => simp [cut?, h]; grind
    · cases before with
      | nil => simp [cut?, h]
      | cons b before => simp [cut?, h, and_assoc]; grind

theorem cut?_eq_none_iff {separator : Char} {cs : List Char} :
    cut? separator cs = none ↔ separator ∉ cs := by
  induction cs with
  | nil => simp [cut?]
  | cons c cs ih =>
    by_cases h : c = separator
    · simp [cut?, h]
    · simp [cut?, h, ih, Ne.symm (Ne.intro h)]

theorem not_of_mem_splitOnP {α : Type} {p : α → Bool} {xs piece : List α}
    (h : piece ∈ xs.splitOnP p) : ∀ x ∈ piece, ¬ p x := by
  induction xs generalizing piece with
  | nil => simp_all
  | cons x xs ih =>
    rw [List.splitOnP_cons_eq_if_modifyHead] at h
    split at h
    · rcases List.mem_cons.mp h with rfl | h
      · simp
      · exact ih h
    · next other =>
      cases rest : xs.splitOnP p with
      | nil => exact absurd rest (List.splitOnP_ne_nil _ xs)
      | cons first others =>
        rw [rest] at h
        rcases List.mem_cons.mp h with rfl | h
        · exact List.forall_mem_cons.mpr ⟨other, ih (by rw [rest]; exact List.mem_cons_self)⟩
        · exact ih (by rw [rest]; exact List.mem_cons_of_mem _ h)

theorem separator_not_mem_of_mem_splitOn {separator : Char} {cs piece : List Char}
    (h : piece ∈ cs.splitOn separator) : separator ∉ piece := by
  rw [List.splitOn_eq_splitOnP] at h
  intro mem
  exact not_of_mem_splitOnP h separator mem (beq_self_eq_true separator)

end CatalogTypes.Text
