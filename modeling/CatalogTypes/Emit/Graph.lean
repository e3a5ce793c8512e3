import Std.Data.HashMap
import Std.Data.HashSet

/-! # Cycles in a finite graph -/

namespace CatalogTypes

/-- For each node the nodes that its edges lead to. Edges may lead to nodes that have none. -/
structure Graph where
  successors : Std.HashMap String (List String)

namespace Graph

def ofList (edges : List (String × List String)) : Graph := ⟨.ofList edges⟩

def next (g : Graph) (node : String) : List String := g.successors.getD node []

/-- The nodes with edges that are not in `seen`. -/
def unseen (g : Graph) (seen : Std.HashSet String) : List String :=
  g.successors.keys.filter (!seen.contains ·)

theorem mem_keys_of_next_ne_nil {g : Graph} {node : String} (h : g.next node ≠ []) :
    node ∈ g.successors.keys := by
  rw [Std.HashMap.mem_keys]
  refine Decidable.byContradiction fun hn => h ?_
  simp [next, Std.HashMap.getD_eq_fallback hn]

theorem unseen_insert (g : Graph) (seen : Std.HashSet String) (node : String) :
    g.unseen (seen.insert node) = (g.unseen seen).filter (node != ·) := by
  simp only [unseen, List.filter_filter]
  exact List.filter_congr fun k _ => by simp [bne]

theorem length_unseen_insert_le (g : Graph) (seen : Std.HashSet String) (node : String) :
    (g.unseen (seen.insert node)).length ≤ (g.unseen seen).length := by
  rw [unseen_insert]
  exact List.length_filter_le ..

theorem length_unseen_insert_lt {g : Graph} {seen : Std.HashSet String} {node : String}
    (hs : seen.contains node = false) (hn : g.next node ≠ []) :
    (g.unseen (seen.insert node)).length < (g.unseen seen).length := by
  rw [unseen_insert]
  refine List.length_filter_lt_length_iff_exists.mpr ⟨node, ?_, by simp⟩
  simp [unseen, hs, mem_keys_of_next_ne_nil hn]

/-- Whether a walk from the nodes of `stack` gets to `goal`, following the edges of no node in
`seen`. Each step either sees a node with edges for the first time or makes the stack shorter. -/
def reaches (g : Graph) (goal : String) (seen : Std.HashSet String) : List String → Bool
  | [] => false
  | node :: stack =>
    if node == goal then true
    else if _h : seen.contains node then g.reaches goal seen stack
    else g.reaches goal (seen.insert node) (g.next node ++ stack)
termination_by stack => ((g.unseen seen).length, stack.length)
decreasing_by
  · exact Prod.Lex.right _ (by simp)
  · by_cases hn : g.next node = []
    · rcases Nat.lt_or_eq_of_le (g.length_unseen_insert_le seen node) with h' | h'
      · exact Prod.Lex.left _ _ h'
      · rw [h', hn]; exact Prod.Lex.right _ (by simp)
    · exact Prod.Lex.left _ _ (length_unseen_insert_lt (by simpa using _h) hn)

/-- Whether a walk from `node` along at least one edge comes back to it. -/
def onCycle (g : Graph) (node : String) : Bool := g.reaches node ∅ (g.next node)

/-- The nodes that lie on a cycle. -/
def cyclic (g : Graph) : Std.HashSet String :=
  .ofList (g.successors.keys.filter g.onCycle)

end Graph

end CatalogTypes
