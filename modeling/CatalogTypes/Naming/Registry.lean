import Std.Data.HashSet
import CatalogTypes.Text.Decimal

/-! # Names given out within one namespace -/

namespace CatalogTypes

/-- The names already given out. -/
structure Registry where
  taken : Std.HashSet String

namespace Registry

def empty : Registry := ⟨∅⟩

/-- The candidates for a base name in the order they are tried: the base itself, then the base
with 2, 3, 4, ... at its end. -/
def candidate (base : String) : Nat → String
  | 0 => base
  | n + 1 => base ++ Text.decimal (n + 2)

/-- How many candidates the count reaches. Numbers have 32 bits and a sign, and each candidate is
made together with the number of the next one, so the last is the base with 2^31 - 2 at its end. -/
def reach : Nat := (1 <<< 31) - 2

/-- The first finished candidate from the `n`-th on that is not taken, if it is among the next
`tries`. -/
def search? (taken : Std.HashSet String) (base : String) (finish : String → String) :
    (tries n : Nat) → Option String
  | 0, _ => none
  | tries + 1, n =>
    let name := finish (candidate base n)
    if taken.contains name then search? taken base finish tries (n + 1) else some name

/-- The registry in which a name is taken as well. -/
def insert (reg : Registry) (name : String) : Registry := ⟨reg.taken.insert name⟩

/-- Gives out the first free name for `base`. A name is free or taken in its finished form. None is
given out if the count runs over before. -/
def claim? (reg : Registry) (base : String) (finish : String → String) :
    Option (String × Registry) :=
  (search? reg.taken base finish reach 0).map fun name => (name, reg.insert name)

/-- The first finished candidate from the `n`-th on that is not taken, found among the next
`tries`; failing that, the one after them. -/
def search (taken : Std.HashSet String) (base : String) (finish : String → String) (tries n : Nat) :
    String :=
  (search? taken base finish tries n).getD (finish (candidate base (n + tries)))

/-- What `claim?` gives out, as long as the count does not run over. Nothing comes of a run in which
it does; so that every claim has a name, the search then goes on beyond the count. As many
candidates as names are taken suffice for it: when all of them are refused, every name is among
them, and the next one is free because the finished candidates differ from one another. -/
def claim (reg : Registry) (base : String) (finish : String → String) : String × Registry :=
  (reg.claim? base finish).getD <|
    let name := search reg.taken base finish reg.taken.size reach
    (name, reg.insert name)

@[simp] theorem candidate_zero (base : String) : candidate base 0 = base := rfl

@[simp] theorem taken_insert (reg : Registry) (name : String) :
    (reg.insert name).taken = reg.taken.insert name := rfl

theorem claim_of_free {reg : Registry} {base : String} {finish : String → String}
    (h : reg.taken.contains (finish base) = false) : (reg.claim base finish).1 = finish base := by
  have found : reg.claim? base finish = some (finish base, reg.insert (finish base)) := by
    simp [claim?, reach, search?, h]
  rw [claim, found, Option.getD_some]

end Registry

/-- Maps from left to right while a state is handed from each element to the next. -/
def mapThread {σ α β : Type} (f : σ → α → β × σ) : σ → List α → List β × σ
  | s, [] => ([], s)
  | s, x :: xs =>
    let (y, s) := f s x
    let (ys, s) := mapThread f s xs
    (y :: ys, s)

theorem length_mapThread {σ α β : Type} (f : σ → α → β × σ) (s : σ) (xs : List α) :
    (mapThread f s xs).1.length = xs.length := by
  induction xs generalizing s with
  | nil => rfl
  | cons x xs ih => simp [mapThread, ih]

end CatalogTypes
