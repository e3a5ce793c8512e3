import Std.Data.HashMap
import Std.Data.HashSet

/-! # Lists by key -/

namespace CatalogTypes

variable {α κ : Type} [BEq κ] [Hashable κ]

/-- A list whose elements are found by their key. -/
structure Grouping (κ α : Type) [BEq κ] [Hashable κ] where
  groups : Std.HashMap κ (List α)

namespace Grouping

/-- The elements with the key `k`, in the order of the list. -/
def get (g : Grouping κ α) (k : κ) : List α := g.groups.getD k []

def add (g : Grouping κ α) (k : κ) (x : α) : Grouping κ α := ⟨g.groups.insert k (x :: g.get k)⟩

def ofList (key : α → κ) (xs : List α) : Grouping κ α :=
  xs.foldr (fun x g => g.add (key x) x) ⟨∅⟩

variable [LawfulBEq κ]

theorem get_add (g : Grouping κ α) (k k' : κ) (x : α) :
    (g.add k x).get k' = if k == k' then x :: g.get k else g.get k' := by
  simp [get, add, Std.HashMap.getD_insert]

@[simp] theorem get_ofList (key : α → κ) (xs : List α) (k : κ) :
    (ofList key xs).get k = xs.filter (key · == k) := by
  induction xs with
  | nil => simp [ofList, get]
  | cons x xs ih =>
    rw [show ofList key (x :: xs) = (ofList key xs).add (key x) x from rfl, get_add]
    by_cases h : key x = k
    · subst h; simp [ih]
    · simp [h, ih]

end Grouping

/-- Tells for each element whether an earlier one, or a key in `seen`, has its key. -/
def markRepeats (key : α → κ) : Std.HashSet κ → List α → List (α × Bool)
  | _, [] => []
  | seen, x :: xs => (x, seen.contains (key x)) :: markRepeats key (seen.insert (key x)) xs

/-- The elements whose key neither an earlier element nor `seen` has. -/
def firstsAfter (key : α → κ) (seen : Std.HashSet κ) (xs : List α) : List α :=
  (markRepeats key seen xs).filterMap fun (x, repeated) => if repeated then none else some x

/-- The elements whose key no earlier element has. -/
def firsts (key : α → κ) (xs : List α) : List α := firstsAfter key ∅ xs

theorem map_fst_markRepeats (key : α → κ) (seen : Std.HashSet κ) (xs : List α) :
    (markRepeats key seen xs).map Prod.fst = xs := by
  induction xs generalizing seen with
  | nil => rfl
  | cons x xs ih => simp [markRepeats, ih]

@[simp] theorem firsts_nil (key : α → κ) : firsts key [] = [] := rfl

theorem firstsAfter_cons (key : α → κ) (seen : Std.HashSet κ) (x : α) (xs : List α) :
    firstsAfter key seen (x :: xs) =
      if seen.contains (key x) then firstsAfter key (seen.insert (key x)) xs
      else x :: firstsAfter key (seen.insert (key x)) xs := by
  by_cases h : seen.contains (key x) <;> simp [firstsAfter, markRepeats, h]

variable [LawfulBEq κ]

/-- Only which keys are in a set matters. -/
theorem firstsAfter_congr (key : α → κ) {seen seen' : Std.HashSet κ}
    (h : ∀ k, seen.contains k = seen'.contains k) (xs : List α) :
    firstsAfter key seen xs = firstsAfter key seen' xs := by
  induction xs generalizing seen seen' with
  | nil => rfl
  | cons x xs ih =>
    have rest : firstsAfter key (seen.insert (key x)) xs =
        firstsAfter key (seen'.insert (key x)) xs :=
      ih fun k => by simp [Std.HashSet.contains_insert, h]
    rw [firstsAfter_cons, firstsAfter_cons, h, rest]

theorem firstsAfter_insert (key : α → κ) (seen : Std.HashSet κ) (k : κ) (xs : List α) :
    firstsAfter key (seen.insert k) xs = firstsAfter key seen (xs.filter (key · != k)) := by
  induction xs generalizing seen with
  | nil => rfl
  | cons x xs ih =>
    by_cases h : key x = k
    · subst h
      rw [List.filter_cons_of_neg (by simp), ← ih, firstsAfter_cons, if_pos (by simp)]
      exact firstsAfter_congr key (fun k => by simp [Std.HashSet.contains_insert]) xs
    · have hk : (k == key x) = false := by simpa using Ne.symm h
      have swapped : firstsAfter key ((seen.insert k).insert (key x)) xs =
          firstsAfter key ((seen.insert (key x)).insert k) xs :=
        firstsAfter_congr key (fun k => by
          simp only [Std.HashSet.contains_insert]; exact Bool.or_left_comm ..) xs
      rw [List.filter_cons_of_pos (by simpa using h), firstsAfter_cons, firstsAfter_cons,
        Std.HashSet.contains_insert, hk, Bool.false_or, ← ih, swapped]

/-- The first element is kept, and those after it that have its key are not. -/
theorem firsts_cons (key : α → κ) (x : α) (xs : List α) :
    firsts key (x :: xs) = x :: firsts key (xs.filter (key · != key x)) := by
  rw [firsts, firstsAfter_cons, if_neg (by simp), firstsAfter_insert]
  rfl

end CatalogTypes
