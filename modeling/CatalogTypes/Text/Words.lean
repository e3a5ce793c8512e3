import CatalogTypes.Text.Numeric
import CatalogTypes.Text.LetterCase
import CatalogTypes.Text.CaseMapping

/-! # The words of an identifier -/

namespace CatalogTypes.Text

/-- The runs of alphanumeric characters, in order; between two neighbouring separators stands an
empty run. -/
def pieces (cs : List Char) : List (List Char) := cs.splitOnP (!isAlphanumeric ·)

/-- The letters seen so far in a word: none with case yet, lowercase last, or uppercase last. -/
inductive Streak where
  | fresh
  | lower
  | upper
deriving DecidableEq, Repr

def Streak.next (streak : Streak) (c : Char) : Streak :=
  if isLowercase c then .lower else if isUppercase c then .upper else streak

/-- Cuts a piece into words, the word under way given in reverse. A word ends after a lowercase
letter that an uppercase one follows, and before an uppercase letter that stands between an
uppercase and a lowercase one: `fooBAR` and `HTTPServer` are two words each. -/
def cut (streak : Streak) (word : List Char) : List Char → List (List Char)
  | [] => if word.isEmpty then [] else [word.reverse]
  | c :: rest =>
    match rest with
    | [] => [(c :: word).reverse]
    | next :: _ =>
      if streak.next c = .lower ∧ isUppercase next then
        (c :: word).reverse :: cut .fresh [] rest
      else if streak = .upper ∧ isUppercase c ∧ isLowercase next then
        word.reverse :: cut .fresh [c] rest
      else cut (streak.next c) (c :: word) rest

/-- Cutting loses no character. -/
theorem flatten_cut (streak : Streak) (word cs : List Char) :
    (cut streak word cs).flatten = word.reverse ++ cs := by
  fun_induction cut streak word cs with
  | case1 streak word h => simp_all
  | case2 => simp_all
  | case3 => simp
  | case4 streak word c next rest _ ih => simp [ih]
  | case5 streak word c next rest _ _ ih => simp [ih]
  | case6 streak word c next rest _ _ ih => simp [ih]

/-- The words of an identifier, without what separates them. -/
def words (cs : List Char) : List (List Char) := (pieces cs).flatMap (cut .fresh [])

/-- A word in lowercase. A capital sigma that ends the word becomes a final sigma. -/
def lowerWord : List Char → List Char
  | [] => []
  | c :: cs => (if c = 'Σ' ∧ cs = [] then ['ς'] else lower c) ++ lowerWord cs

def upperWord (word : List Char) : List Char := word.flatMap upper

/-- A word whose first character is in uppercase and whose others are in lowercase. -/
def capitalize : List Char → List Char
  | [] => []
  | c :: cs => upper c ++ lowerWord cs

/-- Whether there is a letter or a digit in `s`. -/
def hasWords (s : String) : Bool := s.toList.any isAlphanumeric

end CatalogTypes.Text
