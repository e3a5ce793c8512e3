/-! # Sets of characters by boundaries -/

namespace CatalogTypes.Text

/-- A set of characters, given by the ascending code points at which membership changes. -/
structure CharSet where
  boundaries : Array Nat

/-- How many of the ascending `bounds` are at most `n`, when `found` of them are known to be and
fewer than `2 ^ bits` more can be. -/
def countUpTo (bounds : Array Nat) (n : Nat) : (bits found : Nat) → Nat
  | 0, found => found
  | bits + 1, found =>
    match bounds[found + (1 <<< bits) - 1]? with
    | some b => countUpTo bounds n bits (if b ≤ n then found + (1 <<< bits) else found)
    | none => countUpTo bounds n bits found

namespace CharSet

/-- A character is in the set when an odd number of boundaries lies at or below it. -/
def contains (s : CharSet) (c : Char) : Bool :=
  countUpTo s.boundaries c.toNat (s.boundaries.size.log2 + 1) 0 % 2 == 1

end CharSet

end CatalogTypes.Text
