/-! # Natural numbers in decimal digits -/

namespace CatalogTypes.Text

def digit (n : Nat) : Char := Char.ofNat (48 + n)

/-- The decimal digits of `n`, the most significant first and without leading zeros. -/
def digits (n : Nat) : List Char :=
  if n < 10 then [digit n] else digits (n / 10) ++ [digit (n % 10)]
termination_by n

def decimal (n : Nat) : String := String.ofList (digits n)

def digitValue (d : Char) : Nat := d.toNat - 48

/-- The number that a run of digits spells, leading zeros included. -/
def digitsValue (ds : List Char) : Nat := ds.foldl (fun n d => 10 * n + digitValue d) 0

@[simp] theorem digitsValue_concat (ds : List Char) (d : Char) :
    digitsValue (ds ++ [d]) = 10 * digitsValue ds + digitValue d := by
  simp [digitsValue]

theorem digitValue_digit {n : Nat} (h : n < 10) : digitValue (digit n) = n := by
  match n, h with
  | 0, _ | 1, _ | 2, _ | 3, _ | 4, _ | 5, _ | 6, _ | 7, _ | 8, _ | 9, _ => rfl

@[simp] theorem digitsValue_digits (n : Nat) : digitsValue (digits n) = n := by
  induction n using digits.induct with
  | case1 n h => rw [digits, if_pos h]; simp [digitsValue, digitValue_digit h]
  | case2 n h ih =>
    rw [digits, if_neg h, digitsValue_concat, ih, digitValue_digit (Nat.mod_lt n (by decide))]
    omega

theorem digits_injective {m n : Nat} (h : digits m = digits n) : m = n := by
  rw [← digitsValue_digits m, h, digitsValue_digits]

end CatalogTypes.Text
