/-! # Doubles in exact arithmetic -/

namespace CatalogTypes

/-- A finite double without its sign: `mantissa * 2 ^ exponent`. The mantissa of a normal double has
53 bits; that of a smaller one has fewer, at the least exponent. -/
structure Double where
  mantissa : Nat
  exponent : Int
deriving DecidableEq, Repr

/-- A quotient of natural numbers. -/
structure Ratio where
  num : Nat
  den : Nat
deriving DecidableEq, Repr

namespace Ratio

/-- `r * 2 ^ n` -/
def scale2 (r : Ratio) (n : Int) : Ratio :=
  if 0 ≤ n then ⟨r.num <<< n.toNat, r.den⟩ else ⟨r.num, r.den <<< (-n).toNat⟩

def tenTo (n : Nat) : Nat := Nat.pow 10 n

/-- `r * 10 ^ n` -/
def scale10 (r : Ratio) (n : Int) : Ratio :=
  if 0 ≤ n then ⟨r.num * tenTo n.toNat, r.den⟩ else ⟨r.num, r.den * tenTo (-n).toNat⟩

def floor (r : Ratio) : Nat := r.num / r.den

/-- The nearest natural number; of two, the even one. -/
def round (r : Ratio) : Nat :=
  let q := r.num / r.den
  let twice := 2 * (r.num % r.den)
  if twice < r.den || (twice == r.den && q % 2 == 0) then q else q + 1

def le (r r' : Ratio) : Bool := r.num * r'.den ≤ r'.num * r.den

end Ratio

namespace Double

/-- The exponents of the smallest and of the largest doubles. -/
def minExponent : Int := -1074

def maxExponent : Int := 971

/-- Mantissas have at most 53 bits. -/
def mantissaBound : Nat := 1 <<< 53

/-- The least mantissa of a normal double. -/
def minNormal : Nat := 1 <<< 52

def zero : Double := ⟨0, minExponent⟩

def isZero (x : Double) : Bool := x.mantissa == 0

def toRatio (x : Double) : Ratio := (Ratio.mk x.mantissa 1).scale2 x.exponent

/-- The least exponent, from the smallest on, at which `r` takes at most 53 bits; it is at most one
below the position that the sizes of numerator and denominator give. -/
def exponentFor (r : Ratio) : Int :=
  let guess := max minExponent ((r.num.log2 : Int) - r.den.log2 - 53)
  if (r.scale2 (-guess)).floor < mantissaBound then guess
  else if (r.scale2 (-(guess + 1))).floor < mantissaBound then guess + 1
  else guess + 2

/-- The double nearest to `r`; of two, the one with the even mantissa. None if `r` is too large. -/
def ofRatio? (r : Ratio) : Option Double :=
  let exponent := exponentFor r
  let mantissa := (r.scale2 (-exponent)).round
  let x : Double :=
    if mantissa < mantissaBound then ⟨mantissa, exponent⟩ else ⟨minNormal, exponent + 1⟩
  if x.exponent ≤ maxExponent then some x else none

/-- The double nearest to a natural number below 2^1024. -/
def ofNat (n : Nat) : Double := (ofRatio? ⟨n, 1⟩).getD zero

/-- The double nearest to a power of ten up to 10^308. -/
def powerOfTen (n : Nat) : Double := ofNat (Ratio.tenTo n)

def mul? (x y : Double) : Option Double :=
  let (r, r') := (x.toRatio, y.toRatio)
  ofRatio? ⟨r.num * r'.num, r.den * r'.den⟩

def div (x y : Double) : Double :=
  let (r, r') := (x.toRatio, y.toRatio)
  (ofRatio? ⟨r.num * r'.den, r.den * r'.num⟩).getD zero

/-- Divides by a power of ten in steps of at most 10^308, each step rounded. -/
def divPower (x : Double) (n : Nat) : Double :=
  if n ≤ 308 then x.div (powerOfTen n)
  else if x.isZero then x
  else divPower (x.div (powerOfTen 308)) (n - 308)
termination_by n

/-- A decimal `significand * 10 ^ exponent`: the significand and the power of ten are rounded, and
so is their product or quotient. None if the result is too large. -/
def ofDecimal? (significand : Nat) (exponent : Int) : Option Double :=
  let x := ofNat significand
  if exponent < 0 then some (x.divPower (-exponent).toNat)
  else if exponent ≤ 308 then x.mul? (powerOfTen exponent.toNat)
  else if x.isZero then some x
  else none

end Double

end CatalogTypes
