import CatalogTypes.Decimal.Double
import CatalogTypes.Text.Decimal

/-! # The shortest decimal that reads back -/

namespace CatalogTypes

/-- A decimal `digits * 10 ^ exponent`. -/
structure Decimal where
  digits : Nat
  exponent : Int
deriving DecidableEq, Repr

/-- Ten units of a place are one unit of the place before it. -/
def Decimal.carry (x : Decimal) : Decimal :=
  if x.digits = 10 then ⟨1, x.exponent + 1⟩ else x

namespace Double

/-- The ends of the interval of numbers that round to `x`, which lie halfway to the neighbours.
Below a power of two the neighbour is nearer. -/
def interval (x : Double) : Ratio × Ratio :=
  let isPower := x.mantissa == minNormal && x.exponent > minExponent
  let low := if isPower then 4 * x.mantissa - 1 else 4 * x.mantissa - 2
  ((Ratio.mk low 1).scale2 (x.exponent - 2),
    (Ratio.mk (4 * x.mantissa + 2) 1).scale2 (x.exponent - 2))

/-- Whether `r` rounds to `x`. The ends of the interval do if the mantissa is even. -/
def holds (x : Double) (r : Ratio) : Bool :=
  let (low, high) := x.interval
  if x.mantissa % 2 == 0 then low.le r && r.le high else !r.le low && !high.le r

/-- Of the two neighbours of `x` among the multiples of 10^n, the nearer that rounds to `x`; of two
as near, the even one. -/
def onGrid? (x : Double) (n : Int) : Option Decimal :=
  let v := x.toRatio.scale10 (-n)
  let nearest := v.round
  let other := if nearest == v.floor then nearest + 1 else nearest - 1
  ([nearest, other].find? fun d => x.holds ((Ratio.mk d 1).scale10 n)).map (⟨·, n⟩)

/-- The exponent of ten in the scientific notation of `r`, found near its bit length. -/
def decimalExponent (r : Ratio) : Int :=
  let guess := (((r.num.log2 : Int) - r.den.log2 - 1) * 30103) / 100000 - 1
  ([3, 2, 1].map (guess + ·)).find? (fun n => (Ratio.mk 1 1 |>.scale10 n).le r) |>.getD guess

/-- A decimal of the fewest digits, at most 17, that rounds to `x`, and of those the nearest. -/
def shortest (x : Double) : Decimal :=
  if x.isZero then ⟨0, 0⟩
  else
    let top := decimalExponent x.toRatio
    let found? := (List.range 17).findSome? fun (n : Nat) => x.onGrid? (top - n)
    (found?.getD ⟨(x.toRatio.scale10 (16 - top)).round, top - 16⟩).carry

end Double

namespace Decimal

/-- The decimal with at least one place: positional if its first digit stands between the fifth
place and 10^15, with an exponent otherwise. -/
def text (x : Decimal) : String :=
  let digits := Text.digits x.digits
  let zeros (n : Int) : List Char := List.replicate n.toNat '0'
  let top := x.exponent + digits.length - 1
  String.ofList <|
    if x.digits = 0 then ['0', '.', '0']
    else if -5 ≤ top && top ≤ 15 then
      if 0 ≤ x.exponent then digits ++ zeros x.exponent ++ ['.', '0']
      else if 0 ≤ top then digits.take (top.toNat + 1) ++ ['.'] ++ digits.drop (top.toNat + 1)
      else ['0', '.'] ++ zeros (-top - 1) ++ digits
    else
      digits.take 1 ++ (if digits.length = 1 then [] else '.' :: digits.drop 1) ++ ['e'] ++
        (if 0 ≤ top then ['+'] else ['-']) ++ Text.digits top.natAbs

end Decimal

end CatalogTypes
