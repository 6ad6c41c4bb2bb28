import PivotTable.Binary64

/-!
# Shortest decimals

The decimal with the fewest digits among those that round to a given double, and of several with as
few digits the one nearest to it. On the grid of multiples of a power of ten only the two neighbours of
the number have to be looked at: if any point of the grid rounds to the number, one of them does.
-/
namespace PivotTable

/-- The number `digits * 10 ^ exponent`. -/
structure Decimal where
  digits : Nat
  exponent : Int
deriving DecidableEq, Repr

namespace Binary64

def exactDecimal (x : Binary64) : Decimal :=
  if x.exponent < 0 then ⟨x.significand * Nat.pow 5 (-x.exponent).toNat, x.exponent⟩
  else ⟨x.significand * Nat.pow 2 x.exponent.toNat, 0⟩

/-- A quarter of the unit of `x` in multiples of `10 ^ exponent`. -/
def quarterUnit (x : Binary64) (exponent : Int) : Nat × Nat :=
  let two := x.exponent - 2
  (Nat.pow 2 two.toNat * Nat.pow 10 (-exponent).toNat,
    Nat.pow 2 (-two).toNat * Nat.pow 10 exponent.toNat)

/-- Half-way to the neighbours of `x`, in quarters of its unit. -/
def lowerHalfway (x : Binary64) : Nat :=
  4 * x.significand - if x.significand = Nat.pow 2 52 ∧ -1074 < x.exponent then 1 else 2

def upperHalfway (x : Binary64) : Nat := 4 * x.significand + 2

/-- Whether `d` rounds to the magnitude of `x`: a half-way point does when `x` is even. -/
def isRoundedFrom (x : Binary64) (d : Decimal) : Bool :=
  let (num, den) := x.quarterUnit d.exponent
  let low := x.lowerHalfway * num
  let high := x.upperHalfway * num
  let point := d.digits * den
  if x.significand % 2 = 0 then decide (low ≤ point ∧ point ≤ high)
  else decide (low < point ∧ point < high)

/-- The points of the grid of `10 ^ exponent` next to `x`, the nearer one first and the even one of two
that are equally near. -/
def gridNeighbours (x : Binary64) (exponent : Int) : List Decimal :=
  let (num, den) := x.quarterUnit exponent
  let below := 4 * x.significand * num / den
  let twice := 2 * (4 * x.significand * num % den)
  if twice < den ∨ twice = den ∧ below % 2 = 0 then [⟨below, exponent⟩, ⟨below + 1, exponent⟩]
  else [⟨below + 1, exponent⟩, ⟨below, exponent⟩]

def leadingExponent (x : Binary64) : Int :=
  let guess := ((x.significand.log2 : Int) + x.exponent) * 30102999566 / 100000000000
  let (num, den) := x.quarterUnit (guess + 1)
  if den ≤ 4 * x.significand * num then guess + 1 else guess

def shortestFrom (x : Binary64) : Nat → Int → Decimal
  | 0, _ => x.exactDecimal
  | fuel + 1, exponent =>
    match (x.gridNeighbours exponent).find? x.isRoundedFrom with
    | some d => d
    | none => shortestFrom x fuel (exponent - 1)

/-- Seventeen digits always suffice, so the search ends before its bound. -/
def shortest (x : Binary64) : Decimal :=
  if x.isZero then ⟨0, 0⟩ else x.shortestFrom 17 x.leadingExponent

end Binary64

end PivotTable
