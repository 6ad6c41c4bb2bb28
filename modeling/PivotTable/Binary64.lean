/-!
# Finite binary64 numbers

A finite double is a sign and the rank of its magnitude among the finite magnitudes. The rank is the
bit pattern without the sign bit, so ranks are ordered as the magnitudes are, and equality is equality
of bit patterns. Every operation is exact arithmetic followed by one rounding to nearest, ties to even.
-/
namespace PivotTable

structure Binary64 where
  negative : Bool
  rank : Nat
  rank_lt : rank < 0x7FF0000000000000
deriving DecidableEq, Repr

namespace Binary64

/-- The magnitude is `significand * 2 ^ exponent`. -/
def significand (x : Binary64) : Nat :=
  if x.rank < Nat.pow 2 52 then x.rank else Nat.pow 2 52 + x.rank % Nat.pow 2 52

def exponent (x : Binary64) : Int :=
  if x.rank < Nat.pow 2 52 then -1074 else (x.rank / Nat.pow 2 52 : Nat) - 1075

def zero (negative : Bool) : Binary64 := ⟨negative, 0, by decide⟩

def isZero (x : Binary64) : Bool := x.rank == 0

def ratio (x : Binary64) : Nat × Nat :=
  if x.exponent < 0 then (x.significand, Nat.pow 2 (-x.exponent).toNat)
  else (x.significand * Nat.pow 2 x.exponent.toNat, 1)

/-- The exact value of a number without a fractional part. -/
def toInt? (x : Binary64) : Option Int :=
  let (num, den) := x.ratio
  if num % den = 0 then some (if x.negative then -(num / den : Nat) else (num / den : Nat)) else none

/-- The nearest natural number to `num / den`, the even one of two. -/
def roundDiv (num den : Nat) : Nat :=
  let quotient := num / den
  let twice := 2 * (num % den)
  if twice < den then quotient
  else if den < twice then quotient + 1
  else quotient + quotient % 2

def inUnits (num den : Nat) (unit : Int) : Nat × Nat :=
  if unit < 0 then (num * Nat.pow 2 (-unit).toNat, den) else (num, den * Nat.pow 2 unit.toNat)

/-- The exponent of the unit in which `num / den` has 53 binary digits, or the least one there is. -/
def unitExponent (num den : Nat) : Int :=
  if num = 0 then -1074
  else
    let unit := max ((num.log2 : Int) - den.log2 - 53) (-1074)
    let (n, d) := inUnits num den unit
    if n < d * Nat.pow 2 53 then unit else unit + 1

/-- The finite double nearest to `num / den`, if the quotient does not round beyond the largest. -/
def ofRatio? (negative : Bool) (num den : Nat) : Option Binary64 :=
  let unit := unitExponent num den
  let (n, d) := inUnits num den unit
  let rank := (unit + 1074).toNat * Nat.pow 2 52 + roundDiv n d
  if h : rank < 0x7FF0000000000000 then some ⟨negative, rank, h⟩ else none

def mul? (x y : Binary64) : Option Binary64 :=
  ofRatio? (x.negative != y.negative) (x.ratio.1 * y.ratio.1) (x.ratio.2 * y.ratio.2)

/-- The quotient by a number other than zero. -/
def div? (x y : Binary64) : Option Binary64 :=
  ofRatio? (x.negative != y.negative) (x.ratio.1 * y.ratio.2) (x.ratio.2 * y.ratio.1)

def withSign (negative : Bool) (x : Binary64) : Binary64 := { x with negative }

end Binary64

end PivotTable
