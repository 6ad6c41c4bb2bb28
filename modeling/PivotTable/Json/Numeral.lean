import PivotTable.Json.Basic

/-!
# Numerals of JSON texts

A numeral without fraction and exponent is an integer if a 64-bit word holds it; every other numeral is a
double. The double is found by a short cut: the leading digits that fit a 64-bit word are taken as they
are, the others only count, and the result is scaled once by a power of ten. It is the nearest double
whenever the digits fit 53 bits and the power is at most `10 ^ 22`, and close to it otherwise.
-/
namespace PivotTable.Json

structure Numeral where
  negative : Bool
  whole : List Char
  fraction : List Char
  exponent : Option (Bool × List Char)
deriving DecidableEq

namespace Numeral

def wordLimit : Nat := 18446744073709551616

/-- A significand that fits a word, and the number of digits that were left out or read into it. -/
structure Significand where
  value : Nat
  count : Nat
  full : Bool

/-- Reads a digit while the word holds it. After that a digit counts only if `counted`. -/
def Significand.push (counted : Bool) (s : Significand) (c : Char) : Significand :=
  let next := s.value * 10 + (c.toNat - '0'.toNat)
  if !s.full && decide (next < wordLimit) then ⟨next, if counted then s.count else s.count + 1, false⟩
  else ⟨s.value, if counted then s.count + 1 else s.count, true⟩

def wholePart (n : Numeral) : Significand := n.whole.foldl (.push true) ⟨0, 0, false⟩

/-- The whole part with the digits of the fraction that still fit, and their number. -/
def withFraction (n : Numeral) : Significand :=
  n.fraction.foldl (.push false) ⟨n.wholePart.value, 0, false⟩

def powerOfTen (k : Nat) : Binary64 := (Binary64.ofRatio? false (Nat.pow 10 k) 1).getD (.zero false)

/-- Divides by `10 ^ k`, in several steps where the power itself is no double. -/
def scaleDown : Nat → Binary64 → Nat → Option Binary64
  | 0, _, _ => some (.zero false)
  | fuel + 1, x, k =>
    if x.isZero then some x
    else if k ≤ 308 then x.div? (powerOfTen k)
    else do scaleDown fuel (← x.div? (powerOfTen 308)) (k - 308)

/-- `significand * 10 ^ exponent`; three divisions by `10 ^ 308` leave nothing of a word. -/
def scaled? (significand : Nat) (exponent : Int) : Option Binary64 := do
  let x ← Binary64.ofRatio? false significand 1
  if exponent < 0 then scaleDown 4 x (-exponent).toNat
  else if exponent ≤ 308 then x.mul? (powerOfTen exponent.toNat)
  else if x.isZero then some x
  else none

/-- An exponent that a 32-bit word does not hold is taken to be unbounded. -/
def real? (n : Numeral) : Option Binary64 :=
  let s := n.withFraction
  let shift : Int := n.wholePart.count - s.count
  let magnitude :=
    match n.exponent with
    | none => scaled? s.value shift
    | some (negative, digits) =>
      let e := Nat.ofDigitChars 10 digits 0
      if 2147483647 < e then if negative ∨ s.value = 0 then some (.zero false) else none
      else scaled? s.value (if negative then shift - e else shift + e)
  magnitude.map (.withSign n.negative)

def value? (n : Numeral) : Option Number :=
  let whole := n.wholePart
  let integer : Int := if n.negative then -whole.value else whole.value
  if h : n.fraction = [] ∧ n.exponent = none ∧ whole.full = false ∧
      ¬(n.negative ∧ whole.value = 0) ∧
      -9223372036854775808 ≤ integer ∧ integer ≤ 18446744073709551615 then
    some (.integer integer h.2.2.2.2)
  else n.real?.map .real

end Numeral

end PivotTable.Json
