import Mathlib.Algebra.Order.Field.Power
import Mathlib.Algebra.Order.Field.Rat
import Mathlib.Tactic.Linarith
import Mathlib.Tactic.Positivity
import Mathlib.Tactic.Ring
import PivotTable.Decimal.Shortest

/-!
# Rounding intervals

The decimals that round to a double lie between the points half-way to its neighbours. The upper point of
one magnitude is the lower point of the next, and of two neighbours only one is even, so no decimal rounds
to two magnitudes. Main statement: the shortest decimal rounds to the double it is made for, and hence tells
its magnitude.
-/
namespace PivotTable

/-- The number that a decimal denotes. -/
def Decimal.value (d : Decimal) : ℚ := d.digits * 10 ^ d.exponent

namespace Binary64

/-- The point half-way to the next smaller magnitude. -/
def lower (x : Binary64) : ℚ := x.lowerHalfway * 2 ^ (x.exponent - 2)

/-- The point half-way to the next greater magnitude. -/
def upper (x : Binary64) : ℚ := x.upperHalfway * 2 ^ (x.exponent - 2)

variable {x y : Binary64} {d : Decimal}

/-- A power with a negative exponent is made up for by the opposite one. -/
theorem zpow_mul_pow_toNat {a : ℚ} (ha : a ≠ 0) (n : ℤ) : a ^ n * a ^ (-n).toNat = a ^ n.toNat := by
  rw [← zpow_natCast a (-n).toNat, ← zpow_natCast a n.toNat, ← zpow_add₀ ha]
  congr 1
  omega

theorem quarterUnit_cast (x : Binary64) (e : ℤ) :
    ((x.quarterUnit e).1 : ℚ) * 10 ^ e = (x.quarterUnit e).2 * 2 ^ (x.exponent - 2) := by
  have htwo := zpow_mul_pow_toNat (a := 2) (by norm_num) (x.exponent - 2)
  have hten := zpow_mul_pow_toNat (a := 10) (by norm_num) e
  simp only [quarterUnit, Nat.pow_eq, Nat.cast_mul, Nat.cast_pow, Nat.cast_ofNat]
  rw [← htwo, ← hten]
  ring

theorem quarterUnit_pos (x : Binary64) (e : ℤ) : 0 < (x.quarterUnit e).2 := by
  simp only [quarterUnit, Nat.pow_eq]
  positivity

/-- A point in quarters of the unit and a point of the grid, both brought to the same measure. -/
theorem scaled_points (x : Binary64) (e : ℤ) (a b : ℕ) :
    ((a * (x.quarterUnit e).1 : ℕ) : ℚ) * 10 ^ e =
        (x.quarterUnit e).2 * (a * 2 ^ (x.exponent - 2)) ∧
      ((b * (x.quarterUnit e).2 : ℕ) : ℚ) * 10 ^ e = (x.quarterUnit e).2 * (b * 10 ^ e) := by
  push_cast
  refine ⟨?_, by ring⟩
  rw [mul_assoc, quarterUnit_cast]
  ring

theorem mul_quarterUnit_le_iff (x : Binary64) (e : ℤ) (a b : ℕ) :
    (a * (x.quarterUnit e).1 ≤ b * (x.quarterUnit e).2 ↔
        (a : ℚ) * 2 ^ (x.exponent - 2) ≤ b * 10 ^ e) ∧
      (b * (x.quarterUnit e).2 ≤ a * (x.quarterUnit e).1 ↔
        (b : ℚ) * 10 ^ e ≤ a * 2 ^ (x.exponent - 2)) := by
  have hten : (0 : ℚ) < 10 ^ e := by positivity
  have hden : (0 : ℚ) < (x.quarterUnit e).2 := Nat.cast_pos.2 (x.quarterUnit_pos e)
  obtain ⟨ha, hb⟩ := x.scaled_points e a b
  constructor
  · rw [← @Nat.cast_le ℚ, ← mul_le_mul_iff_left₀ hten, ha, hb, mul_le_mul_iff_right₀ hden]
  · rw [← @Nat.cast_le ℚ, ← mul_le_mul_iff_left₀ hten, ha, hb, mul_le_mul_iff_right₀ hden]

/-- The endpoints of the interval belong to it when the significand is even. -/
theorem isRoundedFrom_iff : x.isRoundedFrom d = true ↔
    (x.lower ≤ d.value ∧ d.value ≤ x.upper) ∧
      (x.significand % 2 ≠ 0 → d.value ≠ x.lower ∧ d.value ≠ x.upper) := by
  have hlow := x.mul_quarterUnit_le_iff d.exponent x.lowerHalfway d.digits
  have hhigh := x.mul_quarterUnit_le_iff d.exponent x.upperHalfway d.digits
  simp only [isRoundedFrom]
  by_cases heven : x.significand % 2 = 0
  · rw [if_pos heven, decide_eq_true_iff, hlow.1, hhigh.2]
    exact ⟨fun h => ⟨h, fun hodd => absurd heven hodd⟩, fun h => h.1⟩
  · rw [if_neg heven, decide_eq_true_iff, ← not_le, ← not_le, hlow.2, hhigh.1, not_le, not_le]
    constructor
    · rintro ⟨hl, hu⟩
      exact ⟨⟨hl.le, hu.le⟩, fun _ => ⟨hl.ne', hu.ne⟩⟩
    · rintro ⟨⟨hl, hu⟩, hne⟩
      exact ⟨lt_of_le_of_ne hl (hne heven).1.symm, lt_of_le_of_ne hu (hne heven).2⟩

/-- The hidden bit of a significand. -/
theorem two_pow_52 : Nat.pow 2 52 = 4503599627370496 := rfl

theorem significand_pos (h : x.rank ≠ 0) : 0 < x.significand := by
  unfold significand
  split
  · omega
  · rw [two_pow_52]
    omega

theorem significand_mod_two (x : Binary64) : x.significand % 2 = x.rank % 2 := by
  unfold significand
  rw [two_pow_52]
  split <;> omega

/-- The smallest magnitudes have one unit. -/
theorem parts_of_le (x : Binary64) (h : x.rank ≤ 4503599627370496) :
    x.significand = x.rank ∧ x.exponent = -1074 := by
  unfold significand exponent
  rw [two_pow_52]
  constructor <;> split <;> omega

theorem parts_of_ge (x : Binary64) (h : 4503599627370496 ≤ x.rank) :
    x.significand = 4503599627370496 + x.rank % 4503599627370496 ∧
      x.exponent = (x.rank / 4503599627370496 : ℕ) - 1075 := by
  unfold significand exponent
  rw [two_pow_52]
  constructor <;> split <;> omega

theorem lower_lt_upper (x : Binary64) : x.lower < x.upper := by
  have hpow : (0 : ℚ) < 2 ^ (x.exponent - 2) := by positivity
  have hlt : x.lowerHalfway < x.upperHalfway := by
    unfold lowerHalfway upperHalfway
    split <;> omega
  exact mul_lt_mul_of_pos_right (Nat.cast_lt.2 hlt) hpow

/-- The magnitudes of consecutive ranks share the point half-way between them. Above the smallest ones the
unit doubles with every power of two, and only there the lower neighbour is nearer than the upper one. -/
theorem lower_eq_upper (h : y.rank = x.rank + 1) : y.lower = x.upper := by
  by_cases hsmall : x.rank < 4503599627370496
  · obtain ⟨hxs, hxe⟩ := x.parts_of_le (by omega)
    obtain ⟨hys, hye⟩ := y.parts_of_le (by omega)
    have hhalfway : y.lowerHalfway = x.upperHalfway := by
      unfold lowerHalfway upperHalfway
      rw [if_neg (by omega)]
      omega
    rw [lower, upper, hhalfway, hxe, hye]
  · obtain ⟨hxs, hxe⟩ := x.parts_of_ge (by omega)
    obtain ⟨hys, hye⟩ := y.parts_of_ge (by omega)
    by_cases hlast : x.rank % 4503599627370496 + 1 = 4503599627370496
    · have hdouble : y.exponent - 2 = (x.exponent - 2) + 1 := by omega
      have hhalfway : y.lowerHalfway * 2 = x.upperHalfway := by
        unfold lowerHalfway upperHalfway
        rw [two_pow_52, if_pos (by omega)]
        omega
      rw [lower, upper, hdouble, zpow_add_one₀ (by norm_num), ← hhalfway]
      push_cast
      ring
    · have hsame : y.exponent = x.exponent := by omega
      have hhalfway : y.lowerHalfway = x.upperHalfway := by
        unfold lowerHalfway upperHalfway
        rw [two_pow_52, if_neg (by omega)]
        omega
      rw [lower, upper, hsame, hhalfway]

theorem upper_le_lower (h : x.rank < y.rank) : x.upper ≤ y.lower := by
  obtain ⟨gap, hgap⟩ := Nat.exists_eq_add_of_lt h
  induction gap generalizing y with
  | zero => exact (lower_eq_upper hgap).ge
  | succ gap ih =>
    have hbelow : x.rank + gap + 1 < 0x7FF0000000000000 := by
      have hlimit := y.rank_lt
      omega
    let z : Binary64 := ⟨y.negative, x.rank + gap + 1, hbelow⟩
    have hz : y.lower = z.upper := lower_eq_upper hgap
    rw [hz]
    exact (ih (y := z) (by change _ < _ + _; omega) rfl).trans z.lower_lt_upper.le

/-- No decimal rounds to two magnitudes. -/
theorem rank_eq_of_isRoundedFrom {e : Decimal} (hx : x.isRoundedFrom d = true)
    (hy : y.isRoundedFrom e = true) (hvalue : d.value = e.value) : x.rank = y.rank := by
  wlog hle : x.rank ≤ y.rank generalizing x y d e
  · exact (this hy hx hvalue.symm (by omega)).symm
  obtain ⟨⟨-, hxu⟩, hxodd⟩ := isRoundedFrom_iff.1 hx
  obtain ⟨⟨hyl, -⟩, hyodd⟩ := isRoundedFrom_iff.1 hy
  by_contra hne
  have hlt : x.rank < y.rank := by omega
  -- both intervals reach the decimal, so they meet in it
  have hmeet : x.upper = y.lower := le_antisymm (upper_le_lower hlt) (hyl.trans (hvalue ▸ hxu))
  have hxe : d.value = x.upper := le_antisymm hxu (hmeet.le.trans (hyl.trans hvalue.ge))
  have hye : e.value = y.lower := by rw [← hvalue, hxe, hmeet]
  have hxeven : x.significand % 2 = 0 := by
    by_contra hodd
    exact (hxodd hodd).2 hxe
  have hyeven : y.significand % 2 = 0 := by
    by_contra hodd
    exact (hyodd hodd).1 hye
  rw [significand_mod_two] at hxeven hyeven
  -- so neither is the next one to the other, and a whole interval lies between them
  have hbetween : x.rank + 1 < 0x7FF0000000000000 := by
    have hlimit := y.rank_lt
    omega
  let z : Binary64 := ⟨false, x.rank + 1, hbetween⟩
  have hzl : z.lower = x.upper := lower_eq_upper rfl
  have hzu : z.upper ≤ y.lower := upper_le_lower (show x.rank + 1 < y.rank by omega)
  have hz := z.lower_lt_upper
  linarith

theorem value_exactDecimal (x : Binary64) : x.exactDecimal.value = x.significand * 2 ^ x.exponent := by
  unfold exactDecimal Decimal.value
  split
  · next hneg =>
    -- below zero `10 ^ e = 2 ^ e * 5 ^ e`, and the digits make up for the fives
    have hfive := zpow_mul_pow_toNat (a := 5) (by norm_num) x.exponent
    rw [Int.toNat_of_nonpos hneg.le, pow_zero] at hfive
    simp only [Nat.pow_eq, Nat.cast_mul, Nat.cast_pow, Nat.cast_ofNat]
    calc (x.significand : ℚ) * 5 ^ (-x.exponent).toNat * 10 ^ x.exponent
        = x.significand * 5 ^ (-x.exponent).toNat * (2 * 5) ^ x.exponent := by norm_num
      _ = x.significand * 2 ^ x.exponent * (5 ^ x.exponent * 5 ^ (-x.exponent).toNat) := by
        rw [mul_zpow]
        ring
      _ = x.significand * 2 ^ x.exponent := by rw [hfive, mul_one]
  · next hnonneg =>
    have htwo := zpow_mul_pow_toNat (a := 2) (by norm_num) x.exponent
    rw [show (-x.exponent).toNat = 0 by omega, pow_zero, mul_one] at htwo
    simp only [Nat.pow_eq, Nat.cast_mul, Nat.cast_pow, Nat.cast_ofNat, zpow_zero, mul_one]
    rw [htwo]

/-- The exact decimal of a double lies within its interval. -/
theorem isRoundedFrom_exactDecimal (h : x.rank ≠ 0) : x.isRoundedFrom x.exactDecimal = true := by
  have hvalue : x.exactDecimal.value = (4 * x.significand : ℕ) * 2 ^ (x.exponent - 2) := by
    rw [value_exactDecimal, zpow_sub₀ (by norm_num)]
    push_cast
    ring
  have hpow : (0 : ℚ) < 2 ^ (x.exponent - 2) := by positivity
  have hpos := significand_pos h
  have hlow : x.lowerHalfway < 4 * x.significand := by
    unfold lowerHalfway
    split <;> omega
  have hhigh : 4 * x.significand < x.upperHalfway := by
    unfold upperHalfway
    omega
  have hl : x.lower < x.exactDecimal.value := by
    rw [hvalue]
    exact mul_lt_mul_of_pos_right (Nat.cast_lt.2 hlow) hpow
  have hu : x.exactDecimal.value < x.upper := by
    rw [hvalue]
    exact mul_lt_mul_of_pos_right (Nat.cast_lt.2 hhigh) hpow
  exact isRoundedFrom_iff.2 ⟨⟨hl.le, hu.le⟩, fun _ => ⟨hl.ne', hu.ne⟩⟩

theorem isRoundedFrom_shortestFrom (h : x.rank ≠ 0) (fuel : ℕ) (e : ℤ) :
    x.isRoundedFrom (x.shortestFrom fuel e) = true := by
  induction fuel generalizing e with
  | zero => exact isRoundedFrom_exactDecimal h
  | succ fuel ih =>
    rw [shortestFrom]
    split
    · next d hfound => exact List.find?_some hfound
    · exact ih (e - 1)

theorem isRoundedFrom_shortest (h : x.rank ≠ 0) : x.isRoundedFrom x.shortest = true := by
  have hzero : ¬ x.isZero = true := by simpa [isZero] using h
  rw [shortest, if_neg hzero]
  exact isRoundedFrom_shortestFrom h 17 x.leadingExponent

theorem value_shortest_pos (h : x.rank ≠ 0) : 0 < x.shortest.value := by
  have hpos := significand_pos h
  have hlow : 0 < x.lowerHalfway := by
    unfold lowerHalfway
    split <;> omega
  have hlower : 0 < x.lower := by
    unfold lower
    positivity
  exact hlower.trans_le (isRoundedFrom_iff.1 (isRoundedFrom_shortest h)).1.1

theorem value_shortest_zero (h : x.rank = 0) : x.shortest.value = 0 := by
  have hzero : x.isZero = true := by simpa [isZero] using h
  rw [shortest, if_pos hzero, Decimal.value]
  simp

/-- The shortest decimal tells the magnitude. -/
theorem rank_eq_of_value_shortest_eq (h : x.shortest.value = y.shortest.value) : x.rank = y.rank := by
  by_cases hx : x.rank = 0
  · by_cases hy : y.rank = 0
    · rw [hx, hy]
    · have hpos := value_shortest_pos hy
      rw [← h, value_shortest_zero hx] at hpos
      exact absurd hpos (lt_irrefl 0)
  · by_cases hy : y.rank = 0
    · have hpos := value_shortest_pos hx
      rw [h, value_shortest_zero hy] at hpos
      exact absurd hpos (lt_irrefl 0)
    · exact rank_eq_of_isRoundedFrom (isRoundedFrom_shortest hx) (isRoundedFrom_shortest hy) h

end Binary64
end PivotTable
