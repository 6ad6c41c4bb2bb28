import PivotTable.Decimal.Numeral
import PivotTable.Proofs.Decimal.Shortest

/-!
# Numerals tell doubles apart

Whether positional or with an exponent, the numeral of a decimal denotes the number that the decimal denotes;
what it denotes is told by the scanners that also read the numerals in text cells. The shortest decimal tells
the magnitude of a double, so its numeral with the sign in front tells the double.
-/
namespace PivotTable

/-- A prefix whose characters satisfy `p`, in front of a character that does not. -/
theorem takeWhile_append_of_head {p : Char → Bool} {s rest : List Char} (hs : ∀ c ∈ s, p c = true)
    (hrest : ∀ c ∈ rest.head?, p c = false) :
    (s ++ rest).takeWhile p = s ∧ (s ++ rest).dropWhile p = rest := by
  rw [List.takeWhile_append_of_pos hs, List.dropWhile_append_of_pos hs]
  cases rest with
  | nil => simp
  | cons c rest =>
    have hc : p c = false := hrest c rfl
    simp [hc]

namespace Decimal

/-- The number that a numeral without a sign denotes. -/
def Denotes (s : List Char) (q : ℚ) : Prop :=
  ∃ whole fraction rest exponent, takeMantissa s = (whole, fraction, rest) ∧
    exponentPart? rest = some exponent ∧
    value ⟨Nat.ofDigitChars 10 (whole ++ fraction) 0, exponent - fraction.length⟩ = q

section

variable {s whole fraction rest ds : List Char} {q r : ℚ} {k : ℤ}

theorem Denotes.unique (hq : Denotes s q) (hr : Denotes s r) : q = r := by
  obtain ⟨whole, fraction, rest, exponent, hmantissa, hexponent, rfl⟩ := hq
  obtain ⟨whole', fraction', rest', exponent', hmantissa', hexponent', rfl⟩ := hr
  obtain ⟨rfl, rfl, rfl⟩ : whole = whole' ∧ fraction = fraction' ∧ rest = rest' := by
    simpa [hmantissa] using hmantissa'
  rw [hexponent] at hexponent'
  rw [Option.some.inj hexponent']

theorem Denotes.head?_ne (h : Denotes s q) : s.head? ≠ some '-' := by
  rintro hhead
  obtain ⟨rest, rfl⟩ : ∃ rest, s = '-' :: rest := List.head?_eq_some_iff.1 hhead
  obtain ⟨whole, fraction, rest', exponent, hmantissa, hexponent, -⟩ := h
  have hnone : takeMantissa ('-' :: rest) = ([], [], '-' :: rest) := by
    simp [takeMantissa]
  have hrest : '-' :: rest = rest' := by
    rw [hnone] at hmantissa
    exact congrArg (fun taken => taken.2.2) hmantissa
  rw [← hrest] at hexponent
  simp [exponentPart?] at hexponent

theorem takeMantissa_point (hwhole : ∀ c ∈ whole, c.isDigit = true)
    (hfraction : ∀ c ∈ fraction, c.isDigit = true) (hrest : ∀ c ∈ rest.head?, c.isDigit = false) :
    takeMantissa (whole ++ '.' :: (fraction ++ rest)) = (whole, fraction, rest) := by
  have hpoint : ∀ c ∈ ('.' :: (fraction ++ rest)).head?, c.isDigit = false := by
    rintro c ⟨⟩
    rfl
  obtain ⟨htake, hdrop⟩ := takeWhile_append_of_head hwhole hpoint
  obtain ⟨htake', hdrop'⟩ := takeWhile_append_of_head hfraction hrest
  simp only [takeMantissa, htake, hdrop, htake', hdrop']

theorem takeMantissa_whole (hwhole : ∀ c ∈ whole, c.isDigit = true)
    (hrest : ∀ c ∈ rest.head?, c.isDigit = false ∧ c ≠ '.') :
    takeMantissa (whole ++ rest) = (whole, [], rest) := by
  obtain ⟨htake, hdrop⟩ := takeWhile_append_of_head hwhole fun c hc => (hrest c hc).1
  simp only [takeMantissa, htake, hdrop]
  split
  · next rest' => exact absurd rfl (hrest '.' rfl).2
  · rfl

theorem exponentPart?_written (k : ℤ) :
    exponentPart? ('e' :: (if k < 0 then '-' else '+') :: Nat.toDigits 10 k.natAbs) = some k := by
  have hdigits : (Nat.toDigits 10 k.natAbs).all Char.isDigit = true :=
    List.all_eq_true.2 fun _ => Nat.isDigit_of_mem_toDigits (by decide) (by decide)
  have hvalue : Nat.ofDigitChars 10 (Nat.toDigits 10 k.natAbs) 0 = k.natAbs :=
    Nat.ofDigitChars_ten_toDigits
  by_cases hneg : k < 0
  · simp [exponentPart?, takeSign, hneg, Nat.toDigits_ne_nil, hdigits, hvalue, -Nat.cast_natAbs]
    omega
  · simp [exponentPart?, takeSign, hneg, Nat.toDigits_ne_nil, hdigits, hvalue, -Nat.cast_natAbs]
    omega

theorem ofDigitChars_zeros_append (n : ℕ) (ds : List Char) :
    Nat.ofDigitChars 10 (List.replicate n '0' ++ ds) 0 = Nat.ofDigitChars 10 ds 0 := by
  rw [Nat.ofDigitChars_append, Nat.ofDigitChars_replicate_zero, Nat.mul_zero]

theorem ofDigitChars_append_zeros (ds : List Char) (n : ℕ) :
    Nat.ofDigitChars 10 (ds ++ List.replicate n '0') 0 = 10 ^ n * Nat.ofDigitChars 10 ds 0 := by
  rw [Nat.ofDigitChars_append, Nat.ofDigitChars_replicate_zero]

theorem denotes_point (hwhole : ∀ c ∈ whole, c.isDigit = true)
    (hfraction : ∀ c ∈ fraction, c.isDigit = true) : Denotes (whole ++ '.' :: fraction)
      (value ⟨Nat.ofDigitChars 10 (whole ++ fraction) 0, -fraction.length⟩) := by
  have hmantissa : takeMantissa (whole ++ '.' :: (fraction ++ [])) = (whole, fraction, []) :=
    takeMantissa_point hwhole hfraction (by simp)
  rw [List.append_nil] at hmantissa
  exact ⟨_, _, _, 0, hmantissa, rfl, by rw [zero_sub]⟩

/-- Zeros behind the digits are made up for by the exponent. -/
theorem value_append_zeros (ds : List Char) (n : ℕ) (e : ℤ) :
    value ⟨Nat.ofDigitChars 10 (ds ++ List.replicate n '0') 0, e⟩ =
      value ⟨Nat.ofDigitChars 10 ds 0, e + n⟩ := by
  unfold value
  rw [ofDigitChars_append_zeros, zpow_add₀ (by norm_num), zpow_natCast]
  push_cast
  ring

end

section

variable {ds : List Char} {k : ℤ}

theorem isDigit_of_mem_zeros (n : ℕ) : ∀ c ∈ List.replicate n '0', c.isDigit = true := by
  intro c hc
  rw [List.eq_of_mem_replicate hc]
  rfl

theorem denotes_below_one (hds : ∀ c ∈ ds, c.isDigit = true) (hneg : k < 0) :
    Denotes (Binary64.positional ds k) (value ⟨Nat.ofDigitChars 10 ds 0, k + 1 - ds.length⟩) := by
  let zeros := List.replicate (-k - 1).toNat '0'
  have hwritten : Binary64.positional ds k = List.replicate 1 '0' ++ '.' :: (zeros ++ ds) := by
    simp [Binary64.positional, hneg, zeros]
  have hfraction : ∀ c ∈ zeros ++ ds, c.isDigit = true :=
    fun c hc => (List.mem_append.1 hc).elim (isDigit_of_mem_zeros _ c) (hds c)
  have hdigits : Nat.ofDigitChars 10 (List.replicate 1 '0' ++ (zeros ++ ds)) 0 =
      Nat.ofDigitChars 10 ds 0 := by
    rw [ofDigitChars_zeros_append, ofDigitChars_zeros_append]
  have hexponent : -((zeros ++ ds).length : ℤ) = k + 1 - ds.length := by
    rw [List.length_append, List.length_replicate]
    omega
  rw [hwritten, ← hdigits, ← hexponent]
  exact denotes_point (isDigit_of_mem_zeros 1) hfraction

/-- All digits stand in front of the point, with zeros up to it. -/
theorem denotes_padded (hds : ∀ c ∈ ds, c.isDigit = true) (hnonneg : ¬ k < 0)
    (hshort : ds.length ≤ k.toNat + 1) :
    Denotes (Binary64.positional ds k) (value ⟨Nat.ofDigitChars 10 ds 0, k + 1 - ds.length⟩) := by
  let gap := k.toNat + 1 - ds.length
  have hwritten : Binary64.positional ds k =
      (ds ++ List.replicate gap '0') ++ '.' :: List.replicate 1 '0' := by
    simp [Binary64.positional, hnonneg, List.take_of_length_le hshort, List.drop_of_length_le hshort, gap]
  have hwhole : ∀ c ∈ ds ++ List.replicate gap '0', c.isDigit = true :=
    fun c hc => (List.mem_append.1 hc).elim (hds c) (isDigit_of_mem_zeros _ c)
  have hpadded : ds ++ List.replicate gap '0' ++ List.replicate 1 '0' =
      ds ++ List.replicate (gap + 1) '0' := by
    rw [List.append_assoc, List.replicate_append_replicate]
  have hexponent : -((List.replicate 1 '0').length : ℤ) + (gap + 1 : ℕ) = k + 1 - ds.length := by
    rw [List.length_replicate]
    omega
  rw [hwritten, ← hexponent, ← value_append_zeros, ← hpadded]
  exact denotes_point hwhole (isDigit_of_mem_zeros 1)

/-- The point stands among the digits. -/
theorem denotes_divided (hds : ∀ c ∈ ds, c.isDigit = true) (hnonneg : ¬ k < 0)
    (hlong : ¬ ds.length ≤ k.toNat + 1) :
    Denotes (Binary64.positional ds k) (value ⟨Nat.ofDigitChars 10 ds 0, k + 1 - ds.length⟩) := by
  have hfull : ds.drop (k.toNat + 1) ≠ [] ∧ k.toNat + 1 - min (k.toNat + 1) ds.length = 0 := by
    rw [Ne, List.drop_eq_nil_iff]
    omega
  have hwritten : Binary64.positional ds k =
      ds.take (k.toNat + 1) ++ '.' :: ds.drop (k.toNat + 1) := by
    simp [Binary64.positional, hnonneg, hfull]
  have hdigits : ds.take (k.toNat + 1) ++ ds.drop (k.toNat + 1) = ds := List.take_append_drop _ _
  have hexponent : -((ds.drop (k.toNat + 1)).length : ℤ) = k + 1 - ds.length := by
    rw [List.length_drop]
    omega
  have hwhole : ∀ c ∈ ds.take (k.toNat + 1), c.isDigit = true :=
    fun c hc => hds c (List.mem_of_mem_take hc)
  have hfraction : ∀ c ∈ ds.drop (k.toNat + 1), c.isDigit = true :=
    fun c hc => hds c (List.mem_of_mem_drop hc)
  have hdenotes := denotes_point hwhole hfraction
  rwa [← hwritten, hdigits, hexponent] at hdenotes

/-- The digits `ds`, of which the first stands for `10 ^ k`, in positional notation. -/
theorem denotes_positional (hds : ∀ c ∈ ds, c.isDigit = true) (k : ℤ) :
    Denotes (Binary64.positional ds k) (value ⟨Nat.ofDigitChars 10 ds 0, k + 1 - ds.length⟩) := by
  by_cases hneg : k < 0
  · exact denotes_below_one hds hneg
  · by_cases hshort : ds.length ≤ k.toNat + 1
    · exact denotes_padded hds hneg hshort
    · exact denotes_divided hds hneg hshort

/-- The same number with one digit in front of the point and an exponent. -/
theorem denotes_scientific (hds : ∀ c ∈ ds, c.isDigit = true) (k : ℤ) :
    Denotes (Binary64.scientific ds k) (value ⟨Nat.ofDigitChars 10 ds 0, k + 1 - ds.length⟩) := by
  let rest : List Char := 'e' :: (if k < 0 then '-' else '+') :: Nat.toDigits 10 k.natAbs
  have hexponentPart : exponentPart? rest = some k := exponentPart?_written k
  have hrest : ∀ c ∈ rest.head?, c.isDigit = false ∧ c ≠ '.' := by
    rintro c ⟨⟩
    decide
  by_cases hshort : ds.length ≤ 1
  · have hwritten : Binary64.scientific ds k = ds ++ rest := by
      simp [Binary64.scientific, hshort, List.take_of_length_le hshort, rest]
    refine ⟨_, _, _, k, hwritten ▸ takeMantissa_whole hds hrest, hexponentPart, ?_⟩
    rw [List.append_nil]
    cases ds with
    | nil => simp [value]
    | cons c ds =>
      have hexponent : k - (([] : List Char).length : ℤ) = k + 1 - (c :: ds).length := by
        simp only [List.length_cons, List.length_nil] at hshort ⊢
        omega
      rw [hexponent]
  · have hwritten : Binary64.scientific ds k = ds.take 1 ++ '.' :: (ds.drop 1 ++ rest) := by
      simp [Binary64.scientific, hshort, rest]
    refine ⟨_, _, _, k, hwritten ▸ takeMantissa_point (fun c hc => hds c (List.mem_of_mem_take hc))
      (fun c hc => hds c (List.mem_of_mem_drop hc)) fun c hc => (hrest c hc).1, hexponentPart, ?_⟩
    have hexponent : k - ((ds.drop 1).length : ℤ) = k + 1 - ds.length := by
      rw [List.length_drop]
      omega
    rw [List.take_append_drop, hexponent]

end

/-- The digits of a decimal without the zeros at their end. -/
def significant (d : Decimal) : List Char :=
  ((Nat.toDigits 10 d.digits).reverse.dropWhile (· == '0')).reverse

/-- What the first digit of a decimal stands for, as a power of ten. -/
def leading (d : Decimal) : ℤ := d.exponent + (Nat.toDigits 10 d.digits).length - 1

def unsignedChars (d : Decimal) : List Char :=
  if -5 ≤ d.leading ∧ d.leading ≤ 15 then Binary64.positional d.significant d.leading
  else Binary64.scientific d.significant d.leading

theorem exists_significant_append (d : Decimal) :
    ∃ n, Nat.toDigits 10 d.digits = d.significant ++ List.replicate n '0' := by
  let written := Nat.toDigits 10 d.digits
  let zeros := written.reverse.takeWhile (· == '0')
  refine ⟨zeros.length, ?_⟩
  have hzeros : zeros.reverse = List.replicate zeros.length '0' := by
    refine List.eq_replicate_iff.2 ⟨List.length_reverse, fun c hc => ?_⟩
    exact beq_iff_eq.1 (List.all_eq_true.1 List.all_takeWhile c (List.mem_reverse.1 hc))
  calc written = (zeros ++ written.reverse.dropWhile (· == '0')).reverse := by
        rw [List.takeWhile_append_dropWhile, List.reverse_reverse]
    _ = d.significant ++ List.replicate zeros.length '0' := by
        rw [List.reverse_append, hzeros]
        rfl

theorem isDigit_of_mem_significant (d : Decimal) : ∀ c ∈ d.significant, c.isDigit = true := by
  obtain ⟨n, hn⟩ := d.exists_significant_append
  intro c hc
  have hwritten : c ∈ Nat.toDigits 10 d.digits := hn ▸ List.mem_append_left _ hc
  exact Nat.isDigit_of_mem_toDigits (by decide) (by decide) hwritten

theorem value_significant (d : Decimal) :
    value ⟨Nat.ofDigitChars 10 d.significant 0, d.leading + 1 - d.significant.length⟩ = d.value := by
  obtain ⟨n, hn⟩ := d.exists_significant_append
  have hexponent : d.leading + 1 - d.significant.length = d.exponent + n := by
    have hlength := congrArg List.length hn
    rw [List.length_append, List.length_replicate] at hlength
    unfold leading
    omega
  have hdigits : Nat.ofDigitChars 10 (d.significant ++ List.replicate n '0') 0 = d.digits := by
    rw [← hn, Nat.ofDigitChars_ten_toDigits]
  rw [hexponent, ← value_append_zeros, hdigits]

/-- A numeral denotes what it is written for. -/
theorem denotes_unsignedChars (d : Decimal) : Denotes d.unsignedChars d.value := by
  rw [← d.value_significant, unsignedChars]
  split
  · exact denotes_positional d.isDigit_of_mem_significant d.leading
  · exact denotes_scientific d.isDigit_of_mem_significant d.leading

/-- The characters of numerals. -/
def isNumeric (c : Char) : Bool := c.isDigit || c == '-' || c == '+' || c == '.' || c == 'e'

theorem isNumeric_of_isDigit {c : Char} (h : c.isDigit = true) : isNumeric c = true := by
  simp [isNumeric, h]

theorem isNumeric_of_mem_unsignedChars (d : Decimal) : ∀ c ∈ d.unsignedChars, isNumeric c = true := by
  have hdigits : ∀ c ∈ d.significant, isNumeric c = true :=
    fun c hc => isNumeric_of_isDigit (d.isDigit_of_mem_significant c hc)
  have hexponent : ∀ c ∈ Nat.toDigits 10 d.leading.natAbs, isNumeric c = true :=
    fun c hc => isNumeric_of_isDigit (Nat.isDigit_of_mem_toDigits (by decide) (by decide) hc)
  have hzeros (n : ℕ) : ∀ c ∈ List.replicate n '0', isNumeric c = true :=
    fun c hc => isNumeric_of_isDigit (isDigit_of_mem_zeros n c hc)
  have htake (n : ℕ) : ∀ c ∈ d.significant.take n, isNumeric c = true :=
    fun c hc => hdigits c (List.mem_of_mem_take hc)
  have hdrop (n : ℕ) : ∀ c ∈ d.significant.drop n, isNumeric c = true :=
    fun c hc => hdigits c (List.mem_of_mem_drop hc)
  unfold unsignedChars Binary64.positional Binary64.scientific
  split
  · split
    · simp only [List.forall_mem_cons, List.forall_mem_append]
      exact ⟨rfl, rfl, hzeros _, hdigits⟩
    · simp only [List.forall_mem_append, List.forall_mem_cons]
      refine ⟨⟨htake _, hzeros _⟩, rfl, ?_⟩
      split
      · exact hzeros 1
      · exact hdrop _
  · simp only [List.forall_mem_append, List.forall_mem_cons]
    refine ⟨⟨htake 1, ?_⟩, rfl, ?_, hexponent⟩
    · split
      · exact List.forall_mem_nil _
      · exact List.forall_mem_cons.2 ⟨rfl, hdrop 1⟩
    · split <;> rfl

/-- Unlike an integer, it has a point or an exponent. -/
theorem point_or_exponent_mem_unsignedChars (d : Decimal) :
    '.' ∈ d.unsignedChars ∨ 'e' ∈ d.unsignedChars := by
  unfold unsignedChars
  split
  · left
    unfold Binary64.positional
    split <;> simp
  · right
    simp [Binary64.scientific]

end Decimal

namespace Binary64

theorem numeralChars_eq (x : Binary64) :
    x.numeralChars = (if x.negative then ['-'] else []) ++ x.shortest.unsignedChars := rfl

/-- Different doubles have different numerals. -/
theorem numeralChars_injective {x y : Binary64} (h : x.numeralChars = y.numeralChars) : x = y := by
  have hx := x.shortest.denotes_unsignedChars
  have hy := y.shortest.denotes_unsignedChars
  have hboth : x.negative = y.negative ∧ x.shortest.unsignedChars = y.shortest.unsignedChars := by
    rw [numeralChars_eq, numeralChars_eq] at h
    cases hxs : x.negative <;> cases hys : y.negative
    · simpa [hxs, hys] using h
    · have hhead := hx.head?_ne
      rw [hxs, hys] at h
      exact absurd (congrArg List.head? h) hhead
    · have hhead := hy.head?_ne
      rw [hxs, hys] at h
      exact absurd (congrArg List.head? h.symm) hhead
    · simpa [hxs, hys] using h
  have hrank : x.rank = y.rank := by
    rw [← hboth.2] at hy
    exact rank_eq_of_value_shortest_eq (hx.unique hy)
  cases x
  cases y
  simp_all

theorem isNumeric_of_mem_numeralChars {x : Binary64} {c : Char} (h : c ∈ x.numeralChars) :
    Decimal.isNumeric c = true := by
  rw [numeralChars_eq] at h
  rcases List.mem_append.1 h with hsign | hbody
  · split at hsign
    · rw [List.mem_singleton.1 hsign]
      rfl
    · cases hsign
  · exact x.shortest.isNumeric_of_mem_unsignedChars c hbody

theorem point_or_exponent_mem_numeralChars (x : Binary64) :
    '.' ∈ x.numeralChars ∨ 'e' ∈ x.numeralChars := by
  rw [numeralChars_eq]
  exact x.shortest.point_or_exponent_mem_unsignedChars.imp (List.mem_append_right _)
    (List.mem_append_right _)

end Binary64
end PivotTable
