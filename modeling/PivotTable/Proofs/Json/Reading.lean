import PivotTable.Json.Reader
import PivotTable.Json.Writer

/-!
# Reading what was written

The reader of JSON texts gives back the integers and the lists that the writer wrote. `Scans` is what one
value needs of the reader, whatever stands behind it in the text; numbers have it, and lists have it if
their items have it one level deeper.
-/
namespace PivotTable.Json

/-- A text that cannot prolong a number. -/
def EndsNumber (rest : List Char) : Prop :=
  ∀ c ∈ rest.head?, c.isDigit = false ∧ c ≠ '.' ∧ c ≠ 'e' ∧ c ≠ 'E'

section

variable {rest : List Char} {n : Nat}

theorem takeWhile_isDigit_append (hrest : EndsNumber rest) {digits : List Char}
    (hdigits : ∀ c ∈ digits, c.isDigit = true) :
    (digits ++ rest).takeWhile Char.isDigit = digits ∧
      (digits ++ rest).dropWhile Char.isDigit = rest := by
  rw [List.takeWhile_append_of_pos hdigits, List.dropWhile_append_of_pos hdigits]
  cases rest with
  | nil => simp
  | cons c rest =>
    have hc : c.isDigit = false := (hrest c rfl).1
    simp [hc]

theorem isDigit_of_mem_toDigits {c : Char} (h : c ∈ Nat.toDigits 10 n) : c.isDigit = true :=
  Nat.isDigit_of_mem_toDigits (by decide) (by decide) h

theorem scanDigits?_toDigits (hrest : EndsNumber rest) (n : Nat) :
    scanDigits? (Nat.toDigits 10 n ++ rest) = some (Nat.toDigits 10 n, rest) := by
  obtain ⟨htake, hdrop⟩ := takeWhile_isDigit_append hrest (fun _ => isDigit_of_mem_toDigits (n := n))
  simp only [scanDigits?, htake, hdrop, if_neg Nat.toDigits_ne_nil]

theorem digitChar_ne_zero : ∀ d < 10, 0 < d → Nat.digitChar d ≠ '0' := by decide

/-- No digit stands behind a leading zero. -/
theorem head?_toDigits_ne (h : 0 < n) : (Nat.toDigits 10 n).head? ≠ some '0' := by
  induction n using Nat.base_induction 10 (by decide) with
  | single m hm => simp [Nat.toDigits_of_lt_base hm, digitChar_ne_zero m hm h]
  | digit m k hk hm ih =>
    have hfirst := ih hm
    rw [← Nat.toDigits_append_toDigits (by decide) hm hk]
    cases hdigits : Nat.toDigits 10 m with
    | nil => exact absurd hdigits Nat.toDigits_ne_nil
    | cons c digits =>
      rw [hdigits] at hfirst
      exact hfirst

theorem scanWhole?_toDigits (hrest : EndsNumber rest) (n : Nat) :
    scanWhole? (Nat.toDigits 10 n ++ rest) = some (Nat.toDigits 10 n, rest) := by
  rcases Nat.eq_zero_or_pos n with rfl | hpos
  · rw [Nat.toDigits_zero]
    cases rest with
    | nil => rfl
    | cons c rest => simp [scanWhole?, (hrest c rfl).1]
  · have hhead := head?_toDigits_ne hpos
    have hscan := scanDigits?_toDigits hrest n
    unfold scanWhole?
    split
    · next rest' heq =>
      cases hdigits : Nat.toDigits 10 n with
      | nil => exact absurd hdigits Nat.toDigits_ne_nil
      | cons c digits =>
        rw [hdigits, List.cons_append, List.cons.injEq] at heq
        rw [hdigits, heq.1] at hhead
        exact absurd rfl hhead
    · exact hscan

theorem scanFraction?_of_ends (hrest : EndsNumber rest) : scanFraction? rest = some ([], rest) := by
  unfold scanFraction?
  split
  · next rest' => exact absurd rfl (hrest '.' rfl).2.1
  · rfl

theorem scanExponent?_of_ends (hrest : EndsNumber rest) : scanExponent? rest = some (none, rest) := by
  cases rest with
  | nil => rfl
  | cons c rest =>
    obtain ⟨-, -, he, hE⟩ := hrest c rfl
    simp [scanExponent?, he, hE]

theorem scanNumeral?_intChars (hrest : EndsNumber rest) (i : Int) :
    scanNumeral? (intChars i ++ rest) =
      some (⟨decide (i < 0), Nat.toDigits 10 i.natAbs, [], none⟩, rest) := by
  have hwhole := scanWhole?_toDigits hrest i.natAbs
  have hfraction := scanFraction?_of_ends hrest
  have hexponent := scanExponent?_of_ends hrest
  by_cases hneg : i < 0
  · simp [scanNumeral?, intChars, hneg, hwhole, hfraction, hexponent]
  · cases hdigits : Nat.toDigits 10 i.natAbs with
    | nil => exact absurd hdigits Nat.toDigits_ne_nil
    | cons c digits =>
      have hc : c ≠ '-' := by
        rintro rfl
        have hdigit : '-'.isDigit = true := isDigit_of_mem_toDigits (hdigits ▸ List.mem_cons_self ..)
        cases hdigit
      rw [hdigits, List.cons_append] at hwhole
      simp [scanNumeral?, intChars, hneg, hdigits, hc, hwhole, hfraction, hexponent]

theorem le_ofDigitChars (digits : List Char) (value : Nat) :
    value ≤ Nat.ofDigitChars 10 digits value := by
  rw [Nat.ofDigitChars_eq_ofDigitChars_zero]
  have hpow : 0 < 10 ^ digits.length := Nat.pow_pos (by decide)
  have hle := Nat.le_mul_of_pos_left value hpow
  omega

theorem foldl_push (digits : List Char) (value : Nat)
    (h : Nat.ofDigitChars 10 digits value < Numeral.wordLimit) :
    digits.foldl (Numeral.Significand.push true) ⟨value, 0, false⟩ =
      ⟨Nat.ofDigitChars 10 digits value, 0, false⟩ := by
  induction digits generalizing value with
  | nil => rfl
  | cons c digits ih =>
    rw [Nat.ofDigitChars_cons] at h ⊢
    have hnext : value * 10 + (c.toNat - '0'.toNat) < Numeral.wordLimit := by
      have hle := le_ofDigitChars digits (10 * value + (c.toNat - '0'.toNat))
      omega
    have hpush : Numeral.Significand.push true ⟨value, 0, false⟩ c =
        ⟨value * 10 + (c.toNat - '0'.toNat), 0, false⟩ := by
      simp only [Numeral.Significand.push, hnext, decide_true, Bool.not_false, Bool.and_self, if_true]
    rw [List.foldl_cons, hpush, Nat.mul_comm value 10, ih _ h]

theorem value?_integer {i : Int} (h : -9223372036854775808 ≤ i ∧ i ≤ 18446744073709551615) :
    Numeral.value? ⟨decide (i < 0), Nat.toDigits 10 i.natAbs, [], none⟩ = some (.integer i h) := by
  have hword : i.natAbs < Numeral.wordLimit := by
    unfold Numeral.wordLimit
    omega
  have hwhole : Numeral.wholePart ⟨decide (i < 0), Nat.toDigits 10 i.natAbs, [], none⟩ =
      ⟨i.natAbs, 0, false⟩ := by
    have hvalue : Nat.ofDigitChars 10 (Nat.toDigits 10 i.natAbs) 0 = i.natAbs :=
      Nat.ofDigitChars_ten_toDigits
    rw [Numeral.wholePart, foldl_push _ _ (by rwa [hvalue]), hvalue]
  have hinteger : (if decide (i < 0) then -(i.natAbs : Int) else i.natAbs) = i := by
    split
    · next hneg =>
      have hlt := of_decide_eq_true hneg
      omega
    · next hneg =>
      have hge := of_decide_eq_false (Bool.not_eq_true _ ▸ hneg)
      omega
  have hzero : ¬(decide (i < 0) = true ∧ i.natAbs = 0) := by
    rw [decide_eq_true_iff]
    omega
  unfold Numeral.value?
  simp only [hwhole]
  rw [dif_pos ⟨trivial, trivial, trivial, hzero, by rwa [hinteger]⟩]
  simp only [hinteger]

theorem skipSpace_cons {c : Char} {s : List Char} (h : isSpace c = false) :
    skipSpace (c :: s) = c :: s := by
  rw [skipSpace, List.dropWhile_cons, h]
  rfl

/-- What the reader does with a value that is written in front of another text. -/
structure Scans (depth : Nat) (v : Json) : Prop where
  opens : ∃ c cs, v.chars = c :: cs ∧ isSpace c = false ∧ c ≠ ']'
  scan : ∀ fuel rest, v.chars.length ≤ fuel → EndsNumber rest →
    scanValue fuel depth (v.chars ++ rest) = (Document.ofJson v, some rest)
  denotes : (Document.ofJson v).toJson? = some v

theorem ne_of_opensNumber {c d : Char} (hc : c = '-' ∨ c.isDigit = true)
    (hd : ¬(d = '-' ∨ d.isDigit = true)) : c ≠ d := by
  rintro rfl
  exact hd hc

theorem isSpace_of_opensNumber {c : Char} (hc : c = '-' ∨ c.isDigit = true) : isSpace c = false := by
  have hspaces : c ≠ ' ' ∧ c ≠ '\t' ∧ c ≠ '\n' ∧ c ≠ '\r' := by
    refine ⟨?_, ?_, ?_, ?_⟩ <;> exact ne_of_opensNumber hc (by decide)
  simpa [isSpace, and_assoc] using hspaces

/-- No other kind of value opens with a digit or a sign. -/
theorem scanValue_of_scanNumeral? {fuel depth : Nat} {c : Char} {cs : List Char} {numeral : Numeral}
    {v : Number} (hc : c = '-' ∨ c.isDigit = true)
    (hscan : scanNumeral? (c :: cs) = some (numeral, rest)) (hvalue : numeral.value? = some v) :
    scanValue (fuel + 1) depth (c :: cs) = (.num v, some rest) := by
  have hskip : skipSpace (c :: cs) = c :: cs := skipSpace_cons (isSpace_of_opensNumber hc)
  have hopens : c ≠ 'n' ∧ c ≠ 't' ∧ c ≠ 'f' ∧ c ≠ '"' ∧ c ≠ '[' ∧ c ≠ '\x7b' := by
    refine ⟨?_, ?_, ?_, ?_, ?_, ?_⟩ <;> exact ne_of_opensNumber hc (by decide)
  obtain ⟨hn, ht, hf, hq, hl, hm⟩ := hopens
  simp [scanValue, hskip, hn, ht, hf, hq, hl, hm, hscan, hvalue]

theorem scans_integer (depth : Nat) {i : Int}
    (h : -9223372036854775808 ≤ i ∧ i ≤ 18446744073709551615) : Scans depth (.num (.integer i h)) := by
  have hsome : ∃ c cs, intChars i = c :: cs ∧ (c = '-' ∨ c.isDigit = true) := by
    unfold intChars
    split
    · exact ⟨_, _, rfl, .inl rfl⟩
    · cases hdigits : Nat.toDigits 10 i.natAbs with
      | nil => exact absurd hdigits Nat.toDigits_ne_nil
      | cons c cs =>
        exact ⟨c, cs, rfl, .inr (isDigit_of_mem_toDigits (hdigits ▸ List.mem_cons_self ..))⟩
  obtain ⟨c, cs, hchars, hc⟩ := hsome
  have hwritten : (Json.num (.integer i h)).chars = c :: cs := by
    rw [chars, numberChars, hchars]
  refine ⟨⟨c, cs, hwritten, isSpace_of_opensNumber hc, ne_of_opensNumber hc (by decide)⟩, ?_, rfl⟩
  · intro fuel rest hfuel hrest
    rw [hwritten] at hfuel ⊢
    cases fuel with
    | zero => simp at hfuel
    | succ fuel =>
      have hscan := scanNumeral?_intChars hrest i
      rw [hchars] at hscan
      exact scanValue_of_scanNumeral? hc hscan (value?_integer h)

theorem endsNumber_cons {c : Char} (h : c.isDigit = false ∧ c ≠ '.' ∧ c ≠ 'e' ∧ c ≠ 'E') :
    EndsNumber (c :: rest) := by
  intro d hd
  obtain rfl := Option.some.inj hd
  exact h

theorem itemChars_cons_cons (v w : Json) (items : List Json) :
    itemChars (v :: w :: items) = v.chars ++ ',' :: itemChars (w :: items) := by
  simp [itemChars]

theorem itemChars_singleton (v : Json) : itemChars [v] = v.chars := by
  simp [itemChars]

theorem Scans.opens_itemChars {depth : Nat} {v : Json} (h : Scans depth v) (items : List Json) :
    ∃ c cs, itemChars (v :: items) = c :: cs ∧ isSpace c = false ∧ c ≠ ']' := by
  obtain ⟨c, cs, hchars, hc⟩ := h.opens
  cases items with
  | nil => exact ⟨c, cs, by rw [itemChars_singleton, hchars], hc⟩
  | cons w items => exact ⟨c, _, by rw [itemChars_cons_cons, hchars, List.cons_append], hc⟩

/-- The reader stops at the bracket behind the last item. -/
theorem scanItems_itemChars {depth : Nat} {items : List Json} (hne : items ≠ [])
    (h : ∀ v ∈ items, Scans depth v) {fuel : Nat} (hfuel : (itemChars items).length < fuel) :
    scanItems fuel depth (itemChars items ++ ']' :: rest) = (Document.ofItems items, some rest) := by
  induction items generalizing fuel with
  | nil => exact absurd rfl hne
  | cons v items ih =>
    obtain ⟨hv, hitems⟩ := List.forall_mem_cons.1 h
    cases fuel with
    | zero => omega
    | succ fuel =>
      cases items with
      | nil =>
        rw [itemChars_singleton] at hfuel ⊢
        have hscan := hv.scan fuel (']' :: rest) (by omega) (endsNumber_cons (by decide))
        have hskip : skipSpace (']' :: rest) = ']' :: rest := skipSpace_cons rfl
        simp [scanItems, hscan, hskip, Document.ofItems]
      | cons w items =>
        rw [itemChars_cons_cons, List.length_append, List.length_cons] at hfuel
        rw [itemChars_cons_cons, List.append_assoc, List.cons_append]
        have hscan := hv.scan fuel (',' :: (itemChars (w :: items) ++ ']' :: rest)) (by omega)
          (endsNumber_cons (by decide))
        have hrest : scanItems fuel depth (itemChars (w :: items) ++ ']' :: rest) =
            (Document.ofItems (w :: items), some rest) :=
          ih (List.cons_ne_nil _ _) hitems (by omega)
        have hskip (s : List Char) : skipSpace (',' :: s) = ',' :: s := skipSpace_cons rfl
        simp [scanItems, hscan, hskip, Document.ofItems, hrest]

theorem itemsToJson?_ofItems {depth : Nat} {items : List Json} (h : ∀ v ∈ items, Scans depth v) :
    Document.itemsToJson? (Document.ofItems items) = some items := by
  induction items with
  | nil => rfl
  | cons v items ih =>
    obtain ⟨hv, hitems⟩ := List.forall_mem_cons.1 h
    simp [Document.ofItems, Document.itemsToJson?, hv.denotes, ih hitems]

/-- A list is read back if its items are, one level deeper. -/
theorem scans_arr {depth : Nat} (hdepth : depth < depthLimit) {items : List Json}
    (h : ∀ v ∈ items, Scans (depth + 1) v) : Scans depth (.arr items) := by
  have hwritten : (Json.arr items).chars = '[' :: (itemChars items ++ [']']) := by
    rw [chars, List.cons_append]
  refine ⟨⟨_, _, hwritten, rfl, by decide⟩, ?_, ?_⟩
  · intro fuel rest hfuel hrest
    rw [hwritten] at hfuel ⊢
    rw [List.length_cons, List.length_append, List.length_singleton] at hfuel
    cases fuel with
    | zero => omega
    | succ fuel =>
      cases items with
      | nil => simp [scanValue, itemChars, skipSpace, isSpace, atDepth, hdepth, Document.ofJson, Document.ofItems]
      | cons v items =>
        have hitems : scanItems fuel (depth + 1) (itemChars (v :: items) ++ ']' :: rest) =
            (Document.ofItems (v :: items), some rest) :=
          scanItems_itemChars (List.cons_ne_nil _ _) h (by omega)
        obtain ⟨c, cs, hchars, hspace, hc⟩ := (h v (List.mem_cons_self ..)).opens_itemChars items
        rw [hchars, List.cons_append] at hitems
        rw [hchars]
        simp [scanValue, skipSpace_cons hspace, skipSpace_cons (c := '[') rfl, hc, hitems, atDepth,
          hdepth, Document.ofJson]
  · simp [Document.ofJson, Document.toJson?, itemsToJson?_ofItems h]

theorem read?_render {v : Json} (h : Scans 0 v) : read? v.render = some v := by
  have hscan := h.scan (2 * v.chars.length + 1) [] (by omega) (by rintro c ⟨⟩)
  rw [List.append_nil] at hscan
  simp [read?, readDocument, render, hscan, skipSpace, h.denotes]

end

end PivotTable.Json
