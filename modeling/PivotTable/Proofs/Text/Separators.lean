import Mathlib.Data.List.Induction
import PivotTable.Text.MatchKey

/-!
# Separators inside a text

A text without letters and numbers leaves nothing in a key. Between two other texts it can still be told from no
text at all, as it may end a word: a capital sigma in front of it then takes its final form, and one behind it may
lose it. Main statement: what stands between two texts is ignored if and only if its own key is empty and no sigma
next to it changes its form.
-/
namespace PivotTable.Text

/-- Neither letter, number nor mark after canonical decomposition. -/
def isSeparator (c : Char) : Bool := (Unicode.decompose c).all fun d => !Unicode.isMark d && !isKeyChar d

theorem unmarked_append (s t : List Char) : unmarked (s ++ t) = unmarked s ++ unmarked t := by
  rw [unmarked, List.flatMap_append, List.filter_append]
  rfl

/-- Lower case of a text between the characters before it, nearest first, and those after it. -/
def loweredBetween (before : List Char) : List Char → List Char → List Char
  | [], _ => []
  | c :: s, after => lowerBetween before c (s ++ after) :: loweredBetween (c :: before) s after

theorem lowered_eq (before s : List Char) : lowered before s = loweredBetween before s [] := by
  induction s generalizing before with
  | nil => rfl
  | cons c s ih => rw [lowered, loweredBetween, List.append_nil, ih]

theorem loweredBetween_append (before s t after : List Char) :
    loweredBetween before (s ++ t) after =
      loweredBetween before s (t ++ after) ++ loweredBetween (s.reverse ++ before) t after := by
  induction s generalizing before with
  | nil => rfl
  | cons c s ih =>
    rw [List.cons_append, loweredBetween, ih, loweredBetween, List.append_assoc, List.reverse_cons,
      List.append_assoc]
    rfl

/-- What stands behind the sigma with which a text begins, case-ignorable characters apart. -/
def pastSigma? (s : List Char) : Option (List Char) :=
  match s.dropWhile Unicode.isCaseIgnorable with
  | c :: rest => if c = 'Σ' then some rest else none
  | [] => none

section

variable {c : Char}

theorem meetsCased_cons_of_ignorable (h : Unicode.isCaseIgnorable c = true) (s : List Char) :
    meetsCased (c :: s) = meetsCased s := by
  rw [meetsCased, List.dropWhile_cons_of_pos h]
  rfl

theorem meetsCased_cons_of_not_ignorable (h : Unicode.isCaseIgnorable c = false) (s : List Char) :
    meetsCased (c :: s) = Unicode.isCased c := by
  rw [meetsCased, List.dropWhile_cons_of_neg (Bool.eq_false_iff.1 h)]

theorem pastSigma?_cons_of_ignorable (h : Unicode.isCaseIgnorable c = true) (s : List Char) :
    pastSigma? (c :: s) = pastSigma? s := by
  rw [pastSigma?, List.dropWhile_cons_of_pos h]
  rfl

theorem pastSigma?_cons_of_not_ignorable (h : Unicode.isCaseIgnorable c = false) (s : List Char) :
    pastSigma? (c :: s) = if c = 'Σ' then some s else none := by
  rw [pastSigma?, List.dropWhile_cons_of_neg (Bool.eq_false_iff.1 h)]

theorem sigma_not_ignorable : Unicode.isCaseIgnorable 'Σ' = false := by decide +kernel

theorem ne_sigma_of_ignorable (h : Unicode.isCaseIgnorable c = true) : c ≠ 'Σ' := by
  rintro rfl
  exact Bool.false_ne_true (sigma_not_ignorable.symm.trans h)

theorem lowerBetween_of_ne (h : c ≠ 'Σ') (before after : List Char) :
    lowerBetween before c after = Unicode.lower c := if_neg h

end

theorem lowerBetween_sigma (before after : List Char) :
    lowerBetween before 'Σ' after = if meetsCased before && !meetsCased after then 'ς' else 'σ' := if_pos rfl

/-- What follows a sigma counts only if a word stands in front of it. -/
theorem lowerBetween_sigma_congr_after {before after other : List Char} :
    lowerBetween before 'Σ' after = lowerBetween before 'Σ' other ↔
      (meetsCased before = true → meetsCased after = meetsCased other) := by
  rw [lowerBetween_sigma, lowerBetween_sigma]
  cases meetsCased before <;> cases meetsCased after <;> cases meetsCased other <;> decide

/-- What stands in front of a sigma counts only if the word ends with it. -/
theorem lowerBetween_sigma_congr_before {before other after : List Char} :
    lowerBetween before 'Σ' after = lowerBetween other 'Σ' after ↔
      (meetsCased after = false → meetsCased before = meetsCased other) := by
  rw [lowerBetween_sigma, lowerBetween_sigma]
  cases meetsCased before <;> cases meetsCased after <;> cases meetsCased other <;> decide

/-- Only the sigma at the end of a text looks beyond the end. -/
theorem loweredBetween_congr_after_iff {before after other s : List Char} :
    loweredBetween before s after = loweredBetween before s other ↔
      ∀ rest, pastSigma? s.reverse = some rest → meetsCased (rest ++ before) = true →
        meetsCased after = meetsCased other := by
  -- from the end, as the sigma is found from there
  induction s using List.reverseRecOn generalizing after other with
  | nil => exact iff_of_true rfl nofun
  | append_singleton s c ih =>
    rw [loweredBetween_append, loweredBetween_append, List.singleton_append, List.singleton_append,
      loweredBetween, loweredBetween, loweredBetween, loweredBetween, List.append_singleton_inj, ih,
      List.nil_append, List.nil_append, List.reverse_concat]
    cases hc : Unicode.isCaseIgnorable c with
    | true =>
      have hne := ne_sigma_of_ignorable hc
      simp only [lowerBetween_of_ne hne, and_true, pastSigma?_cons_of_ignorable hc,
        meetsCased_cons_of_ignorable hc]
    | false =>
      simp only [meetsCased_cons_of_not_ignorable hc, implies_true, true_and,
        pastSigma?_cons_of_not_ignorable hc]
      by_cases hsigma : c = 'Σ'
      · subst hsigma
        simp [lowerBetween_sigma_congr_after]
      · simp [lowerBetween_of_ne hsigma, hsigma]

/-- Only the sigma at the beginning of a text looks beyond the beginning. -/
theorem loweredBetween_congr_before_iff {before other s after : List Char} :
    loweredBetween before s after = loweredBetween other s after ↔
      ∀ rest, pastSigma? s = some rest → meetsCased (rest ++ after) = false →
        meetsCased before = meetsCased other := by
  induction s generalizing before other with
  | nil => exact iff_of_true rfl nofun
  | cons c s ih =>
    rw [loweredBetween, loweredBetween, List.cons.injEq, ih]
    cases hc : Unicode.isCaseIgnorable c with
    | true =>
      have hne := ne_sigma_of_ignorable hc
      simp only [lowerBetween_of_ne hne, true_and, pastSigma?_cons_of_ignorable hc,
        meetsCased_cons_of_ignorable hc]
    | false =>
      simp only [meetsCased_cons_of_not_ignorable hc, implies_true, and_true,
        pastSigma?_cons_of_not_ignorable hc]
      by_cases hsigma : c = 'Σ'
      · subst hsigma
        simp [lowerBetween_sigma_congr_before]
      · simp [lowerBetween_of_ne hsigma, hsigma]

/-- Either form of a sigma counts in a key. -/
theorem isKeyChar_lowerBetween_sigma (before after : List Char) :
    isKeyChar (lowerBetween before 'Σ' after) = true := by
  rw [lowerBetween_sigma]
  split <;> decide +kernel

/-- Whether a character counts does not depend on what stands around it. -/
theorem isKeyChar_lowerBetween_congr (before other : List Char) (c : Char) (after behind : List Char) :
    isKeyChar (lowerBetween before c after) = isKeyChar (lowerBetween other c behind) := by
  by_cases h : c = 'Σ'
  · subst h
    rw [isKeyChar_lowerBetween_sigma, isKeyChar_lowerBetween_sigma]
  · rw [lowerBetween_of_ne h, lowerBetween_of_ne h]

theorem length_filter_loweredBetween_congr (before other s after behind : List Char) :
    ((loweredBetween before s after).filter isKeyChar).length =
      ((loweredBetween other s behind).filter isKeyChar).length := by
  induction s generalizing before other with
  | nil => rfl
  | cons c s ih =>
    rw [loweredBetween, loweredBetween, List.filter_cons, List.filter_cons,
      isKeyChar_lowerBetween_congr before other c (s ++ after) (s ++ behind)]
    split
    · rw [List.length_cons, List.length_cons, ih]
    · exact ih _ _

/-- Where two lower-case forms of a text differ, their keys do. -/
theorem filter_loweredBetween_inj {before other s after behind : List Char} :
    (loweredBetween before s after).filter isKeyChar = (loweredBetween other s behind).filter isKeyChar ↔
      loweredBetween before s after = loweredBetween other s behind := by
  induction s generalizing before other with
  | nil => exact iff_of_true rfl rfl
  | cons c s ih =>
    have hkey := isKeyChar_lowerBetween_congr before other c (s ++ after) (s ++ behind)
    rw [loweredBetween, loweredBetween, List.filter_cons, List.filter_cons, ← hkey, List.cons.injEq]
    split
    · rw [List.cons.injEq, ih]
    · next hnot =>
      have hne : c ≠ 'Σ' := by
        rintro rfl
        exact hnot (isKeyChar_lowerBetween_sigma _ _)
      rw [lowerBetween_of_ne hne, lowerBetween_of_ne hne, ih]
      exact (and_iff_right rfl).symm

/-- A text between two others changes no sigma next to it: neither one that ends the text in front of it and with
it a word, nor one that begins the text behind it. -/
structure SparesSigmas (a p b : List Char) : Prop where
  ending : ∀ rest, pastSigma? a.reverse = some rest → meetsCased rest = true →
    meetsCased (p ++ b) = meetsCased b
  beginning : ∀ rest, pastSigma? b = some rest → meetsCased rest = false →
    meetsCased (p.reverse ++ a.reverse) = meetsCased a.reverse

theorem filter_lowered_append_append_iff (a p b : List Char) :
    (lowered [] (a ++ p ++ b)).filter isKeyChar = (lowered [] (a ++ b)).filter isKeyChar ↔
      (lowered [] p).filter isKeyChar = [] ∧ SparesSigmas a p b := by
  have hwhole : (lowered [] (a ++ p ++ b)).filter isKeyChar =
      (loweredBetween [] a (p ++ b)).filter isKeyChar ++
        ((loweredBetween a.reverse p b).filter isKeyChar ++
          (loweredBetween (p.reverse ++ a.reverse) b []).filter isKeyChar) := by
    rw [lowered_eq, List.append_assoc, loweredBetween_append, loweredBetween_append, List.filter_append,
      List.filter_append, List.append_nil, List.append_nil, List.append_nil]
  have hparts : (lowered [] (a ++ b)).filter isKeyChar =
      (loweredBetween [] a b).filter isKeyChar ++ (loweredBetween a.reverse b []).filter isKeyChar := by
    rw [lowered_eq, loweredBetween_append, List.filter_append, List.append_nil, List.append_nil]
  -- what surrounds a part has no say in how many characters of it count
  have hfront := length_filter_loweredBetween_congr [] [] a (p ++ b) b
  have hback := length_filter_loweredBetween_congr (p.reverse ++ a.reverse) a.reverse b [] []
  have hmiddle : (loweredBetween a.reverse p b).filter isKeyChar = [] ↔
      (lowered [] p).filter isKeyChar = [] := by
    rw [lowered_eq, ← List.length_eq_zero_iff, ← List.length_eq_zero_iff,
      length_filter_loweredBetween_congr a.reverse [] p b []]
  rw [hwhole, hparts]
  constructor
  · intro h
    have hnone : (loweredBetween a.reverse p b).filter isKeyChar = [] := by
      have hlength := congrArg List.length h
      rw [List.length_append, List.length_append, List.length_append] at hlength
      exact List.length_eq_zero_iff.1 (by omega)
    rw [hnone, List.nil_append] at h
    obtain ⟨hfirst, hlast⟩ := List.append_inj h hfront
    rw [filter_loweredBetween_inj, loweredBetween_congr_after_iff] at hfirst
    rw [filter_loweredBetween_inj, loweredBetween_congr_before_iff] at hlast
    refine ⟨hmiddle.1 hnone, fun rest hrest hcased => ?_, fun rest hrest hcased => ?_⟩
    · exact hfirst rest hrest (by rwa [List.append_nil])
    · exact hlast rest hrest (by rwa [List.append_nil])
  · rintro ⟨hempty, hspares⟩
    have hfirst : loweredBetween [] a (p ++ b) = loweredBetween [] a b := by
      refine loweredBetween_congr_after_iff.2 fun rest hrest hcased => ?_
      exact hspares.ending rest hrest (by rwa [List.append_nil] at hcased)
    have hlast : loweredBetween (p.reverse ++ a.reverse) b [] = loweredBetween a.reverse b [] := by
      refine loweredBetween_congr_before_iff.2 fun rest hrest hcased => ?_
      exact hspares.beginning rest hrest (by rwa [List.append_nil] at hcased)
    rw [hmiddle.2 hempty, hfirst, hlast, List.nil_append]

theorem matchKey_eq_iff {s t : String} : matchKey s = matchKey t ↔ keyChars s.toList = keyChars t.toList :=
  String.ofList_inj

theorem matchKey_eq_empty_iff {s : String} : matchKey s = "" ↔ keyChars s.toList = [] :=
  String.ofList_eq_empty_iff

theorem keyChars_append_append_iff (a p b : List Char) :
    keyChars (a ++ p ++ b) = keyChars (a ++ b) ↔
      keyChars p = [] ∧ SparesSigmas (unmarked a) (unmarked p) (unmarked b) := by
  simp only [keyChars, unmarked_append]
  exact filter_lowered_append_append_iff _ _ _

theorem pastSigma?_eq_none {s : List Char} (h : 'Σ' ∉ s) : pastSigma? s = none := by
  unfold pastSigma?
  split
  · next c rest hrest =>
    refine if_neg ?_
    rintro rfl
    exact h ((List.dropWhile_sublist _).mem (hrest ▸ List.mem_cons_self ..))
  · rfl

theorem sparesSigmas_of_not_mem {a b : List Char} (ha : 'Σ' ∉ a) (hb : 'Σ' ∉ b) (p : List Char) :
    SparesSigmas a p b := by
  constructor
  · rw [pastSigma?_eq_none (mt List.mem_reverse.1 ha)]
    exact nofun
  · rw [pastSigma?_eq_none hb]
    exact nofun

/-- Between texts without a capital sigma whatever has an empty key is ignored. -/
theorem matchKey_append_append_of_no_sigma {a p b : String} (hp : matchKey p = "")
    (ha : 'Σ' ∉ unmarked a.toList) (hb : 'Σ' ∉ unmarked b.toList) :
    matchKey (a ++ p ++ b) = matchKey (a ++ b) := by
  rw [matchKey_eq_iff, String.toList_append, String.toList_append, String.toList_append]
  exact (keyChars_append_append_iff _ _ _).2 ⟨matchKey_eq_empty_iff.1 hp, sparesSigmas_of_not_mem ha hb _⟩

/-- What stands between two texts is ignored if and only if it has an empty key and spares the sigmas next
to it. -/
theorem matchKey_append_append_iff (a p b : String) :
    matchKey (a ++ p ++ b) = matchKey (a ++ b) ↔
      matchKey p = "" ∧ SparesSigmas (unmarked a.toList) (unmarked p.toList) (unmarked b.toList) := by
  rw [matchKey_eq_iff, matchKey_eq_empty_iff, String.toList_append, String.toList_append, String.toList_append]
  exact keyChars_append_append_iff _ _ _

/-- The space ends a word, and the sigma in front of it takes its final form. -/
theorem matchKey_split_word_ne :
    " ".toList.all isSeparator = true ∧ matchKey ("ΟΔΟΣ" ++ " " ++ "Α") ≠ matchKey ("ΟΔΟΣ" ++ "Α") := by
  decide +kernel

end PivotTable.Text
