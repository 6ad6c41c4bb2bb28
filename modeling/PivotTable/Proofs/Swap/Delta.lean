import Mathlib.Data.Nat.Find
import PivotTable.Proofs.Swap.Verdict

/-!
# Swaps between two orders

A delta is found by a walk from the front: what lies in front of the walk is right, and what lies behind it
is a rearrangement of what is still wanted there. So the item wanted is always found, and the walk only
gives up when the counts of the items differ from the start. Main statement: there is a delta exactly
between the orders of one multiset of items, and it leads from the one to the other without a pair that is
skipped.
-/
namespace PivotTable

namespace Swap

section

variable {α : Type} {current target done : List α} {wanted : α}

theorem exchange_front {k : Nat} {c : α} (h : current[k]? = some wanted) :
    (ofPositions done.length (done.length + 1 + k)).exchange (done ++ c :: current) =
      done ++ wanted :: current.set k c := by
  obtain ⟨hk, -⟩ := List.getElem?_eq_some_iff.1 h
  have hlength : (done ++ c :: current).length = done.length + current.length + 1 := by
    rw [List.length_append, List.length_cons, Nat.add_assoc]
  have hpos : (ofPositions done.length (done.length + 1 + k)).positions? (done ++ c :: current).length =
      some (done.length, done.length + 1 + k) := by
    refine positions?_eq_some_iff.2 ⟨⟨rfl, ?_⟩, rfl, ?_⟩ <;> omega
  have hfront : (done ++ c :: current)[done.length]? = some c := by simp
  have hplace : done.length + 1 + k - done.length = k + 1 := by omega
  have hback : (done ++ c :: current)[done.length + 1 + k]? = some wanted := by
    rw [List.getElem?_append_right (by omega), hplace, List.getElem?_cons_succ, h]
  rw [exchange_eq_exchangeAt hpos, exchangeAt, hfront, hback]
  dsimp only
  rw [List.set_append_right _ _ (Nat.le_refl _), Nat.sub_self, List.set_cons_zero,
    List.set_append_right _ _ (by omega), hplace, List.set_cons_succ]

theorem cons_set_perm {k : Nat} {c : α} (h : current[k]? = some wanted) :
    (wanted :: current.set k c).Perm (c :: current) := by
  have hfront : (ofPositions 0 (0 + 1 + k)).exchange ([] ++ c :: current) =
      [] ++ wanted :: current.set k c :=
    exchange_front h
  rw [List.nil_append, List.nil_append] at hfront
  rw [← hfront]
  exact exchange_perm _ _

theorem perm_behind {k : Nat} {c : α} (h : current[k]? = some wanted)
    (hperm : (c :: current).Perm (wanted :: target)) : (current.set k c).Perm target :=
  ((cons_set_perm h).trans hperm).cons_inv

end

section

variable {α : Type} [DecidableEq α] {counts : List (α × Int)} {surplus : α → Int}

/-- The table holds the surplus of every item that has one. -/
structure Tallies (counts : List (α × Int)) (surplus : α → Int) : Prop where
  held : ∀ p ∈ counts, p.2 = surplus p.1
  listed : ∀ a, surplus a ≠ 0 → a ∈ counts.map Prod.fst

theorem map_fst_tally {item : α} (hold : item ∈ counts.map Prod.fst) (step : Int) :
    (tally step counts item).map Prod.fst = counts.map Prod.fst := by
  rw [tally, if_pos hold, List.map_map]
  refine List.map_congr_left fun p _ => ?_
  by_cases heq : p.1 = item <;> simp [heq]

namespace Tallies

theorem tally (h : Tallies counts surplus) (step : Int) (item : α) :
    Tallies (Swap.tally step counts item) fun a => surplus a + if a = item then step else 0 := by
  by_cases hold : item ∈ counts.map Prod.fst
  · refine ⟨?_, fun a ha => ?_⟩
    · rw [Swap.tally, if_pos hold]
      refine List.forall_mem_map.2 fun p hp => ?_
      have hheld := h.held p hp
      by_cases heq : p.1 = item <;> simp [heq, hheld]
    · rw [map_fst_tally hold]
      by_cases heq : a = item
      · rwa [heq]
      · exact h.listed a (by simpa [heq] using ha)
  · rw [Swap.tally, if_neg hold]
    have hnone : surplus item = 0 := Decidable.byContradiction fun hne => hold (h.listed item hne)
    refine ⟨fun p hp => ?_, fun a ha => ?_⟩
    · rcases List.mem_append.1 hp with hin | hlast
      · have hother : p.1 ≠ item := fun heq => hold (heq ▸ List.mem_map_of_mem hin)
        rw [if_neg hother, Int.add_zero]
        exact h.held p hin
      · obtain rfl := List.mem_singleton.1 hlast
        rw [if_pos rfl, hnone, Int.zero_add]
    · rw [List.map_append, List.mem_append]
      by_cases heq : a = item
      · exact .inr (List.mem_singleton.2 heq)
      · exact .inl (h.listed a (by simpa [heq] using ha))

theorem foldl (h : Tallies counts surplus) (step : Int) (items : List α) :
    Tallies (items.foldl (Swap.tally step) counts) fun a => surplus a + step * items.count a := by
  induction items generalizing counts surplus with
  | nil => simpa using h
  | cons item rest ih =>
    have hsurplus : (fun a => surplus a + step * (item :: rest).count a) =
        fun a => (surplus a + if a = item then step else 0) + step * rest.count a := by
      funext a
      by_cases heq : a = item
      · rw [heq, List.count_cons_self, if_pos rfl, Int.natCast_succ, Int.mul_add, Int.mul_one]
        omega
      · rw [List.count_cons_of_ne (Ne.symm heq), if_neg heq, Int.add_zero]
    rw [hsurplus]
    exact ih (h.tally step item)

end Tallies

/-- Counting tells whether two lists have the same items as often. -/
theorem isPermutation_iff {current target : List α} :
    isPermutation current target = true ↔ current.Perm target := by
  have hempty : Tallies ([] : List (α × Int)) fun _ => 0 := ⟨List.forall_mem_nil _, fun _ h => absurd rfl h⟩
  have htable := (hempty.foldl 1 current).foldl (-1) target
  rw [isPermutation, Bool.and_eq_true, List.all_eq_true, List.perm_iff_count]
  constructor
  · rintro ⟨-, hzero⟩ a
    apply Decidable.byContradiction
    intro hne
    obtain ⟨p, hp, rfl⟩ := List.mem_map.1 (htable.listed a (by omega))
    have heven : p.2 = 0 := eq_of_beq (hzero p hp)
    have hheld := htable.held p hp
    omega
  · intro hcount
    refine ⟨beq_iff_eq.2 (List.perm_iff_count.2 hcount).length_eq, fun p hp => beq_iff_eq.2 ?_⟩
    have hheld := htable.held p hp
    have hsame := hcount p.1
    omega

end

section

variable {α : Type} [BEq α] [LawfulBEq α] {current target : List α} {wanted : α}

theorem count_le_count_of_getElem? (h : ∀ k : Nat, current[k]? = some wanted → target[k]? = some wanted) :
    current.count wanted ≤ target.count wanted := by
  induction current generalizing target with
  | nil => exact Nat.zero_le _
  | cons c current ih =>
    have hbehind : current.count wanted ≤ target.tail.count wanted := by
      refine ih fun k hk => ?_
      rw [List.getElem?_tail]
      exact h (k + 1) hk
    by_cases hc : c = wanted
    · subst hc
      obtain ⟨rest, rfl⟩ : ∃ rest, target = c :: rest := by
        cases target with
        | nil => cases h 0 rfl
        | cons t rest => exact ⟨rest, by rw [Option.some.inj (h 0 rfl)]⟩
      rw [List.count_cons_self, List.count_cons_self]
      exact Nat.succ_le_succ hbehind
    · rw [List.count_cons_of_ne hc]
      exact Nat.le_trans hbehind (List.Sublist.count_le _ (List.tail_sublist target))

theorem exists_surplus (h : target.count wanted < current.count wanted) :
    ∃ k : Nat, current[k]? = some wanted ∧ target[k]? ≠ some wanted := by
  apply Classical.byContradiction
  intro hnone
  have hright (k : Nat) (hk : current[k]? = some wanted) : target[k]? = some wanted :=
    Classical.byContradiction fun h => hnone ⟨k, hk, h⟩
  exact Nat.not_lt.2 (count_le_count_of_getElem? hright) h

/-- An item in a wrong place is wanted in another wrong place. -/
theorem exists_wanted {k : Nat} (hlength : current.length = target.length)
    (hcount : current.count wanted = target.count wanted) (hk : current[k]? = some wanted)
    (hwrong : target[k]? ≠ some wanted) : ∃ l : Nat, target[l]? = some wanted ∧ current[l]? ≠ some wanted := by
  obtain ⟨hlt, hitem⟩ := List.getElem?_eq_some_iff.1 hk
  rw [List.getElem?_eq_getElem (hlength ▸ hlt)] at hwrong
  have hother : target[k] ≠ wanted := fun h => hwrong (congrArg some h)
  -- with the item wanted at `k` in place of it there are too few of it
  have hfewer : (current.set k target[k]).count wanted < target.count wanted := by
    have hpos : 0 < current.count wanted := List.count_pos_iff.2 (List.mem_of_getElem? hk)
    rw [List.count_set hlt, hitem, beq_self_eq_true, if_pos rfl, beq_false_of_ne hother]
    simp only [Bool.false_eq_true, if_false]
    omega
  obtain ⟨l, hl, hset⟩ := exists_surplus hfewer
  refine ⟨l, hl, ?_⟩
  have hne : k ≠ l := by
    rintro rfl
    exact hwrong ((List.getElem?_eq_getElem (hlength ▸ hlt)).symm.trans hl)
  rwa [List.getElem?_set_ne hne] at hset

end

section

variable {α : Type} [DecidableEq α] {current target done : List α} {wanted : α}

theorem exists_source? (h : wanted ∈ current) (target : List α) :
    ∃ k, source? wanted current target = some k := by
  have hanywhere : (current.findIdx? (· = wanted)).isSome := by
    rw [List.findIdx?_isSome, List.any_eq_true]
    exact ⟨wanted, h, decide_eq_true rfl⟩
  obtain ⟨k, hk⟩ := Option.isSome_iff_exists.1 hanywhere
  rw [source?, Option.orElse_eq_orElse, Option.orElse_eq_or, hk]
  exact ⟨_, Option.or_some⟩

/-- How far behind the front the item is first met in a wrong place. -/
def firstWrong? (wanted : α) (current target : List α) : Option Nat :=
  (current.zip target).findIdx? fun (c, t) => c = wanted ∧ c ≠ t

theorem firstWrong?_eq_some_of_first {k : Nat} (hlength : current.length = target.length)
    (hk : current[k]? = some wanted) (hwrong : target[k]? ≠ some wanted)
    (hfirst : ∀ j < k, current[j]? = some wanted → target[j]? = some wanted) :
    firstWrong? wanted current target = some k := by
  obtain ⟨hlt, hitem⟩ := List.getElem?_eq_some_iff.1 hk
  refine List.findIdx?_eq_some_iff_getElem.2 ⟨by rw [List.length_zip]; omega, ?_, ?_⟩
  · rw [List.getElem?_eq_getElem (by omega)] at hwrong
    simp only [List.getElem_zip, decide_eq_true_eq]
    exact ⟨hitem, fun h => hwrong (by rw [← h, hitem])⟩
  · intro j hj
    have hright := hfirst j hj
    rw [List.getElem?_eq_getElem (by omega), List.getElem?_eq_getElem (by omega)] at hright
    simp only [List.getElem_zip, decide_eq_true_eq]
    rintro ⟨hitem, hne⟩
    exact hne (hitem.trans (Option.some.inj (hright (congrArg some hitem))).symm)

theorem source?_of_firstWrong? {k : Nat} (h : firstWrong? wanted current target = some k) :
    source? wanted current target = some k := by
  rw [source?, Option.orElse_eq_orElse, Option.orElse_eq_or, Option.or_eq_some_iff]
  exact .inl h

theorem source?_eq_some_of_first {k : Nat} (hlength : current.length = target.length)
    (hk : current[k]? = some wanted) (hwrong : target[k]? ≠ some wanted)
    (hfirst : ∀ j < k, current[j]? = some wanted → target[j]? = some wanted) :
    source? wanted current target = some k :=
  source?_of_firstWrong? (firstWrong?_eq_some_of_first hlength hk hwrong hfirst)

theorem exists_first_wrong {c : α} (hperm : (c :: current).Perm (wanted :: target)) (hc : c ≠ wanted) :
    ∃ k : Nat, current[k]? = some wanted ∧ target[k]? ≠ some wanted ∧
      ∀ j < k, current[j]? = some wanted → target[j]? = some wanted := by
  classical
  have hwrong : ∃ k : Nat, current[k]? = some wanted ∧ target[k]? ≠ some wanted := by
    have hcount := hperm.count_eq wanted
    rw [List.count_cons_of_ne hc, List.count_cons_self] at hcount
    -- the places that are right hold too few of it
    exact exists_surplus (by omega)
  obtain ⟨hk, hne⟩ := Nat.find_spec hwrong
  refine ⟨Nat.find hwrong, hk, hne, fun j hj hitem => ?_⟩
  exact Decidable.byContradiction fun h => Nat.find_min hwrong hj ⟨hitem, h⟩

theorem exists_deltaFrom (i : Nat) (hperm : current.Perm target) :
    ∃ delta, deltaFrom i current target = some delta := by
  induction target generalizing i current with
  | nil => exact ⟨[], by rw [deltaFrom]⟩
  | cons t target ih =>
    cases current with
    | nil => exact absurd hperm.length_eq (by simp)
    | cons c current =>
      rw [deltaFrom]
      by_cases hc : c = t
      · subst hc
        rw [if_pos rfl]
        exact ih (i + 1) hperm.cons_inv
      · have hmem : t ∈ current := by
          rcases List.mem_cons.1 (hperm.mem_iff.2 (List.mem_cons_self ..)) with h | h
          · exact absurd h.symm hc
          · exact h
        obtain ⟨k, hk⟩ := exists_source? hmem target
        obtain ⟨rest, hrest⟩ := ih (i + 1) (perm_behind (getElem?_of_source? hk) hperm)
        rw [if_neg hc, hk]
        exact ⟨ofPositions i (i + 1 + k) :: rest, by simp [hrest]⟩

theorem exchangeAll_deltaFrom {delta : List Swap} (hlength : current.length = target.length)
    (h : deltaFrom done.length current target = some delta) :
    exchangeAll delta (done ++ current) = done ++ target := by
  induction target generalizing current done delta with
  | nil =>
    obtain rfl := List.length_eq_zero_iff.1 hlength
    rw [deltaFrom] at h
    obtain rfl := Option.some.inj h
    rfl
  | cons t target ih =>
    cases current with
    | nil => simp at hlength
    | cons c current =>
      have hbehind : current.length = target.length := Nat.succ.inj hlength
      -- the walk goes on with one more item in front of it
      have hcount : done.length + 1 = (done ++ [t]).length := by simp
      rw [List.append_cons done t target]
      obtain ⟨rfl, hpassed⟩ | ⟨-, k, rest, hk, hrest, rfl⟩ := deltaFrom_cons_cases h
      · rw [hcount] at hpassed
        rw [List.append_cons done c current]
        exact ih hbehind hpassed
      · rw [hcount] at hrest
        rw [exchangeAll, List.foldl_cons, ← exchangeAll, exchange_front (getElem?_of_source? hk),
          List.append_cons done t (current.set k c)]
        exact ih (List.length_set.trans hbehind) hrest

theorem delta?_eq_some_iff {delta : List Swap} :
    delta? current target = some delta ↔
      current.Perm target ∧ deltaFrom 0 current target = some delta := by
  rw [← isPermutation_iff, delta?, Option.ite_none_right_eq_some]

theorem exists_delta?_iff : (∃ delta, delta? current target = some delta) ↔ current.Perm target := by
  simp only [delta?_eq_some_iff, exists_and_left, and_iff_left_iff_imp]
  exact exists_deltaFrom 0

theorem exchangeAll_delta? {delta : List Swap} (h : delta? current target = some delta) :
    exchangeAll delta current = target := by
  obtain ⟨hperm, hwalk⟩ := delta?_eq_some_iff.1 h
  have hreached : exchangeAll delta ([] ++ current) = [] ++ target :=
    exchangeAll_deltaFrom hperm.length_eq hwalk
  rwa [List.nil_append, List.nil_append] at hreached

theorem mem_delta? {delta : List Swap} (h : delta? current target = some delta) {s : Swap} (hs : s ∈ delta) :
    ∃ a b, s = ofPositions a b ∧ a < current.length ∧ b < current.length := by
  have hmem := mem_deltaFrom (delta?_eq_some_iff.1 h).2 hs
  rwa [Nat.zero_add] at hmem

theorem outside_delta? {delta : List Swap} (h : delta? current target = some delta) :
    outside delta current.length = [] := by
  apply List.eq_nil_iff_forall_not_mem.2
  intro k hk
  obtain ⟨s, hs, houtside⟩ := mem_outside.1 hk
  obtain ⟨a, b, rfl, ha, hb⟩ := mem_delta? h (List.mem_of_getElem? hs)
  exact houtside (isInside_of_positions? (positions?_eq_some_iff.2 ⟨⟨rfl, ha⟩, rfl, hb⟩))

end

end Swap

/-- There is a delta between two lists if and only if they have the same items as often; it leads from the
one to the other, and all of its pairs are exchanged. -/
theorem Plan.deltaBetween_exact {α : Type} [DecidableEq α] (current target : List α) :
    ((∃ delta, deltaBetween current target = .ok delta) ↔ target.Perm current) ∧
      (¬ target.Perm current → deltaBetween current target = .error .notAPermutation) ∧
      ∀ delta, deltaBetween current target = .ok delta →
        Swap.outside delta current.length = [] ∧ Swap.exchangeAll delta current = target := by
  have hok (delta : List Swap) :
      deltaBetween current target = .ok delta ↔ Swap.delta? current target = some delta := by
    unfold deltaBetween
    cases Swap.delta? current target <;> simp
  have hsome : (∃ delta, Swap.delta? current target = some delta) ↔ target.Perm current :=
    Swap.exists_delta?_iff.trans List.perm_comm
  refine ⟨?_, ?_, ?_⟩
  · simp only [hok, hsome]
  · intro hperm
    have hnone : Swap.delta? current target = none :=
      Option.eq_none_iff_forall_ne_some.2 fun delta h => hperm (hsome.1 ⟨delta, h⟩)
    rw [deltaBetween, hnone]
  · intro delta h
    rw [hok] at h
    obtain ⟨hperm, hdelta⟩ := Swap.delta?_eq_some_iff.1 h
    have hreached : Swap.exchangeAll delta ([] ++ current) = [] ++ target :=
      Swap.exchangeAll_deltaFrom hperm.length_eq hdelta
    exact ⟨Swap.outside_delta? h, hreached⟩

/-- The second `x` is taken from the place where it is wrong. -/
example : Swap.delta? ["x", "y", "x", "z"] ["x", "x", "z", "y"] =
    some [.ofPositions 1 2, .ofPositions 2 3] := by
  decide

end PivotTable
