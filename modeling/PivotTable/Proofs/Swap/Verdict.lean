import PivotTable.Proofs.Swap.Plan

/-!
# The verdict on a batch

What becomes of a batch that is checked against the groups of the slots it is meant for, said without the
index of these groups. Main statement: the violations are the pairs inside the list whose slots have
different paths, in the order of the batch. With any of them nothing moves; with none the pairs inside the
list exchange their slots in turn, and the places of the others are told.
-/
namespace PivotTable

section

variable {α : Type}

/-- The items at two positions have changed places. -/
structure Exchanged (i j : Nat) (before after : List α) : Prop where
  first : after[i]? = before[j]?
  second : after[j]? = before[i]?
  others : ∀ k, k ≠ i → k ≠ j → after[k]? = before[k]?

theorem exchanged_exchangeAt {items : List α} {i j : Nat} (hi : i < items.length)
    (hj : j < items.length) : Exchanged i j items (exchangeAt i j items) := by
  have hget (k : Nat) : (exchangeAt i j items)[k]? =
      if j = k then items[i]? else if i = k then items[j]? else items[k]? := by
    rw [exchangeAt, List.getElem?_eq_getElem hi, List.getElem?_eq_getElem hj]
    simp only [List.getElem?_set, List.length_set, if_pos hi, if_pos hj]
  refine ⟨?_, ?_, ?_⟩
  · rw [hget, if_pos rfl]
    split
    · next h => rw [h]
    · rfl
  · rw [hget, if_pos rfl]
  · intro k hki hkj
    rw [hget, if_neg (Ne.symm hkj), if_neg (Ne.symm hki)]

theorem Exchanged.unique {i j : Nat} {before a b : List α} (ha : Exchanged i j before a)
    (hb : Exchanged i j before b) : a = b := by
  apply List.ext_getElem?
  intro k
  by_cases hi : k = i
  · rw [hi, ha.first, hb.first]
  · by_cases hj : k = j
    · rw [hj, ha.second, hb.second]
    · rw [ha.others k hi hj, hb.others k hi hj]

namespace Swap

/-- Both ends of the pair are positions of a list of this size. -/
def IsInside (size : Nat) (s : Swap) : Prop :=
  (0 ≤ s.first ∧ s.first < size) ∧ 0 ≤ s.second ∧ s.second < size

/-- The pairs inside the list exchange their items in turn, and the others leave it alone. -/
inductive Exchanges : List Swap → List α → List α → Prop
  | done (items : List α) : Exchanges [] items items
  | exchange {s : Swap} {swaps : List Swap} {before between after : List α} {i j : Nat}
      (inside : s.IsInside before.length) (first : s.first = i) (second : s.second = j)
      (step : Exchanged i j before between) (rest : Exchanges swaps between after) :
      Exchanges (s :: swaps) before after
  | skip {s : Swap} {swaps : List Swap} {before after : List α}
      (outside : ¬ s.IsInside before.length) (rest : Exchanges swaps before after) :
      Exchanges (s :: swaps) before after

theorem isInside_of_positions? {size i j : Nat} {s : Swap} (h : s.positions? size = some (i, j)) :
    s.IsInside size := by
  obtain ⟨⟨hfirst, hi⟩, hsecond, hj⟩ := positions?_eq_some_iff.1 h
  unfold IsInside
  omega

theorem positions?_eq_none_iff {size : Nat} {s : Swap} :
    s.positions? size = none ↔ ¬ s.IsInside size := by
  constructor
  · rintro hnone ⟨⟨hfirst, hi⟩, hsecond, hj⟩
    have hsome : s.positions? size = some (s.first.toNat, s.second.toNat) :=
      positions?_eq_some_iff.2 ⟨⟨by omega, by omega⟩, by omega, by omega⟩
    rw [hnone] at hsome
    cases hsome
  · intro houtside
    cases hpos : s.positions? size with
    | none => rfl
    | some p => exact absurd (isInside_of_positions? hpos) houtside

theorem exchange_eq_exchangeAt {s : Swap} {items : List α} {i j : Nat}
    (h : s.positions? items.length = some (i, j)) : s.exchange items = exchangeAt i j items := by
  rw [exchange, h]

theorem exchange_eq_self {s : Swap} {items : List α} (h : s.positions? items.length = none) :
    s.exchange items = items := by
  rw [exchange, h]

theorem exchanges_exchangeAll (swaps : List Swap) (items : List α) :
    Exchanges swaps items (exchangeAll swaps items) := by
  induction swaps generalizing items with
  | nil => exact .done items
  | cons s rest ih =>
    have hrest : Exchanges rest (s.exchange items) (exchangeAll (s :: rest) items) := ih _
    cases hpos : s.positions? items.length with
    | none =>
      rw [exchange_eq_self hpos] at hrest
      exact .skip (positions?_eq_none_iff.1 hpos) hrest
    | some p =>
      obtain ⟨⟨hfirst, hi⟩, hsecond, hj⟩ := positions?_eq_some_iff.1 hpos
      rw [exchange_eq_exchangeAt hpos] at hrest
      exact .exchange (isInside_of_positions? hpos) hfirst hsecond (exchanged_exchangeAt hi hj) hrest

theorem Exchanges.eq_exchangeAll {swaps : List Swap} {before after : List α}
    (h : Exchanges swaps before after) : after = exchangeAll swaps before := by
  induction h with
  | done items => rfl
  | @exchange s swaps before between after i j inside first second step rest ih =>
    obtain ⟨⟨-, hi⟩, -, hj⟩ := inside
    rw [first, Int.ofNat_lt] at hi
    rw [second, Int.ofNat_lt] at hj
    have hpos : s.positions? before.length = some (i, j) :=
      positions?_eq_some_iff.2 ⟨⟨first, hi⟩, second, hj⟩
    have hstep : between = s.exchange before := by
      rw [exchange_eq_exchangeAt hpos]
      exact step.unique (exchanged_exchangeAt hi hj)
    rw [ih, hstep]
    rfl
  | @skip s swaps before after outside rest ih =>
    have hstep : s.exchange before = before := exchange_eq_self (positions?_eq_none_iff.2 outside)
    rw [ih, exchangeAll, exchangeAll, List.foldl_cons, hstep]

theorem exchanges_iff {swaps : List Swap} {before after : List α} :
    Exchanges swaps before after ↔ after = exchangeAll swaps before := by
  constructor
  · exact Exchanges.eq_exchangeAll
  · rintro rfl
    exact exchanges_exchangeAll swaps before

end Swap

end

/-- What is picked out of a list by place stands in the order of the places. -/
theorem pairwise_filterMap_zipIdx {α β : Type} {f : α × Nat → Option β} (place : β → Nat)
    (hplace : ∀ a k b, f (a, k) = some b → place b = k) (items : List α) :
    ((items.zipIdx.filterMap f).map place).Pairwise (· < ·) := by
  have hplaces : items.zipIdx.Pairwise fun a b => a.2 < b.2 := by
    rw [← List.pairwise_map, List.zipIdx_map_snd]
    exact List.pairwise_lt_range' 1
  rw [List.pairwise_map]
  refine hplaces.filterMap f ?_
  intro a b hab x hx y hy
  rw [hplace a.1 a.2 x hx, hplace b.1 b.2 y hy]
  exact hab

namespace Swap

variable {slots : List Slot} {swaps : List Swap} {groups : Grouping}

theorem mem_outside {size k : Nat} :
    k ∈ outside swaps size ↔ ∃ s, swaps[k]? = some s ∧ ¬ s.IsInside size := by
  simp only [outside, List.mem_filterMap, Prod.exists, List.mk_mem_zipIdx_iff_getElem?,
    ← positions?_eq_none_iff]
  constructor
  · rintro ⟨s, index, hs, hk⟩
    split at hk
    · next hnone =>
      obtain rfl := Option.some.inj hk
      exact ⟨s, hs, Option.isNone_iff_eq_none.1 hnone⟩
    · cases hk
  · rintro ⟨s, hs, hnone⟩
    exact ⟨s, k, hs, if_pos (Option.isNone_iff_eq_none.2 hnone)⟩

theorem pairwise_outside (swaps : List Swap) (size : Nat) :
    (outside swaps size).Pairwise (· < ·) := by
  rw [← List.map_id (outside swaps size)]
  apply pairwise_filterMap_zipIdx
  intro s k index hindex
  dsimp only at hindex
  split at hindex
  · exact (Option.some.inj hindex).symm
  · cases hindex

theorem length_outside_le (swaps : List Swap) (size : Nat) :
    (outside swaps size).length ≤ swaps.length :=
  Nat.le_trans (List.length_filterMap_le _ _) (Nat.le_of_eq List.length_zipIdx)

theorem mem_violations_ofSlots {showSegments : Bool} {separator : String} {v : Violation} :
    v ∈ violations swaps (.ofSlots showSegments separator slots) ↔
      swaps[v.index]? = some v.swap ∧ v.Tells showSegments separator slots := by
  simp only [violations, List.mem_filterMap, Prod.exists, List.mk_mem_zipIdx_iff_getElem?,
    violation?_ofSlots_eq_some_iff]
  constructor
  · rintro ⟨s, index, hs, rfl, rfl, h⟩
    exact ⟨hs, h⟩
  · rintro ⟨hs, h⟩
    exact ⟨v.swap, v.index, hs, rfl, rfl, h⟩

theorem pairwise_index_violations (swaps : List Swap) (showSegments : Bool) (separator : String)
    (slots : List Slot) :
    ((violations swaps (.ofSlots showSegments separator slots)).map Violation.index).Pairwise
      (· < ·) :=
  pairwise_filterMap_zipIdx Violation.index
    (fun _ _ _ h => (violation?_ofSlots_eq_some_iff.1 h).1) swaps

/-- Display keys have no say in whether a batch is rejected. -/
theorem violations_ofSlots_eq_nil_congr {showSegments : Bool} (separator other : String) :
    violations swaps (.ofSlots showSegments separator slots) = [] ↔
      violations swaps (.ofSlots showSegments other slots) = [] := by
  simp only [violations_eq_nil_iff, respects_ofSlots_iff]

theorem violations_apply :
    (apply slots swaps (some groups)).violations = violations swaps groups := by
  by_cases h : violations swaps groups = []
  · rw [apply_of_legal (legal_some.2 h), h]
  · rw [apply_of_not_legal (mt legal_some.1 h)]
    rfl

/-- A batch that is checked against the groups of its slots is judged by the paths of the slots alone, and
takes effect as a whole or not at all. -/
theorem apply_ofSlots_atomic (showSegments : Bool) (separator : String) (slots : List Slot)
    (swaps : List Swap) :
    let outcome := apply slots swaps (some (.ofSlots showSegments separator slots))
    (∀ v, v ∈ outcome.violations ↔
        swaps[v.index]? = some v.swap ∧ v.Tells showSegments separator slots) ∧
      (outcome.violations.map Violation.index).Pairwise (· < ·) ∧
      (outcome.violations ≠ [] ∧ outcome.slots = slots ∧ outcome.applied = 0 ∧ outcome.skipped = [] ∨
        outcome.violations = [] ∧ (∀ after, Exchanges swaps slots after ↔ after = outcome.slots) ∧
          (∀ k, k ∈ outcome.skipped ↔ ∃ s, swaps[k]? = some s ∧ ¬ s.IsInside slots.length) ∧
          outcome.skipped.Pairwise (· < ·) ∧
          outcome.applied + outcome.skipped.length = swaps.length) ∧
      ∀ other, (apply slots swaps (some (.ofSlots showSegments other slots))).isRejected =
        outcome.isRejected := by
  intro outcome
  have hviolations : outcome.violations = violations swaps (.ofSlots showSegments separator slots) :=
    violations_apply
  refine ⟨?_, ?_, ?_, ?_⟩
  · intro v
    rw [hviolations]
    exact mem_violations_ofSlots
  · rw [hviolations]
    exact pairwise_index_violations swaps showSegments separator slots
  · by_cases h : violations swaps (.ofSlots showSegments separator slots) = []
    · right
      have houtcome : outcome = _ := apply_of_legal (legal_some.2 h)
      have hlength := length_outside_le swaps slots.length
      rw [houtcome]
      exact ⟨rfl, fun after => exchanges_iff, fun k => mem_outside, pairwise_outside _ _,
        Nat.sub_add_cancel hlength⟩
    · left
      have houtcome : outcome = _ := apply_of_not_legal (mt legal_some.1 h)
      rw [houtcome]
      exact ⟨h, rfl, rfl, rfl⟩
  · intro other
    rw [SwapOutcome.isRejected, SwapOutcome.isRejected, hviolations, violations_apply, Bool.eq_iff_iff]
    simp [violations_ofSlots_eq_nil_congr separator other]

/-- Two groups under one display key, and a third that is part of the second only while segments are hidden. -/
def nested : List Slot :=
  [.placed ⟨"A / B", "", "", ""⟩ "a", .placed ⟨"A", "B", "", ""⟩ "b", .placed ⟨"A", "B", "C", ""⟩ "c"]

/-- The batch joins the first two groups and the last two; without the segments its last pair is granted. -/
theorem apply_ofSlots_atomic_nested :
    let rejected := apply nested [⟨-1, 0⟩, ⟨0, 1⟩, ⟨1, 2⟩] (some (.ofSlots true " / " nested))
    let granted := apply nested [⟨-1, 0⟩, ⟨1, 2⟩] (some (.ofSlots false " / " nested))
    (rejected.violations = [⟨1, ⟨0, 1⟩, "A / B", "A / B"⟩, ⟨2, ⟨1, 2⟩, "A / B", "A / B / C"⟩] ∧
        rejected.slots = nested ∧ rejected.applied = 0 ∧ rejected.skipped = []) ∧
      granted.violations = [] ∧ granted.slots.map Slot.metric = ["a", "c", "b"] ∧ granted.skipped = [0] ∧
        granted.applied = 1 := by
  intro rejected granted
  have hviolations : rejected.violations =
      [⟨1, ⟨0, 1⟩, "A / B", "A / B"⟩, ⟨2, ⟨1, 2⟩, "A / B", "A / B / C"⟩] := rfl
  have hnone : granted.violations = [] := rfl
  have hskipped : granted.skipped = [0] := rfl
  obtain ⟨-, -, hrejected, -⟩ := apply_ofSlots_atomic true " / " nested [⟨-1, 0⟩, ⟨0, 1⟩, ⟨1, 2⟩]
  obtain ⟨-, -, hgranted, -⟩ := apply_ofSlots_atomic false " / " nested [⟨-1, 0⟩, ⟨1, 2⟩]
  obtain ⟨-, hslots, happlied, hpassed⟩ | ⟨hempty, -⟩ := hrejected
  · refine ⟨⟨hviolations, hslots, happlied, hpassed⟩, hnone, rfl, hskipped, ?_⟩
    obtain ⟨hsome, -⟩ | ⟨-, -, -, -, hcount⟩ := hgranted
    · exact absurd hnone hsome
    · rw [hskipped] at hcount
      exact Nat.add_right_cancel hcount
  · exact absurd (hviolations.symm.trans hempty) (List.cons_ne_nil _ _)

end Swap

end PivotTable
