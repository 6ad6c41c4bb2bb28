import Mathlib.Order.Interval.Finset.Nat
import PivotTable.Proofs.Swap.Colours

/-!
# Drags

A drag shifts the items between two positions by one place, so the positions from the one to the other lie
on one cycle and all others stay. The orders before and after it agree in colours if and only if all these
positions have one colour. Main statement: a drag within the list is refused if and only if it leaves the
group, and otherwise takes one swap for each place that the item is moved by.
-/
namespace PivotTable

/-- All positions from `first` to `last` are in one group. -/
def Grouping.Unites (g : Grouping) (first last : Nat) : Prop :=
  ∀ p q, first ≤ p → p ≤ last → first ≤ q → q ≤ last → g.sameGroup p q = true

namespace Plan

section

variable {α β : Type} {origin destination : Nat} {items : List α}

/-- The position that the item at `position` comes from. -/
def dragSource (origin destination position : Nat) : Nat :=
  if position = destination then origin
  else if origin ≤ position ∧ position < destination then position + 1
  else if destination < position ∧ position ≤ origin then position - 1
  else position

theorem dragged_of_lt (ho : origin < items.length) :
    dragged origin destination items = (items.eraseIdx origin).insertIdx destination items[origin] := by
  rw [dragged, List.getElem?_eq_getElem ho]

theorem getElem?_dragged (ho : origin < items.length) (hd : destination < items.length) (p : Nat) :
    (dragged origin destination items)[p]? = items[dragSource origin destination p]? := by
  have hlength := List.length_eraseIdx_of_lt ho
  rw [dragged_of_lt ho, List.getElem?_insertIdx, dragSource]
  by_cases hp : p < destination
  · rw [if_pos hp, if_neg (Nat.ne_of_lt hp), List.getElem?_eraseIdx]
    by_cases hpo : p < origin
    · rw [if_pos hpo, if_neg (by omega), if_neg (by omega)]
    · rw [if_neg hpo, if_pos (by omega)]
  · rw [if_neg hp]
    by_cases hpd : p = destination
    · rw [if_pos hpd, if_pos hpd, if_pos (by omega), List.getElem?_eq_getElem ho]
    · rw [if_neg hpd, if_neg hpd, if_neg (by omega), List.getElem?_eraseIdx]
      by_cases hpo : p - 1 < origin
      · rw [if_pos hpo, if_pos (by omega)]
      · rw [if_neg hpo, if_neg (by omega), Nat.sub_add_cancel (by omega)]

theorem map_dragged (f : α → β) (ho : origin < items.length) :
    (dragged origin destination items).map f = dragged origin destination (items.map f) := by
  rw [dragged_of_lt ho, dragged_of_lt (by rwa [List.length_map]), List.map_insertIdx, List.eraseIdx_map,
    List.getElem_map]

theorem dragged_perm (ho : origin < items.length) (hd : destination < items.length) :
    (dragged origin destination items).Perm items := by
  have hlength := List.length_eraseIdx_of_lt ho
  rw [dragged_of_lt ho]
  exact (List.perm_insertIdx _ _ (by omega)).trans (List.getElem_cons_eraseIdx_perm ho)

end

section

variable {κ : Type} {origin destination size : Nat}

theorem dragged_range (ho : origin < size) (hd : destination < size) :
    dragged origin destination (List.range size) =
      (List.range size).map (dragSource origin destination) := by
  apply List.ext_getElem?
  intro p
  rw [getElem?_dragged (by rwa [List.length_range]) (by rwa [List.length_range]), List.getElem?_map]
  by_cases hp : p < size
  · have hsource : dragSource origin destination p < size := by
      unfold dragSource
      split_ifs <;> omega
    rw [List.getElem?_range hsource, List.getElem?_range hp, Option.map_some]
  · have hsource : dragSource origin destination p = p := by
      unfold dragSource
      split_ifs <;> omega
    rw [hsource, List.getElem?_eq_none (by rw [List.length_range]; omega), Option.map_none]

/-- What all steps of a drag keep is the same at all positions between its ends. -/
theorem map_dragged_eq_iff {colour : Nat → κ} (ho : origin < size) (hd : destination < size) :
    (dragged origin destination (List.range size)).map colour = (List.range size).map colour ↔
      ∀ p, min origin destination ≤ p → p ≤ max origin destination → colour p = colour origin := by
  rw [dragged_range ho hd, List.map_map, List.map_inj_left]
  simp only [List.mem_range, Function.comp_apply]
  constructor
  · intro h
    -- neighbours between the ends have one colour
    have hnext (p : Nat) (hfirst : min origin destination ≤ p) (hlast : p < max origin destination) :
        colour (p + 1) = colour p := by
      by_cases hod : origin < destination
      · have hp := h p (by omega)
        rwa [dragSource, if_neg (by omega), if_pos (by omega)] at hp
      · have hp := h (p + 1) (by omega)
        rw [dragSource, if_neg (by omega), if_neg (by omega), if_pos (by omega)] at hp
        exact hp.symm
    have hfirst (p : Nat) (hp : min origin destination ≤ p) :
        p ≤ max origin destination → colour p = colour (min origin destination) := by
      induction p, hp using Nat.le_induction with
      | base => exact fun _ => rfl
      | succ p hp ih => exact fun hlast => (hnext p hp hlast).trans (ih (by omega))
    intro p hp hlast
    rw [hfirst p hp hlast, hfirst origin (by omega) (by omega)]
  · intro h p _
    unfold dragSource
    split
    · next hp => rw [h p (by omega) (by omega)]
    · split
      · rw [h (p + 1) (by omega) (by omega), h p (by omega) (by omega)]
      · split
        · rw [h (p - 1) (by omega) (by omega), h p (by omega) (by omega)]
        · rfl

theorem toFinset_map_range [DecidableEq κ] (colour : Nat → κ) (size : Nat) :
    ((List.range size).map colour).toFinset = (Finset.range size).image colour := by
  ext x
  simp

/-- Positions of one colour cost a colour each, but for the first of them. -/
theorem card_add_le_size [DecidableEq κ] {colour : Nat → κ} {first last : Nat} (hfirst : first ≤ last)
    (hlast : last < size) (h : ∀ p, first ≤ p → p ≤ last → colour p = colour first) :
    ((List.range size).map colour).toFinset.card + (last - first) ≤ size := by
  have hinside : Finset.Ioc first last ⊆ Finset.range size := by
    intro p hp
    rw [Finset.mem_Ioc] at hp
    exact Finset.mem_range.2 (by omega)
  have hsubset : (Finset.range size).image colour ⊆
      (Finset.range size \ Finset.Ioc first last).image colour := by
    intro x hx
    obtain ⟨p, hp, rfl⟩ := Finset.mem_image.1 hx
    by_cases hbetween : p ∈ Finset.Ioc first last
    · rw [Finset.mem_Ioc] at hbetween
      rw [h p (by omega) hbetween.2]
      exact Finset.mem_image_of_mem _ (by simp; omega)
    · exact Finset.mem_image_of_mem _ (Finset.mem_sdiff.2 ⟨hp, hbetween⟩)
  have hcard := (Finset.card_le_card hsubset).trans Finset.card_image_le
  have hrest := Finset.card_sdiff_add_card_eq_card hinside
  rw [Nat.card_Ioc, Finset.card_range] at hrest
  rw [toFinset_map_range]
  omega

/-- The position, or the first of some positions that are taken for one. -/
def collapse (first last position : Nat) : Nat :=
  if first < position ∧ position ≤ last then first else position

theorem size_le_card_collapse_add (first last size : Nat) :
    size ≤ ((List.range size).map (collapse first last)).toFinset.card + (last - first) := by
  have hsubset : Finset.range size ⊆
      (Finset.range size).image (collapse first last) ∪ Finset.Ioc first last := by
    intro p hp
    by_cases hbetween : first < p ∧ p ≤ last
    · exact Finset.mem_union_right _ (Finset.mem_Ioc.2 hbetween)
    · exact Finset.mem_union_left _ (Finset.mem_image.2 ⟨p, hp, if_neg hbetween⟩)
  have hcard := (Finset.card_le_card hsubset).trans (Finset.card_union_le _ _)
  rwa [Finset.card_range, Nat.card_Ioc, ← toFinset_map_range] at hcard

theorem length_delta_dragged {delta : List Swap} (ho : origin < size) (hd : destination < size)
    (h : Swap.delta? (List.range size) (dragged origin destination (List.range size)) = some delta) :
    delta.length = max origin destination - min origin destination := by
  obtain ⟨hperm, hwalk⟩ := Swap.delta?_eq_some_iff.1 h
  apply Nat.le_antisymm
  · -- the positions between the ends are taken for one, and no others
    have hkept : (dragged origin destination (List.range size)).map
          (collapse (min origin destination) (max origin destination)) =
        (List.range size).map (collapse (min origin destination) (max origin destination)) := by
      refine (map_dragged_eq_iff ho hd).2 fun p hp hlast => ?_
      unfold collapse
      split_ifs <;> omega
    have hcount := Swap.length_deltaFrom_add_card_le hkept.symm hwalk
    have hcard := size_le_card_collapse_add (min origin destination) (max origin destination) size
    rw [hkept, ← hperm.length_eq, List.length_range] at hcount
    omega
  · obtain ⟨colours, rfl, hwithin, hcard⟩ := Swap.exists_colours delta size
    have hkept := (map_dragged_eq_iff ho hd).1 ((Swap.forall_within_iff h).1 hwithin)
    have hcount : ((List.range colours.length).map (colours[·]?)).toFinset.card +
        (max origin destination - min origin destination) ≤ colours.length := by
      refine card_add_le_size (by omega) (by omega) fun p hp hlast => ?_
      rw [hkept p hp hlast, hkept _ (Nat.le_refl _) (by omega)]
    rw [Swap.map_range_getElem?, Swap.card_map_some] at hcount
    omega

theorem legal_delta_dragged_iff {groups : Option Grouping} {delta : List Swap}
    (hgroups : ∀ g ∈ groups, g.Covers size) (ho : origin < size) (hd : destination < size)
    (h : Swap.delta? (List.range size) (dragged origin destination (List.range size)) = some delta) :
    Swap.Legal delta groups ↔
      ∀ g ∈ groups, g.Unites (min origin destination) (max origin destination) := by
  refine forall₂_congr fun g hg => ?_
  obtain rfl := (hgroups g hg).length_slotGroups
  rw [Swap.violations_eq_nil_iff_within (hgroups g hg), Swap.forall_within_iff h,
    map_dragged_eq_iff ho hd]
  constructor
  · intro hsame p q hp hlast hq hqlast
    rw [Grouping.sameGroup_iff (by omega), hsame p hp hlast, hsame q hq hqlast]
  · intro hunites p hp hlast
    exact (Grouping.sameGroup_iff (by omega)).1 (hunites p origin hp hlast (by omega) (by omega))

theorem exchangeAll_eq_dragged {α : Type} {items : List α} {delta : List Swap}
    (ho : origin < items.length)
    (h : Swap.exchangeAll delta (List.range items.length) =
      dragged origin destination (List.range items.length)) :
    Swap.exchangeAll delta items = dragged origin destination items := by
  have hmapped := congrArg (List.map (items[·]?)) h
  rw [Swap.map_exchangeAll, map_dragged _ (by rwa [List.length_range]), Swap.map_range_getElem?,
    ← Swap.map_exchangeAll, ← map_dragged _ ho] at hmapped
  exact List.map_injective_iff.2 (Option.some_injective α) hmapped

end

/-- A drag is refused for the first end that is not in the list, or else for leaving the group, and goes
through otherwise. -/
theorem move_exact (slots : List Slot) (groups : Option Grouping) (origin destination : Nat)
    (hgroups : ∀ g ∈ groups, g.Covers slots.length) :
    (slots.length ≤ origin →
        move slots groups origin destination = .error (.outOfRange origin slots.length)) ∧
      (origin < slots.length → slots.length ≤ destination →
        move slots groups origin destination = .error (.outOfRange destination slots.length)) ∧
      ∀ (ho : origin < slots.length), destination < slots.length →
        let inGroup := ∀ g ∈ groups, g.Unites (min origin destination) (max origin destination)
        (¬ inGroup → ∃ violations, violations ≠ [] ∧
          move slots groups origin destination = .error (.crossGroup violations)) ∧
        (inGroup → ∃ plan, move slots groups origin destination = .ok plan ∧
          plan.slots = (slots.eraseIdx origin).insertIdx destination slots[origin] ∧
          plan.delta.length = ((origin : Int) - destination).natAbs ∧
          Swap.Exchanges plan.delta slots plan.slots) := by
  refine ⟨fun ho => ?_, fun ho hd => ?_, fun ho hd => ?_⟩
  · simp only [move, if_pos ho]
  · simp only [move, if_neg (Nat.not_le.2 ho), if_pos hd]
  · intro inGroup
    have hperm : (List.range slots.length).Perm
        (dragged origin destination (List.range slots.length)) :=
      (dragged_perm (by rwa [List.length_range]) (by rwa [List.length_range])).symm
    obtain ⟨delta, hdelta⟩ := Swap.exists_delta?_iff.2 hperm
    have hmove : move slots groups origin destination = ofDelta slots groups delta := by
      simp only [move, if_neg (Nat.not_le.2 ho), if_neg (Nat.not_le.2 hd), deltaBetween, hdelta]
      rfl
    have hlegal := legal_delta_dragged_iff hgroups ho hd hdelta
    rw [hmove]
    constructor
    · intro hcross
      exact ofDelta_of_not_legal (mt hlegal.1 hcross)
    · intro hin
      have hreached := Swap.exchangeAll_delta? hdelta
      refine ⟨_, ofDelta_of_legal (hlegal.2 hin), ?_, ?_, Swap.exchanges_exchangeAll delta slots⟩
      · rw [exchangeAll_eq_dragged ho hreached, dragged_of_lt ho]
      · rw [length_delta_dragged ho hd hdelta]
        omega

/-- The ends of the drag are in one group, but a slot between them is not. -/
theorem move_exact_overAnother :
    let slots : List Slot := [.placed ⟨"G", "", "", ""⟩ "a", .placed ⟨"H", "", "", ""⟩ "b",
      .placed ⟨"G", "", "", ""⟩ "c"]
    let g := Grouping.ofSlots true " / " slots
    (∀ h ∈ some g, h.Covers slots.length) ∧ g.sameGroup 0 2 = true ∧
      ∃ violations, violations ≠ [] ∧ move slots (some g) 0 2 = .error (.crossGroup violations) := by
  intro slots g
  have hcovers : ∀ h ∈ some g, h.Covers slots.length := by
    intro h hh
    obtain rfl := Option.some.inj hh
    exact Grouping.covers_ofSlots true " / " slots
  refine ⟨hcovers, by decide, ((move_exact slots (some g) 0 2 hcovers).2.2 (by decide) (by decide)).1 ?_⟩
  intro hin
  have hmiddle : g.sameGroup 0 1 = true := hin g rfl 0 1 (by decide) (by decide) (by decide) (by decide)
  exact absurd hmiddle (by decide)

end Plan

end PivotTable
