import PivotTable.Proofs.Grouping
import PivotTable.Swap.Plan

/-!
# Batches of swaps

What a batch does to a list, whatever the items are: it permutes them, it does the same to their images
under a function, and it does nothing to a list that has equal items at the endpoints of every pair. A
batch is accepted if and only if each of its pairs is, and the groups of slots tell a pair as a violation if
and only if it joins two slots with different paths.
-/
namespace PivotTable

section

variable {α β : Type}

theorem exchangeAt_perm (i j : Nat) (items : List α) : (exchangeAt i j items).Perm items := by
  unfold exchangeAt
  split
  · next x y hx hy =>
    obtain ⟨hi, rfl⟩ := List.getElem?_eq_some_iff.1 hx
    obtain ⟨hj, rfl⟩ := List.getElem?_eq_some_iff.1 hy
    exact List.set_set_perm hi hj
  · exact .refl _

theorem map_exchangeAt (f : α → β) (i j : Nat) (items : List α) :
    (exchangeAt i j items).map f = exchangeAt i j (items.map f) := by
  simp only [exchangeAt, List.getElem?_map]
  cases items[i]? with
  | none => rfl
  | some x =>
    cases items[j]? with
    | none => rfl
    | some y => simp [List.map_set]

theorem exchangeAt_of_eq {i j : Nat} {items : List α} (h : items[i]? = items[j]?) :
    exchangeAt i j items = items := by
  unfold exchangeAt
  rw [← h]
  cases hx : items[i]? with
  | none => rfl
  | some x =>
    obtain ⟨hi, rfl⟩ := List.getElem?_eq_some_iff.1 hx
    obtain ⟨hj, hjx⟩ := List.getElem?_eq_some_iff.1 (h.symm.trans hx)
    simp only [List.set_getElem_self]
    rw [← hjx, List.set_getElem_self]

namespace Swap

theorem position?_eq_some_iff {size p : Nat} {i : Int} :
    position? size i = some p ↔ i = p ∧ p < size := by
  unfold position?
  split
  · rw [Option.some.injEq]
    omega
  · simp only [reduceCtorEq, false_iff]
    omega

theorem positions?_eq_some_iff {size i j : Nat} {s : Swap} :
    s.positions? size = some (i, j) ↔ (s.first = i ∧ i < size) ∧ s.second = j ∧ j < size := by
  rw [← position?_eq_some_iff, ← position?_eq_some_iff]
  unfold positions?
  cases position? size s.first with
  | none => simp
  | some p => cases position? size s.second with
    | none => simp
    | some q => simp

theorem exchange_perm (s : Swap) (items : List α) : (s.exchange items).Perm items := by
  unfold exchange
  split
  · exact exchangeAt_perm _ _ _
  · exact .refl _

theorem exchangeAll_perm (swaps : List Swap) (items : List α) :
    (exchangeAll swaps items).Perm items := by
  induction swaps generalizing items with
  | nil => exact .refl _
  | cons s rest ih => exact (ih _).trans (s.exchange_perm items)

theorem map_exchange (f : α → β) (s : Swap) (items : List α) :
    (s.exchange items).map f = s.exchange (items.map f) := by
  unfold exchange
  rw [List.length_map]
  split
  · exact map_exchangeAt f _ _ _
  · rfl

theorem map_exchangeAll (f : α → β) (swaps : List Swap) (items : List α) :
    (exchangeAll swaps items).map f = exchangeAll swaps (items.map f) := by
  induction swaps generalizing items with
  | nil => rfl
  | cons s rest ih =>
    rw [exchangeAll, List.foldl_cons, ← exchangeAll, ih, map_exchange]
    rfl

/-- A batch moves nothing if the items at the endpoints of its pairs cannot be told apart. -/
theorem exchangeAll_eq_self {swaps : List Swap} {items : List α}
    (h : ∀ s ∈ swaps, ∀ i j, s.positions? items.length = some (i, j) → items[i]? = items[j]?) :
    exchangeAll swaps items = items := by
  induction swaps with
  | nil => rfl
  | cons s rest ih =>
    have hs : s.exchange items = items := by
      unfold exchange
      split
      · next i j hpos => exact exchangeAt_of_eq (h s (List.mem_cons_self ..) i j hpos)
      · rfl
    rw [exchangeAll, List.foldl_cons, hs]
    exact ih fun t ht => h t (List.mem_cons_of_mem _ ht)

end Swap

end

/-- The ends of the pair are positions of these two slots, and the slots have different paths. -/
def Swap.Joins (showSegments : Bool) (slots : List Slot) (s : Swap) (x y : Slot) : Prop :=
  (∃ i : Nat, s.first = i ∧ slots[i]? = some x) ∧ (∃ j : Nat, s.second = j ∧ slots[j]? = some y) ∧
    x.groupPath showSegments ≠ y.groupPath showSegments

/-- The pair joins two slots, and the groups are named by the display keys of these. -/
def Violation.Tells (showSegments : Bool) (separator : String) (slots : List Slot) (v : Violation) :
    Prop :=
  ∃ x y, v.swap.Joins showSegments slots x y ∧ v.firstGroup = x.groupKey showSegments separator ∧
    v.secondGroup = y.groupKey showSegments separator

namespace Swap

/-- The groups have nothing against the pair, wherever in a batch it stands. -/
def Respects (groups : Grouping) (s : Swap) : Prop := ∀ index, s.violation? groups index = none

theorem violation?_eq_none_congr (groups : Grouping) (s : Swap) (index other : Nat)
    (h : s.violation? groups index = none) : s.violation? groups other = none := by
  revert h
  unfold violation?
  cases s.positions? groups.slotCount with
  | none => simp
  | some p =>
    simp only [Option.bind_eq_bind, Option.bind_some]
    split
    · simp
    · cases groups.keyOf? p.1 <;> cases groups.keyOf? p.2 <;> simp

theorem violations_eq_nil_iff {swaps : List Swap} {groups : Grouping} :
    violations swaps groups = [] ↔ ∀ s ∈ swaps, s.Respects groups := by
  unfold violations
  rw [List.filterMap_eq_nil_iff]
  constructor
  · intro h s hs index
    obtain ⟨place, hplace⟩ := List.mem_iff_getElem?.1 hs
    exact violation?_eq_none_congr groups s place index
      (h (s, place) (List.mem_zipIdx_iff_getElem?.2 hplace))
  · rintro h ⟨s, place⟩ hplace
    exact h s (List.mem_of_getElem? (List.mem_zipIdx_iff_getElem?.1 hplace)) place

theorem violations_append_eq_nil_iff {a b : List Swap} {groups : Grouping} :
    violations (a ++ b) groups = [] ↔ violations a groups = [] ∧ violations b groups = [] := by
  simp only [violations_eq_nil_iff, List.forall_mem_append]

/-- The index of the groups neither loses a violation nor names a wrong group. -/
theorem violation?_ofSlots_eq_some_iff {showSegments : Bool} {separator : String} {slots : List Slot}
    {index : Nat} {s : Swap} {v : Violation} :
    s.violation? (.ofSlots showSegments separator slots) index = some v ↔
      v.index = index ∧ v.swap = s ∧ v.Tells showSegments separator slots := by
  unfold violation?
  rw [Grouping.slotCount_ofSlots]
  constructor
  · intro h
    cases hpos : s.positions? slots.length with
    | none => simp [hpos] at h
    | some p =>
      obtain ⟨i, j⟩ := p
      obtain ⟨⟨hfirst, hi⟩, hsecond, hj⟩ := positions?_eq_some_iff.1 hpos
      have hx := List.getElem?_eq_getElem hi
      have hy := List.getElem?_eq_getElem hj
      simp only [hpos, Option.bind_eq_bind, Option.bind_some, Grouping.keyOf?_ofSlots hx,
        Grouping.keyOf?_ofSlots hy, Grouping.sameGroup_ofSlots hx hy] at h
      split at h
      · cases h
      · next hpath =>
        obtain rfl := Option.some.inj h
        exact ⟨rfl, rfl, _, _, ⟨⟨i, hfirst, hx⟩, ⟨j, hsecond, hy⟩, hpath⟩, rfl, rfl⟩
  · rintro ⟨rfl, rfl, x, y, ⟨⟨i, hfirst, hx⟩, ⟨j, hsecond, hy⟩, hpath⟩, hkx, hky⟩
    have hi := (List.getElem?_eq_some_iff.1 hx).1
    have hj := (List.getElem?_eq_some_iff.1 hy).1
    have hpos : v.swap.positions? slots.length = some (i, j) :=
      positions?_eq_some_iff.2 ⟨⟨hfirst, hi⟩, hsecond, hj⟩
    simp only [hpos, Option.bind_eq_bind, Option.bind_some, Grouping.keyOf?_ofSlots hx,
      Grouping.keyOf?_ofSlots hy, Grouping.sameGroup_ofSlots hx hy, if_neg hpath, ← hkx, ← hky]

theorem respects_ofSlots_iff {showSegments : Bool} {separator : String} {slots : List Slot} {s : Swap} :
    s.Respects (.ofSlots showSegments separator slots) ↔
      ∀ i j x y, s.positions? slots.length = some (i, j) → slots[i]? = some x → slots[j]? = some y →
        x.groupPath showSegments = y.groupPath showSegments := by
  constructor
  · intro h i j x y hpos hx hy
    obtain ⟨⟨hfirst, -⟩, hsecond, -⟩ := positions?_eq_some_iff.1 hpos
    apply Decidable.byContradiction
    intro hpath
    have hsome : s.violation? (.ofSlots showSegments separator slots) 0 =
        some ⟨0, s, x.groupKey showSegments separator, y.groupKey showSegments separator⟩ :=
      violation?_ofSlots_eq_some_iff.2
        ⟨rfl, rfl, x, y, ⟨⟨i, hfirst, hx⟩, ⟨j, hsecond, hy⟩, hpath⟩, rfl, rfl⟩
    rw [h 0] at hsome
    cases hsome
  · intro h index
    rw [Option.eq_none_iff_forall_ne_some]
    intro v hv
    obtain ⟨-, rfl, x, y, ⟨⟨i, hfirst, hx⟩, ⟨j, hsecond, hy⟩, hpath⟩, -⟩ :=
      violation?_ofSlots_eq_some_iff.1 hv
    have hi := (List.getElem?_eq_some_iff.1 hx).1
    have hj := (List.getElem?_eq_some_iff.1 hy).1
    exact hpath (h i j x y (positions?_eq_some_iff.2 ⟨⟨hfirst, hi⟩, hsecond, hj⟩) hx hy)

end Swap

end PivotTable
