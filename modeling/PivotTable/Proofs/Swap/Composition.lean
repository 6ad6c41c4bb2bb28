import PivotTable.Proofs.Swap.Verdict

/-!
# Batches one after another

The verdict on a batch depends on the groups alone and not on the order in which the slots stand by now, so a
batch may be cut into parts that are applied in turn. Main statement: two batches that are joined are rejected
if one of them is, and otherwise do what the two do one after the other; and a batch is undone by the same
pairs from the last to the first.
-/
namespace PivotTable

section

variable {α : Type} {i j : Nat} {before after : List α}

theorem Exchanged.symm (h : Exchanged i j before after) : Exchanged i j after before :=
  ⟨h.second.symm, h.first.symm, fun k hki hkj => (h.others k hki hkj).symm⟩

namespace Swap

theorem exchange_exchange (s : Swap) (items : List α) : s.exchange (s.exchange items) = items := by
  cases hpos : s.positions? items.length with
  | none => rw [exchange_eq_self hpos, exchange_eq_self hpos]
  | some p =>
    obtain ⟨⟨-, hi⟩, -, hj⟩ := positions?_eq_some_iff.1 hpos
    have hagain : s.positions? (exchangeAt p.1 p.2 items).length = some p := by
      rw [length_exchangeAt, hpos]
    have honce : Exchanged p.1 p.2 items (exchangeAt p.1 p.2 items) := exchanged_exchangeAt hi hj
    have htwice : Exchanged p.1 p.2 (exchangeAt p.1 p.2 items)
        (exchangeAt p.1 p.2 (exchangeAt p.1 p.2 items)) := by
      apply exchanged_exchangeAt <;> rwa [length_exchangeAt]
    rw [exchange_eq_exchangeAt hpos, exchange_eq_exchangeAt hagain]
    exact htwice.unique honce.symm

theorem exchangeAll_reverse (swaps : List Swap) (items : List α) :
    exchangeAll swaps.reverse (exchangeAll swaps items) = items := by
  induction swaps generalizing items with
  | nil => rfl
  | cons s rest ih =>
    have hrest : exchangeAll rest.reverse (exchangeAll (s :: rest) items) = s.exchange items := ih _
    rw [List.reverse_cons, exchangeAll_append, hrest]
    exact s.exchange_exchange items

end Swap

end

namespace Swap

variable {a b swaps : List Swap} {groups : Option Grouping} {slots : List Slot}

/-- The places of the second batch are counted on from the end of the first. -/
theorem outside_append (a b : List Swap) (size : Nat) :
    outside (a ++ b) size = outside a size ++ (outside b size).map (a.length + ·) := by
  have hplaces : b.zipIdx a.length = b.zipIdx.map fun place => (place.1, a.length + place.2) :=
    List.zipIdx_eq_map_add
  simp only [outside, List.zipIdx_append, Nat.zero_add, List.filterMap_append, hplaces,
    List.filterMap_map, List.map_filterMap]
  congr 2
  funext place
  dsimp only [Function.comp]
  split <;> rfl

theorem legal_reverse : Legal swaps.reverse groups ↔ Legal swaps groups := by
  simp only [Legal, violations_eq_nil_iff, List.mem_reverse]

theorem isRejected_apply_iff : (apply slots swaps groups).isRejected = true ↔ ¬ Legal swaps groups := by
  rw [← violations_apply_eq_nil_iff, SwapOutcome.isRejected, Bool.not_eq_true', ← Bool.not_eq_true,
    List.isEmpty_iff]

/-- Whether a batch is rejected is not up to the slots. -/
theorem isRejected_apply_congr (slots other : List Slot) (swaps : List Swap) (groups : Option Grouping) :
    (apply slots swaps groups).isRejected = (apply other swaps groups).isRejected := by
  rw [Bool.eq_iff_iff, isRejected_apply_iff, isRejected_apply_iff]

theorem isRejected_apply_append (slots : List Slot) (a b : List Swap) (groups : Option Grouping) :
    (apply slots (a ++ b) groups).isRejected =
      ((apply slots a groups).isRejected || (apply slots b groups).isRejected) := by
  rw [Bool.eq_iff_iff, Bool.or_eq_true, isRejected_apply_iff, isRejected_apply_iff, isRejected_apply_iff,
    legal_append, Classical.not_and_iff_not_or_not]

theorem legal_of_not_isRejected (h : (apply slots swaps groups).isRejected = false) : Legal swaps groups :=
  Classical.not_not.1 (mt isRejected_apply_iff.2 (Bool.eq_false_iff.1 h))

theorem length_slots_apply (slots : List Slot) (swaps : List Swap) (groups : Option Grouping) :
    (apply slots swaps groups).slots.length = slots.length := by
  by_cases h : Legal swaps groups
  · rw [slots_apply_of_legal h, length_exchangeAll]
  · rw [slots_apply_of_not_legal h]

theorem apply_append_of_legal (ha : Legal a groups) (hb : Legal b groups) :
    let first := apply slots a groups
    let second := apply first.slots b groups
    apply slots (a ++ b) groups =
      ⟨second.slots, first.applied + second.applied, first.skipped ++ second.skipped.map (a.length + ·), []⟩ := by
  intro first second
  have hfirst : first = _ := apply_of_legal ha
  have hsecond : second = _ := apply_of_legal hb
  have hsize : first.slots.length = slots.length := length_slots_apply slots a groups
  have hskipped : outside (a ++ b) slots.length = first.skipped ++ second.skipped.map (a.length + ·) := by
    rw [outside_append, hsecond, hsize, hfirst]
  have hslots : exchangeAll (a ++ b) slots = second.slots := by
    rw [exchangeAll_append, hsecond, hfirst]
  have happlied : (a ++ b).length - (outside (a ++ b) slots.length).length =
      first.applied + second.applied := by
    have hle := length_outside_le a slots.length
    have hle' := length_outside_le b slots.length
    rw [outside_append, hsecond, hsize, hfirst, List.length_append, List.length_append, List.length_map]
    dsimp only
    omega
  rw [apply_of_legal (legal_append.2 ⟨ha, hb⟩), happlied, hskipped, hslots]

theorem slots_apply_reverse (slots : List Slot) (swaps : List Swap) (groups : Option Grouping) :
    (apply (apply slots swaps groups).slots swaps.reverse groups).slots = slots := by
  by_cases h : Legal swaps groups
  · rw [slots_apply_of_legal (legal_reverse.2 h), slots_apply_of_legal h, exchangeAll_reverse]
  · rw [slots_apply_of_not_legal (mt legal_reverse.1 h), slots_apply_of_not_legal h]

/-- Batches compose and can be undone, under any groups. -/
theorem apply_append_reverse (slots : List Slot) (a b : List Swap) (groups : Option Grouping) :
    let first := apply slots a groups
    let second := apply first.slots b groups
    let whole := apply slots (a ++ b) groups
    (∀ other, (apply other b groups).isRejected = second.isRejected) ∧
      whole.isRejected = (first.isRejected || second.isRejected) ∧
      (first.isRejected = false → second.isRejected = false →
        whole.slots = second.slots ∧ whole.applied = first.applied + second.applied ∧
          whole.skipped = first.skipped ++ second.skipped.map (a.length + ·)) ∧
      (apply first.slots a.reverse groups).slots = slots := by
  intro first second whole
  refine ⟨fun other => isRejected_apply_congr _ _ _ _, ?_, ?_, slots_apply_reverse slots a groups⟩
  · rw [isRejected_apply_congr first.slots slots]
    exact isRejected_apply_append slots a b groups
  · intro hfirst hsecond
    have hwhole : whole = _ :=
      apply_append_of_legal (legal_of_not_isRejected hfirst) (legal_of_not_isRejected hsecond)
    rw [hwhole]
    exact ⟨rfl, rfl, rfl⟩

/-- Groups that cover two of the three slots, and pairs that point outside the list in both batches. -/
theorem apply_append_reverse_skipping :
    let groups := some (Grouping.ofSlots true " / "
      [.placed ⟨"Media", "", "", ""⟩ "reach", .placed ⟨"Media", "", "", ""⟩ "likes"])
    let slots : List Slot := [.placed ⟨"Media", "", "", ""⟩ "spend", .placed ⟨"Sales", "", "", ""⟩ "orders",
      .placed ⟨"Sales", "", "", ""⟩ "revenue"]
    let a : List Swap := [⟨0, 1⟩, ⟨5, 0⟩]
    let b : List Swap := [⟨-1, 2⟩, ⟨1, 2⟩]
    let first := apply slots a groups
    let whole := apply slots (a ++ b) groups
    (first.isRejected = false ∧ (apply first.slots b groups).isRejected = false) ∧
      whole.slots.map Slot.metric = ["orders", "revenue", "spend"] ∧ whole.applied = 2 ∧
      whole.skipped = [1, 2] ∧ (apply first.slots a.reverse groups).slots = slots := by
  intro groups slots a b first whole
  obtain ⟨-, -, hcompose, hundone⟩ := apply_append_reverse slots a b groups
  have hfirst : first.isRejected = false := by rfl
  have hsecond : (apply first.slots b groups).isRejected = false := by rfl
  obtain ⟨hslots, happlied, hskipped⟩ := hcompose hfirst hsecond
  refine ⟨⟨hfirst, hsecond⟩, ?_, happlied.trans ?_, hskipped.trans ?_, hundone⟩
  · rw [hslots]
    rfl
  · rfl
  · rfl

end Swap

end PivotTable
