import PivotTable.Proofs.Placement.Segments

/-!
# Declared sizes

However far the counts of an outline exceed the limit together, a placement tells whether their exact total is
the number of metrics: the metrics up to the total are placed and the rest are orphans, and a total beyond the
limit is taken for the limit, which no list of metrics reaches.
-/
namespace PivotTable

namespace Leaf

theorem map_orphan_deal (leaves : List Leaf) (metrics : List String) :
    (deal leaves metrics).map Slot.orphan = List.replicate (min (total leaves) metrics.length) false := by
  rw [List.eq_replicate_iff, List.length_map, length_deal]
  refine ⟨rfl, ?_⟩
  induction leaves generalizing metrics with
  | nil => simp [deal]
  | cons leaf rest ih =>
    intro orphan horphan
    rw [deal, List.map_append, List.mem_append] at horphan
    rcases horphan with hfirst | hrest
    · simp only [List.map_map, List.mem_map] at hfirst
      obtain ⟨metric, -, rfl⟩ := hfirst
      rfl
    · exact ih _ orphan hrest

end Leaf

/-- Hidden segments count as much as shown ones. -/
theorem Outline.total_leaves (o : Outline) (showSegments : Bool) :
    Leaf.total (o.leaves showSegments) = Leaf.total (o.leaves true) := by
  cases showSegments with
  | true => rfl
  | false =>
    obtain ⟨htotal, -⟩ := o.sameDeal_hideSegments
    rw [← htotal, Leaf.total_map_hideSegments]

namespace Placement

variable {metrics : List String}

theorem map_orphan_slots (fits : metrics.length ≤ Outline.countLimit) (o : Outline) (showSegments : Bool) :
    (ofOutline o metrics showSegments).slots.map Slot.orphan =
      List.replicate (min (Leaf.total (o.leaves true)) metrics.length) false ++
        List.replicate (metrics.length - Leaf.total (o.leaves true)) true := by
  have horphans (rest : List String) :
      (rest.map Slot.orphaned).map Slot.orphan = List.replicate rest.length true := by
    rw [List.map_map]
    exact List.map_const
  rw [slots_ofOutline fits, List.map_append, Leaf.map_orphan_deal, horphans, List.length_drop, o.total_leaves]

variable (o : Outline) (showSegments : Bool) (hmetrics : metrics.length < Outline.countLimit)

include hmetrics

/-- The limit is no number of metrics, so a total that is cut off there is still told apart. -/
theorem declared_eq_length_iff :
    (ofOutline o metrics showSegments).declared = metrics.length ↔
      Leaf.total (o.leaves true) = metrics.length := by
  rw [declared_ofOutline (Nat.le_of_lt hmetrics), o.total_leaves]
  omega

theorem any_orphan_iff :
    (ofOutline o metrics showSegments).slots.any Slot.orphan = true ↔
      Leaf.total (o.leaves true) < metrics.length := by
  have hany (slots : List Slot) : slots.any Slot.orphan = (slots.map Slot.orphan).any id := by
    rw [List.any_map]
    rfl
  rw [hany, map_orphan_slots (Nat.le_of_lt hmetrics)]
  simp [List.any_replicate, Nat.sub_eq_zero_iff_le]

theorem isMismatched_iff :
    (ofOutline o metrics showSegments).isMismatched = true ↔
      Leaf.total (o.leaves true) ≠ metrics.length := by
  have hlength : (ofOutline o metrics showSegments).slots.length = metrics.length := by
    rw [← List.length_map Slot.metric, map_metric_slots]
  rw [isMismatched, Bool.or_eq_true, bne_iff_ne, hlength, any_orphan_iff o showSegments hmetrics, Ne,
    declared_eq_length_iff o showSegments hmetrics]
  omega

end Placement

end PivotTable
