import PivotTable.Proofs.Placement.Positions

/-!
# Showing and hiding segments

Whether segments are shown or hidden, an outline hands the same metrics to the same subgroups. Main
statement: the placement with hidden segments is the placement with shown segments after the two lower
levels of every slot have been blanked.
-/
namespace PivotTable

/-- The path as far as it can be seen while segments are hidden. -/
def Path.hideSegments (p : Path) : Path := { p with level3 := "", level4 := "" }

def Slot.hideSegments (s : Slot) : Slot := { s with path := s.path.hideSegments }

def Placement.hideSegments (p : Placement) : Placement :=
  { p with slots := p.slots.map Slot.hideSegments }

namespace Leaf

def hideSegments (leaf : Leaf) : Leaf := { leaf with path := leaf.path.hideSegments }

/-- Two lists of leaves give every metric the same place. -/
def SameDeal (a b : List Leaf) : Prop :=
  total a = total b ∧ ∀ metrics, deal a metrics = deal b metrics

theorem SameDeal.refl (a : List Leaf) : SameDeal a a := ⟨rfl, fun _ => rfl⟩

theorem SameDeal.append {a a' b b' : List Leaf} (ha : SameDeal a a') (hb : SameDeal b b') :
    SameDeal (a ++ b) (a' ++ b') := by
  refine ⟨by rw [total_append, total_append, ha.1, hb.1], ?_⟩
  intro metrics
  rw [deal_append, deal_append, ha.1, ha.2, hb.2]

theorem SameDeal.flatMap {α : Type} {f g : α → List Leaf} (h : ∀ item, SameDeal (f item) (g item))
    (items : List α) : SameDeal (items.flatMap f) (items.flatMap g) := by
  induction items with
  | nil => exact .refl []
  | cons item rest ih => exact (h item).append ih

/-- Leaves at one place are as good as a single one that takes all their metrics. -/
theorem sameDeal_singleton {leaves : List Leaf} {path : Path}
    (h : ∀ leaf ∈ leaves, leaf.path = path) : SameDeal leaves [⟨path, total leaves⟩] := by
  refine ⟨by simp, ?_⟩
  induction leaves with
  | nil => simp [deal]
  | cons leaf rest ih =>
    intro metrics
    have hpath : leaf.path = path := h leaf (List.mem_cons_self ..)
    have hrest := ih (fun other hmem => h other (List.mem_cons_of_mem _ hmem))
    rw [deal, hrest, hpath]
    simp only [deal, List.append_nil, total_cons, List.take_add, List.map_append]

theorem map_hideSegments_deal (leaves : List Leaf) (metrics : List String) :
    (deal leaves metrics).map Slot.hideSegments = deal (leaves.map hideSegments) metrics := by
  induction leaves generalizing metrics with
  | nil => rfl
  | cons leaf rest ih =>
    rw [deal, List.map_append, ih, List.map_map]
    rfl

theorem total_map_hideSegments (leaves : List Leaf) : total (leaves.map hideSegments) = total leaves := by
  rw [total, List.map_map]
  rfl

theorem map_hideSegments_ofCount (path : Path) (count : Option UInt64) :
    (ofCount path count).map hideSegments = ofCount path.hideSegments count := by
  cases count <;> rfl

end Leaf

namespace Outline

theorem Segment.path_hideSegments {group subgroup : String} {s : Segment} {leaf : Leaf}
    (h : leaf ∈ s.leaves group subgroup) : leaf.path.hideSegments = ⟨group, subgroup, "", ""⟩ := by
  unfold Segment.leaves at h
  split at h
  · obtain ⟨n, -, rfl⟩ := List.mem_map.1 h
    rfl
  · obtain ⟨sub, -, hsub⟩ := List.mem_flatMap.1 h
    obtain ⟨n, -, rfl⟩ := List.mem_map.1 hsub
    rfl

/-- The subgroup takes as a whole what its segments take one by one. -/
theorem Subgroup.sameDeal_hideSegments (group : String) (s : Subgroup) :
    Leaf.SameDeal ((s.leaves true group).map Leaf.hideSegments) (s.leaves false group) := by
  by_cases h : s.segmentLeaves group = []
  · rw [leaves, leaves, if_pos h, if_pos h, Leaf.map_hideSegments_ofCount]
    exact .refl _
  · rw [leaves, leaves, if_neg h, if_neg h, if_pos rfl, if_neg (by decide),
      ← Leaf.total_map_hideSegments]
    apply Leaf.sameDeal_singleton
    intro leaf hleaf
    obtain ⟨shown, hshown, rfl⟩ := List.mem_map.1 hleaf
    obtain ⟨segment, -, hsegment⟩ := List.mem_flatMap.1 hshown
    exact Segment.path_hideSegments hsegment

theorem Group.sameDeal_hideSegments (g : Group) :
    Leaf.SameDeal ((g.leaves true).map Leaf.hideSegments) (g.leaves false) := by
  by_cases h : g.subgroups = []
  · rw [leaves, leaves, if_pos h, if_pos h, Leaf.map_hideSegments_ofCount]
    exact .refl _
  · rw [leaves, leaves, if_neg h, if_neg h, List.map_flatMap]
    exact .flatMap (Subgroup.sameDeal_hideSegments g.title) g.subgroups

theorem sameDeal_hideSegments (o : Outline) :
    Leaf.SameDeal ((o.leaves true).map Leaf.hideSegments) (o.leaves false) := by
  rw [leaves, leaves, List.map_flatMap]
  exact .flatMap Group.sameDeal_hideSegments o.groups

end Outline

namespace Walk

/-- Nothing has been placed below the level of subgroups. -/
def HidesSegments (w : Walk) : Prop := ∀ s ∈ w.slots, s.path.hideSegments = s.path

theorem hidesSegments_emitCounted {w : Walk} (hw : w.HidesSegments) {path : Path}
    (hpath : path.hideSegments = path) (count : Option Nat) :
    (w.emitCounted path count).HidesSegments := by
  cases count with
  | none => exact hw
  | some n =>
    intro s hs
    rcases List.mem_append.1 hs with hold | hnew
    · exact hw s hold
    · obtain ⟨metric, -, rfl⟩ := List.mem_map.1 hnew
      exact hpath

theorem hidesSegments_subgroup {w : Walk} (hw : w.HidesSegments) (group : String)
    (s : Outline.Subgroup) : (w.subgroup false group s).HidesSegments := by
  have hrecorded : HidesSegments { w with canonical := w.canonical.recordSubgroup s } := hw
  have hpath : Path.hideSegments ⟨group, s.title, "", ""⟩ = ⟨group, s.title, "", ""⟩ := rfl
  simp only [subgroup, Bool.false_and, Bool.false_eq_true, if_false]
  exact hidesSegments_emitCounted hrecorded hpath _

theorem hidesSegments_group {w : Walk} (hw : w.HidesSegments) (g : Outline.Group) :
    (w.group false g).HidesSegments := by
  have hrecorded : HidesSegments { w with canonical := w.canonical.recordGroup g } := hw
  have hpath : Path.hideSegments ⟨g.title, "", "", ""⟩ = ⟨g.title, "", "", ""⟩ := rfl
  simp only [group]
  split
  · exact hidesSegments_emitCounted hrecorded hpath _
  · exact List.foldlRecOn _ _ hrecorded fun _ h s _ => hidesSegments_subgroup h g.title s

theorem hidesSegments_outline {w : Walk} (hw : w.HidesSegments) (o : Outline) :
    (w.outline false o).HidesSegments :=
  List.foldlRecOn _ _ hw fun _ h g _ => hidesSegments_group h g

end Walk

namespace Placement

theorem hideSegments_of_mem_slots {o : Outline} {metrics : List String} {s : Slot}
    (hs : s ∈ (ofOutline o metrics false).slots) : s.path.hideSegments = s.path := by
  have hstart : (Walk.start metrics).HidesSegments := by
    intro s hs
    cases hs
  rcases List.mem_append.1 hs with hplaced | horphan
  · exact Walk.hidesSegments_outline hstart o s hplaced
  · obtain ⟨metric, -, rfl⟩ := List.mem_map.1 horphan
    rfl

theorem map_hideSegments_slots {metrics : List String} (fits : metrics.length ≤ Outline.countLimit)
    (o : Outline) :
    (ofOutline o metrics true).slots.map Slot.hideSegments = (ofOutline o metrics false).slots := by
  obtain ⟨htotal, hdeal⟩ := o.sameDeal_hideSegments
  have horphan (rest : List String) :
      (rest.map Slot.orphaned).map Slot.hideSegments = rest.map Slot.orphaned := by
    rw [List.map_map]
    rfl
  rw [Leaf.total_map_hideSegments] at htotal
  rw [slots_ofOutline fits, slots_ofOutline fits, List.map_append, Leaf.map_hideSegments_deal, hdeal,
    horphan, htotal]

theorem canonical_hidden (o : Outline) (metrics : List String) :
    (ofOutline o metrics false).canonical = (ofOutline o metrics true).canonical := by
  have hshown := map_metric_slots o metrics true
  have hhidden := map_metric_slots o metrics false
  simp only [ofOutline] at hshown hhidden ⊢
  simp only [CanonicalOrder.withSlotMetrics, hshown, hhidden, Walk.canonical_outline]

/-- Hiding the segments changes nothing but the two lower levels of the slots. -/
theorem ofOutline_hidden (o : Outline) (metrics : List String)
    (fits : metrics.length ≤ Outline.countLimit) :
    ofOutline o metrics false = (ofOutline o metrics true).hideSegments := by
  obtain ⟨htotal, -⟩ := o.sameDeal_hideSegments
  rw [Leaf.total_map_hideSegments] at htotal
  have hdeclared : (ofOutline o metrics false).declared = (ofOutline o metrics true).declared := by
    rw [declared_ofOutline fits, declared_ofOutline fits, htotal]
  have hslots := map_hideSegments_slots fits o
  have hcanonical := canonical_hidden o metrics
  rw [Placement.mk.injEq]
  exact ⟨hslots.symm, hdeclared, hcanonical⟩

/-- The counts of the segments exceed the limit together. -/
theorem ofOutline_hidden_beyond_limit :
    let o : Outline :=
      ⟨[⟨"G", none, [⟨"S", some 3,
        [⟨"X", some 1, []⟩, ⟨"Y", some 9, [⟨"y", some 18446744073709551615⟩]⟩, ⟨"Z", none, []⟩]⟩]⟩]⟩
    ["a", "b"].length ≤ Outline.countLimit ∧
      ofOutline o ["a", "b"] false = (ofOutline o ["a", "b"] true).hideSegments ∧
      (ofOutline o ["a", "b"] true).slots =
        [.placed ⟨"G", "S", "X", ""⟩ "a", .placed ⟨"G", "S", "Y", "y"⟩ "b"] :=
  ⟨by decide, ofOutline_hidden _ _ (by decide), by decide⟩

end Placement

end PivotTable
