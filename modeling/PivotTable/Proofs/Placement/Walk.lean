import PivotTable.Proofs.Placement.Leaves

/-!
# What a walk through an outline places

However its branches are nested, a walk serves the leaves of the outline one after the other from what is
left of the metrics. Hence the slots of a placement are the metrics dealt out to the leaves, with orphans
for the rest, and its declared size is the exact total of the leaves as far as a count can tell.
-/
namespace PivotTable

/-- Gives each leaf as many metrics as it takes, while there are any. -/
def Leaf.deal : List Leaf → List String → List Slot
  | [], _ => []
  | leaf :: rest, metrics =>
    (metrics.take leaf.count).map (Slot.placed leaf.path) ++ deal rest (metrics.drop leaf.count)

theorem Leaf.deal_append (a b : List Leaf) (metrics : List String) :
    deal (a ++ b) metrics = deal a metrics ++ deal b (metrics.drop (total a)) := by
  induction a generalizing metrics with
  | nil => simp [deal]
  | cons leaf rest ih => simp [deal, ih, List.drop_drop]

namespace Supply

/-- The number of metrics is one that a count can tell. -/
def Fits (s : Supply) : Prop := s.metrics.length ≤ Outline.countLimit

variable {s : Supply}

theorem taken_eq (fits : s.Fits) (count : Nat) : s.taken count = s.rest.take count := by
  have hlen : s.metrics.length ≤ Outline.countLimit := fits
  rw [taken, rest, List.drop_take, List.take_eq_take_iff, List.length_drop, stop,
    Outline.addCount_eq_min]
  omega

theorem rest_advance (fits : s.Fits) (count : Nat) : (s.advance count).rest = s.rest.drop count := by
  have hlen : s.metrics.length ≤ Outline.countLimit := fits
  have hstop : s.stop count = min (s.next + count) s.metrics.length := by
    rw [stop, Outline.addCount_eq_min]
    omega
  rw [rest, rest, advance, List.drop_drop, hstop]
  rcases Nat.le_total (s.next + count) s.metrics.length with h | h
  · rw [Nat.min_eq_left h]
  · rw [Nat.min_eq_right h, List.drop_length, List.drop_eq_nil_of_le h]

/-- A count beyond the limit takes no more than the limit does. -/
theorem take_rest_min (fits : s.Fits) (count : Nat) :
    s.rest.take (min count Outline.countLimit) = s.rest.take count := by
  have hlen : s.metrics.length ≤ Outline.countLimit := fits
  rw [List.take_eq_take_iff, rest, List.length_drop]
  omega

theorem drop_rest_min (fits : s.Fits) (count : Nat) :
    s.rest.drop (min count Outline.countLimit) = s.rest.drop count := by
  have hrest : s.rest.length ≤ Outline.countLimit := by
    rw [rest, List.length_drop]
    exact Nat.le_trans (Nat.sub_le _ _) fits
  rcases Nat.le_total count Outline.countLimit with h | h
  · rw [Nat.min_eq_left h]
  · rw [Nat.min_eq_right h, List.drop_eq_nil_of_le hrest, List.drop_eq_nil_of_le (Nat.le_trans hrest h)]

end Supply

namespace Walk

/-- Between two states of a walk these leaves were served in order, and nothing else was placed. -/
structure Serves (w : Walk) (leaves : List Leaf) (w' : Walk) : Prop where
  metrics : w'.supply.metrics = w.supply.metrics
  slots : w'.slots = w.slots ++ Leaf.deal leaves w.supply.rest
  rest : w'.supply.rest = w.supply.rest.drop (Leaf.total leaves)
  declared : w.declared ≤ Outline.countLimit →
    w'.declared = min (w.declared + Leaf.total leaves) Outline.countLimit

namespace Serves

variable {w w' w'' : Walk} {a b : List Leaf}

theorem refl (w : Walk) : Serves w [] w where
  metrics := rfl
  slots := by simp [Leaf.deal]
  rest := by simp
  declared h := by simp [h]

theorem fits (h : Serves w a w') (hw : w.supply.Fits) : w'.supply.Fits := by
  rw [Supply.Fits, h.metrics]
  exact hw

theorem trans (h : Serves w a w') (h' : Serves w' b w'') : Serves w (a ++ b) w'' where
  metrics := h'.metrics.trans h.metrics
  slots := by rw [h'.slots, h.slots, h.rest, Leaf.deal_append, List.append_assoc]
  rest := by rw [h'.rest, h.rest, List.drop_drop, Leaf.total_append]
  declared hle := by
    have hmid := h.declared hle
    rw [h'.declared (by omega), hmid, Leaf.total_append]
    omega

theorem foldl {α : Type} {step : Walk → α → Walk} {leavesOf : α → List Leaf}
    (hstep : ∀ w item, w.supply.Fits → Serves w (leavesOf item) (step w item))
    (items : List α) (hw : w.supply.Fits) :
    Serves w (items.flatMap leavesOf) (items.foldl step w) := by
  induction items generalizing w with
  | nil => exact refl w
  | cons item rest ih =>
    have hitem := hstep w item hw
    rw [List.flatMap_cons, List.foldl_cons]
    exact hitem.trans (ih (hitem.fits hw))

end Serves

variable {w : Walk}

/-- The count may have stopped at the limit; the leaf is served all the same. -/
theorem serves_emit (hw : w.supply.Fits) (path : Path) (count : Nat) :
    Serves w [⟨path, count⟩] (w.emit path (min count Outline.countLimit)) where
  metrics := rfl
  slots := by simp [emit, Leaf.deal, Supply.taken_eq hw, Supply.take_rest_min hw]
  rest := by simp [emit, Supply.rest_advance hw, Supply.drop_rest_min hw]
  declared _ := by
    simp only [emit, Outline.addCount_eq_min, Leaf.total_cons, Leaf.total_nil]
    omega

theorem serves_emitCounted (hw : w.supply.Fits) (path : Path) (count : Option UInt64) :
    Serves w (Leaf.ofCount path count) (w.emitCounted path (count.map UInt64.toNat)) := by
  cases count with
  | none => exact .refl w
  | some n =>
    have h := serves_emit hw path n.toNat
    rwa [Nat.min_eq_left (Outline.toNat_le_countLimit n)] at h

theorem serves_segment (hw : w.supply.Fits) (group subgroup : String) (s : Outline.Segment) :
    Serves w (s.leaves group subgroup) (w.segment group subgroup s) := by
  by_cases hs : s.subsegments = []
  · rw [segment, if_pos (List.isEmpty_iff.2 hs), Outline.Segment.leaves, if_pos hs]
    exact serves_emitCounted hw _ _
  · rw [segment, if_neg (by simpa using hs), Outline.Segment.leaves, if_neg hs]
    exact Serves.foldl (fun _ _ h => serves_emitCounted h _ _) _ hw

theorem serves_subgroup (hw : w.supply.Fits) (showSegments : Bool) (group : String)
    (s : Outline.Subgroup) :
    Serves w (s.leaves showSegments group) (w.subgroup showSegments group s) := by
  -- the titles are recorded first, of which `Serves` says nothing
  let recorded : Walk := { w with canonical := w.canonical.recordSubgroup s }
  have hrecorded : recorded.supply.Fits := hw
  suffices h : Serves recorded (s.leaves showSegments group) (w.subgroup showSegments group s) from
    ⟨h.metrics, h.slots, h.rest, h.declared⟩
  by_cases hl : s.segmentLeaves group = []
  · have hd : s.declaresSegments = false := by
      simpa [hl] using s.declaresSegments_iff group
    simp only [subgroup, hd, Bool.and_false, Bool.false_eq_true, if_false]
    rw [Outline.Subgroup.leaves, if_pos hl, s.declaredCount_eq group, if_pos hl]
    exact serves_emitCounted hrecorded _ _
  · have hd : s.declaresSegments = true := (s.declaresSegments_iff group).2 hl
    rw [Outline.Subgroup.leaves, if_neg hl]
    cases showSegments with
    | true =>
      simp only [subgroup, hd, Bool.and_true, if_true]
      exact Serves.foldl (fun _ _ h => serves_segment h _ _ _) _ hrecorded
    | false =>
      simp only [subgroup, Bool.false_and, Bool.false_eq_true, if_false]
      rw [s.declaredCount_eq group, if_neg hl]
      exact serves_emit hrecorded _ _

theorem serves_group (hw : w.supply.Fits) (showSegments : Bool) (g : Outline.Group) :
    Serves w (g.leaves showSegments) (w.group showSegments g) := by
  let recorded : Walk := { w with canonical := w.canonical.recordGroup g }
  have hrecorded : recorded.supply.Fits := hw
  suffices h : Serves recorded (g.leaves showSegments) (w.group showSegments g) from
    ⟨h.metrics, h.slots, h.rest, h.declared⟩
  by_cases hg : g.subgroups = []
  · rw [group, if_pos (List.isEmpty_iff.2 hg), Outline.Group.leaves, if_pos hg]
    exact serves_emitCounted hrecorded _ _
  · rw [group, if_neg (by simpa using hg), Outline.Group.leaves, if_neg hg]
    exact Serves.foldl (fun _ _ h => serves_subgroup h _ _ _) _ hrecorded

theorem serves_outline (hw : w.supply.Fits) (showSegments : Bool) (o : Outline) :
    Serves w (o.leaves showSegments) (w.outline showSegments o) :=
  Serves.foldl (fun _ g h => serves_group h showSegments g) o.groups hw

/-- A loop whose rounds record nothing records nothing. -/
theorem canonical_foldl {α : Type} {step : Walk → α → Walk}
    (hstep : ∀ w item, (step w item).canonical = w.canonical) (items : List α) (w : Walk) :
    (items.foldl step w).canonical = w.canonical := by
  induction items generalizing w with
  | nil => rfl
  | cons item rest ih => rw [List.foldl_cons, ih, hstep]

/-- What a loop records does not depend on what it places. -/
theorem canonical_foldl_record {α : Type} {step : Walk → α → Walk}
    (record : CanonicalOrder → α → CanonicalOrder)
    (hstep : ∀ w item, (step w item).canonical = record w.canonical item) (items : List α)
    (w : Walk) : (items.foldl step w).canonical = items.foldl record w.canonical := by
  induction items generalizing w with
  | nil => rfl
  | cons item rest ih => rw [List.foldl_cons, ih, hstep, List.foldl_cons]

theorem canonical_emitCounted (w : Walk) (path : Path) (count : Option Nat) :
    (w.emitCounted path count).canonical = w.canonical := by
  cases count <;> rfl

theorem canonical_segment (group subgroup : String) (w : Walk) (s : Outline.Segment) :
    (w.segment group subgroup s).canonical = w.canonical := by
  unfold segment
  split
  · exact canonical_emitCounted _ _ _
  · exact canonical_foldl (fun _ _ => canonical_emitCounted _ _ _) _ _

theorem canonical_subgroup (showSegments : Bool) (group : String) (w : Walk) (s : Outline.Subgroup) :
    (w.subgroup showSegments group s).canonical = w.canonical.recordSubgroup s := by
  unfold subgroup
  split
  · exact canonical_foldl (fun w s => canonical_segment _ _ w s) _ _
  · exact canonical_emitCounted _ _ _

theorem canonical_group (showSegments : Bool) (w : Walk) (g : Outline.Group) :
    (w.group showSegments g).canonical =
      g.subgroups.foldl CanonicalOrder.recordSubgroup (w.canonical.recordGroup g) := by
  unfold group
  split
  · next h =>
    rw [List.isEmpty_iff.1 h]
    exact canonical_emitCounted _ _ _
  · exact canonical_foldl_record _ (fun w s => canonical_subgroup _ _ w s) _ _

/-- Every title is recorded, whatever is placed under it. -/
theorem canonical_outline (showSegments : Bool) (w : Walk) (o : Outline) :
    (w.outline showSegments o).canonical =
      o.groups.foldl (fun c g => g.subgroups.foldl CanonicalOrder.recordSubgroup (c.recordGroup g))
        w.canonical :=
  canonical_foldl_record _ (canonical_group showSegments) _ _

end Walk

namespace Placement

variable {metrics : List String}

theorem slots_ofOutline (fits : metrics.length ≤ Outline.countLimit) (o : Outline)
    (showSegments : Bool) :
    (ofOutline o metrics showSegments).slots =
      Leaf.deal (o.leaves showSegments) metrics ++
        (metrics.drop (Leaf.total (o.leaves showSegments))).map Slot.orphaned := by
  have h := Walk.serves_outline (w := Walk.start metrics) fits showSegments o
  simp only [ofOutline, h.slots, h.rest]
  rfl

theorem declared_ofOutline (fits : metrics.length ≤ Outline.countLimit) (o : Outline)
    (showSegments : Bool) :
    (ofOutline o metrics showSegments).declared =
      min (Leaf.total (o.leaves showSegments)) Outline.countLimit := by
  have h := Walk.serves_outline (w := Walk.start metrics) fits showSegments o
  have hd := h.declared (Nat.zero_le _)
  rwa [Walk.start, Nat.zero_add] at hd

end Placement

end PivotTable
