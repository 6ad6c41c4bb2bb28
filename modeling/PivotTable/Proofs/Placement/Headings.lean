import PivotTable.Proofs.OrderedSet
import PivotTable.Proofs.Placement.Walk

/-!
# Headings of an outline

The titles of an outline, depth-first, each with its level. A walk records them all in this order, also
those of branches that take no metrics, and places slots at paths that are made of them. Main statement:
the order of titles on a level are the first appearances of the titles of that level, the order of
metrics those of the metrics, and no level of a placed slot is missing from the order of its level.
-/
namespace PivotTable

abbrev Heading := Level × String

namespace Outline

def Segment.headings (s : Segment) : List Heading :=
  (.level3, s.title) :: s.subsegments.map fun sub => (.level4, sub.title)

def Subgroup.headings (s : Subgroup) : List Heading :=
  (.level2, s.title) :: s.segments.flatMap Segment.headings

def Group.headings (g : Group) : List Heading :=
  (.level1, g.title) :: g.subgroups.flatMap Subgroup.headings

/-- The titles depth-first, each with its level. -/
def headings (o : Outline) : List Heading := o.groups.flatMap Group.headings

/-- The titles of one level. -/
def titles (o : Outline) (level : Level) : List String :=
  (o.headings.filter fun heading => heading.1 = level).map Prod.snd

/-- The path is made of titles of the outline, each on its own level, and of empty levels. -/
def Names (o : Outline) (path : Path) : Prop :=
  ∀ level, path.get level ≠ "" → (level, path.get level) ∈ o.headings

variable {o : Outline} {g : Group} {s : Subgroup} {segment : Segment}

theorem mem_headings_of_group (hg : g ∈ o.groups) {heading : Heading} (h : heading ∈ g.headings) :
    heading ∈ o.headings := List.mem_flatMap.2 ⟨g, hg, h⟩

theorem mem_headings_of_subgroup (hg : g ∈ o.groups) (hs : s ∈ g.subgroups) {heading : Heading}
    (h : heading ∈ s.headings) : heading ∈ o.headings :=
  mem_headings_of_group hg (List.mem_cons_of_mem _ (List.mem_flatMap.2 ⟨s, hs, h⟩))

theorem mem_headings_of_segment (hg : g ∈ o.groups) (hs : s ∈ g.subgroups)
    (hsegment : segment ∈ s.segments) {heading : Heading} (h : heading ∈ segment.headings) :
    heading ∈ o.headings :=
  mem_headings_of_subgroup hg hs (List.mem_cons_of_mem _ (List.mem_flatMap.2 ⟨segment, hsegment, h⟩))

theorem names_empty (o : Outline) : o.Names .empty := by
  intro level hlevel
  cases level <;> exact absurd rfl hlevel

/-- A path may be given one more title of the outline on its own level. -/
theorem Names.put {path : Path} (h : o.Names path) {level : Level} {title : String}
    (hheading : (level, title) ∈ o.headings) : o.Names (path.put title level) := by
  intro other hother
  rw [Path.get_put] at hother ⊢
  by_cases heq : other = level
  · rw [if_pos heq, heq]
    exact hheading
  · rw [if_neg heq] at hother ⊢
    exact h other hother

theorem names_group (hg : g ∈ o.groups) : o.Names ⟨g.title, "", "", ""⟩ :=
  o.names_empty.put (mem_headings_of_group hg List.mem_cons_self)

theorem names_subgroup (hg : g ∈ o.groups) (hs : s ∈ g.subgroups) :
    o.Names ⟨g.title, s.title, "", ""⟩ :=
  (names_group hg).put (mem_headings_of_subgroup hg hs List.mem_cons_self)

theorem names_segment (hg : g ∈ o.groups) (hs : s ∈ g.subgroups) (hsegment : segment ∈ s.segments) :
    o.Names ⟨g.title, s.title, segment.title, ""⟩ :=
  (names_subgroup hg hs).put (mem_headings_of_segment hg hs hsegment List.mem_cons_self)

theorem names_subsegment (hg : g ∈ o.groups) (hs : s ∈ g.subgroups) (hsegment : segment ∈ s.segments)
    {sub : Subsegment} (hsub : sub ∈ segment.subsegments) :
    o.Names ⟨g.title, s.title, segment.title, sub.title⟩ := by
  have hheading : (Level.level4, sub.title) ∈ segment.headings :=
    List.mem_cons_of_mem _ (List.mem_map.2 ⟨sub, hsub, rfl⟩)
  exact (names_segment hg hs hsegment).put (mem_headings_of_segment hg hs hsegment hheading)

end Outline

namespace CanonicalOrder

def ofLevel (c : CanonicalOrder) : Level → OrderedSet
  | .level1 => c.level1
  | .level2 => c.level2
  | .level3 => c.level3
  | .level4 => c.level4

/-- Records a title on its level. -/
def record (c : CanonicalOrder) : Heading → CanonicalOrder
  | (.level1, title) => { c with level1 := c.level1.insertNonempty title }
  | (.level2, title) => { c with level2 := c.level2.insertNonempty title }
  | (.level3, title) => { c with level3 := c.level3.insertNonempty title }
  | (.level4, title) => { c with level4 := c.level4.insertNonempty title }

theorem ofLevel_record (c : CanonicalOrder) (heading : Heading) (level : Level) :
    (c.record heading).ofLevel level =
      if heading.1 = level then (c.ofLevel level).insertNonempty heading.2 else c.ofLevel level := by
  obtain ⟨recorded, title⟩ := heading
  cases recorded <;> cases level <;> rfl

/-- What is recorded on a level are the titles of that level, but for empty ones. -/
theorem ofLevel_foldl_record (headings : List Heading) (c : CanonicalOrder) (level : Level) :
    (headings.foldl record c).ofLevel level =
      (c.ofLevel level).insertAll
        (((headings.filter fun heading => heading.1 = level).map Prod.snd).filter (· ≠ "")) := by
  induction headings generalizing c with
  | nil => rfl
  | cons heading rest ih =>
    rw [List.foldl_cons, ih, ofLevel_record]
    by_cases h : heading.1 = level
    · rw [if_pos h, List.filter_cons_of_pos (by simpa using h), List.map_cons, OrderedSet.insertNonempty_eq,
        ← OrderedSet.insertAll_append, ← List.filter_append, List.singleton_append]
    · rw [if_neg h, List.filter_cons_of_neg (by simpa using h)]

theorem foldl_record_level4 (titles : List String) (c : CanonicalOrder) :
    (titles.map fun title => (Level.level4, title)).foldl record c =
      { c with level4 := titles.foldl .insertNonempty c.level4 } := by
  induction titles generalizing c with
  | nil => rfl
  | cons title rest ih => rw [List.map_cons, List.foldl_cons, ih, List.foldl_cons, record]

theorem recordSegment_eq (c : CanonicalOrder) (s : Outline.Segment) :
    c.recordSegment s = s.headings.foldl record c := by
  have hsubsegments : s.subsegments.map (fun sub => (Level.level4, sub.title)) =
      (s.subsegments.map Outline.Subsegment.title).map fun title => (Level.level4, title) := by
    rw [List.map_map]
    rfl
  rw [Outline.Segment.headings, List.foldl_cons, hsubsegments, foldl_record_level4]
  rfl

theorem recordSubgroup_eq (c : CanonicalOrder) (s : Outline.Subgroup) :
    c.recordSubgroup s = s.headings.foldl record c := by
  have hsegments : recordSegment = fun c segment => segment.headings.foldl record c :=
    funext fun c => funext (recordSegment_eq c)
  rw [recordSubgroup, hsegments, Outline.Subgroup.headings, List.foldl_cons, List.foldl_flatMap]
  rfl

theorem recordGroup_eq (c : CanonicalOrder) (g : Outline.Group) :
    g.subgroups.foldl recordSubgroup (c.recordGroup g) = g.headings.foldl record c := by
  have hsubgroups : recordSubgroup = fun c subgroup => subgroup.headings.foldl record c :=
    funext fun c => funext (recordSubgroup_eq c)
  rw [hsubgroups, Outline.Group.headings, List.foldl_cons, List.foldl_flatMap]
  rfl

end CanonicalOrder

namespace Walk

/-- A walk through the outline records its headings, wherever it starts and whatever it places. -/
theorem canonical_outline_eq (showSegments : Bool) (w : Walk) (o : Outline) :
    (w.outline showSegments o).canonical = o.headings.foldl CanonicalOrder.record w.canonical := by
  have hgroups : (fun (c : CanonicalOrder) (g : Outline.Group) =>
      g.subgroups.foldl CanonicalOrder.recordSubgroup (c.recordGroup g)) =
      fun c g => g.headings.foldl CanonicalOrder.record c :=
    funext fun c => funext (CanonicalOrder.recordGroup_eq c)
  rw [canonical_outline, hgroups, Outline.headings, List.foldl_flatMap]

/-- Holds along every walk through the outline once it holds: neither what is recorded breaks it nor what
is placed at a path that the outline names. -/
structure Keeps (o : Outline) (P : Walk → Prop) : Prop where
  record : ∀ w canonical, P w → P { w with canonical }
  emit : ∀ w path count, o.Names path → P w → P (w.emit path count)

namespace Keeps

variable {o : Outline} {P : Walk → Prop} {g : Outline.Group} {s : Outline.Subgroup} {w : Walk}

theorem emitCounted (h : Keeps o P) {path : Path} (hpath : o.Names path) (count : Option Nat) (hw : P w) :
    P (w.emitCounted path count) := by
  cases count with
  | none => exact hw
  | some n => exact h.emit w path n hpath hw

theorem segment (h : Keeps o P) (hg : g ∈ o.groups) (hs : s ∈ g.subgroups) {segment : Outline.Segment}
    (hsegment : segment ∈ s.segments) (hw : P w) : P (w.segment g.title s.title segment) := by
  unfold Walk.segment
  split
  · exact h.emitCounted (Outline.names_segment hg hs hsegment) _ hw
  · exact List.foldlRecOn _ _ hw fun w hw sub hsub =>
      h.emitCounted (Outline.names_subsegment hg hs hsegment hsub) _ hw

theorem subgroup (h : Keeps o P) (hg : g ∈ o.groups) (hs : s ∈ g.subgroups) (showSegments : Bool)
    (hw : P w) : P (w.subgroup showSegments g.title s) := by
  have hrecorded := h.record w (w.canonical.recordSubgroup s) hw
  unfold Walk.subgroup
  split
  · exact List.foldlRecOn _ _ hrecorded fun w hw segment hsegment => h.segment hg hs hsegment hw
  · exact h.emitCounted (Outline.names_subgroup hg hs) _ hrecorded

theorem group (h : Keeps o P) (hg : g ∈ o.groups) (showSegments : Bool) (hw : P w) :
    P (w.group showSegments g) := by
  have hrecorded := h.record w (w.canonical.recordGroup g) hw
  unfold Walk.group
  split
  · exact h.emitCounted (Outline.names_group hg) _ hrecorded
  · exact List.foldlRecOn _ _ hrecorded fun w hw s hs => h.subgroup hg hs showSegments hw

theorem outline (h : Keeps o P) (showSegments : Bool) (hw : P w) : P (w.outline showSegments o) :=
  List.foldlRecOn _ _ hw fun _ hw _ hg => h.group hg showSegments hw

end Keeps

/-- Every metric in front of the next one has been given its slot. -/
structure Spends (metrics : List String) (w : Walk) : Prop where
  supplied : w.supply.metrics = metrics
  next_le : w.supply.next ≤ min Outline.countLimit metrics.length
  slots : w.slots.map Slot.metric = metrics.take w.supply.next

theorem map_metric_placed (path : Path) (metrics : List String) :
    (metrics.map (Slot.placed path)).map Slot.metric = metrics := by
  rw [List.map_map]
  exact List.map_id _

theorem keeps_spends (o : Outline) (metrics : List String) : Keeps o (Spends metrics) where
  record w canonical h := ⟨h.supplied, h.next_le, h.slots⟩
  emit w path count _ h := by
    have hnext := h.next_le
    have hstop : w.supply.stop count =
        min (min (w.supply.next + count) Outline.countLimit) metrics.length := by
      rw [Supply.stop, Outline.addCount_eq_min, h.supplied]
    refine ⟨h.supplied, ?_, ?_⟩
    · simp only [emit, Supply.advance, hstop]
      omega
    · have hle : w.supply.next ≤ w.supply.stop count := by omega
      have hfront : metrics.take w.supply.next =
          (metrics.take (w.supply.stop count)).take w.supply.next := by
        rw [List.take_take, Nat.min_eq_left hle]
      rw [emit, List.map_append, map_metric_placed, h.slots, Supply.taken, h.supplied, hfront,
        List.take_append_drop]
      rfl

/-- Slots are placed at paths that the outline names. -/
def PlacesUnder (o : Outline) (w : Walk) : Prop := ∀ s ∈ w.slots, o.Names s.path

theorem keeps_placesUnder (o : Outline) : Keeps o (PlacesUnder o) where
  record _ _ h := h
  emit w path count hpath h := by
    intro s hs
    rcases List.mem_append.1 hs with hold | hnew
    · exact h s hold
    · obtain ⟨metric, -, rfl⟩ := List.mem_map.1 hnew
      exact hpath

end Walk

namespace Placement

/-- Every metric has its slot, in the order of metrics. -/
theorem map_metric_slots (o : Outline) (metrics : List String) (showSegments : Bool) :
    (ofOutline o metrics showSegments).slots.map Slot.metric = metrics := by
  have hstart : (Walk.start metrics).Spends metrics := ⟨rfl, Nat.zero_le _, rfl⟩
  have hend := (Walk.keeps_spends o metrics).outline showSegments hstart
  have horphans (rest : List String) : (rest.map Slot.orphaned).map Slot.metric = rest := by
    rw [List.map_map]
    exact List.map_id _
  rw [ofOutline, List.map_append, hend.slots, horphans, Supply.rest, hend.supplied, List.take_append_drop]

theorem names_of_mem_slots {o : Outline} {metrics : List String} {showSegments : Bool} {s : Slot}
    (hs : s ∈ (ofOutline o metrics showSegments).slots) (hplaced : s.orphan = false) : o.Names s.path := by
  rcases List.mem_append.1 hs with hin | horphan
  · have hstart : (Walk.start metrics).PlacesUnder o := fun s hs => absurd hs List.not_mem_nil
    exact (Walk.keeps_placesUnder o).outline showSegments hstart s hin
  · obtain ⟨metric, -, rfl⟩ := List.mem_map.1 horphan
    cases hplaced

/-- Titles and metrics are ordered as they first appear in the outline and in the list of metrics,
whatever the counts, and every header of a placed slot has its rank. -/
theorem canonical_ofOutline (o : Outline) (metrics : List String) (showSegments : Bool) :
    let p := ofOutline o metrics showSegments
    (∀ level, (p.canonical.ofLevel level).toList = ((o.titles level).filter (· ≠ "")).eraseDups) ∧
      p.canonical.metrics.toList = metrics.eraseDups ∧
      ∀ s ∈ p.slots, s.orphan = false → ∀ level, s.path.get level ≠ "" →
        s.path.get level ∈ (p.canonical.ofLevel level).toList := by
  intro p
  have htitles (level : Level) :
      (p.canonical.ofLevel level).toList = ((o.titles level).filter (· ≠ "")).eraseDups := by
    have hlevel : p.canonical.ofLevel level =
        ((Walk.start metrics).outline showSegments o).canonical.ofLevel level := by
      cases level <;> rfl
    rw [hlevel, Walk.canonical_outline_eq, CanonicalOrder.ofLevel_foldl_record, OrderedSet.toList_insertAll]
    cases level <;> rfl
  refine ⟨htitles, ?_, fun s hs hplaced level hlevel => ?_⟩
  · have hmetrics : p.canonical.metrics = .ofList (p.slots.map Slot.metric) := rfl
    rw [hmetrics, map_metric_slots, OrderedSet.ofList, OrderedSet.toList_insertAll]
    rfl
  · have hheading := names_of_mem_slots hs hplaced level hlevel
    rw [htitles, List.mem_eraseDups, List.mem_filter, Outline.titles, List.mem_map]
    refine ⟨⟨_, List.mem_filter.2 ⟨hheading, ?_⟩, rfl⟩, ?_⟩
    · simp
    · simpa using hlevel

end Placement

end PivotTable
