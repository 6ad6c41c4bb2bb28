import PivotTable.Outline.Basic
import PivotTable.OrderedSet
import PivotTable.Slot

/-!
# Placing metrics

A walk through an outline hands out the metrics by position: depth-first, every branch with a count takes
that many of those that are left, while there are any. Metrics that nothing takes become orphans. With
segments hidden a subgroup takes the metrics of all its segments at once. On its way the walk records how
many metrics the outline asks for and in which order the titles of each level stand in it.
-/
namespace PivotTable

/-- The order of titles on each level, and of metrics. -/
structure CanonicalOrder where
  level1 : OrderedSet
  level2 : OrderedSet
  level3 : OrderedSet
  level4 : OrderedSet
  metrics : OrderedSet
deriving DecidableEq

namespace CanonicalOrder

def empty : CanonicalOrder := ⟨.empty, .empty, .empty, .empty, .empty⟩

instance : Inhabited CanonicalOrder := ⟨empty⟩

def recordGroup (c : CanonicalOrder) (g : Outline.Group) : CanonicalOrder :=
  { c with level1 := c.level1.insertNonempty g.title }

def recordSegment (c : CanonicalOrder) (s : Outline.Segment) : CanonicalOrder :=
  { c with
    level3 := c.level3.insertNonempty s.title
    level4 := (s.subsegments.map Outline.Subsegment.title).foldl .insertNonempty c.level4 }

/-- Records the title of a subgroup and all titles below it. -/
def recordSubgroup (c : CanonicalOrder) (s : Outline.Subgroup) : CanonicalOrder :=
  s.segments.foldl recordSegment { c with level2 := c.level2.insertNonempty s.title }

def withSlotMetrics (c : CanonicalOrder) (slots : List Slot) : CanonicalOrder :=
  { c with metrics := .ofList (slots.map Slot.metric) }

def toJson (c : CanonicalOrder) : Json :=
  .obj [("level1", .ofStrings c.level1.toList), ("level2", .ofStrings c.level2.toList),
    ("level3", .ofStrings c.level3.toList), ("level4", .ofStrings c.level4.toList),
    ("metrics", .ofStrings c.metrics.toList)]

/-- A list of texts, of which repetitions are dropped. -/
def textSet (value : Json) : Decoded OrderedSet := (Source.list Source.text value).map .ofList

def ofJson (value : Json) : Decoded CanonicalOrder :=
  Record.decode "CanonicalOrder"
    [.required "level1" textSet fun level1 c => { c with level1 },
     .required "level2" textSet fun level2 c => { c with level2 },
     .required "level3" textSet fun level3 c => { c with level3 },
     .required "level4" textSet fun level4 c => { c with level4 },
     .required "metrics" textSet fun metrics c => { c with metrics }]
    .empty value

end CanonicalOrder

/-- The metrics of a table and the position of the next one to be placed. -/
structure Supply where
  metrics : List String
  next : Nat

namespace Supply

/-- The position behind the next `count` metrics. -/
def stop (s : Supply) (count : Nat) : Nat := min (Outline.addCount s.next count) s.metrics.length

/-- The next metrics, at most `count` of them. -/
def taken (s : Supply) (count : Nat) : List String := (s.metrics.take (s.stop count)).drop s.next

def advance (s : Supply) (count : Nat) : Supply := { s with next := s.stop count }

def rest (s : Supply) : List String := s.metrics.drop s.next

end Supply

/-- A walk through an outline: where it stands in the metrics, and what it has placed and recorded so far. -/
structure Walk where
  supply : Supply
  slots : List Slot
  declared : Nat
  canonical : CanonicalOrder

namespace Walk

def start (metrics : List String) : Walk := ⟨⟨metrics, 0⟩, [], 0, .empty⟩

/-- Places the next metrics at a path. -/
def emit (w : Walk) (path : Path) (count : Nat) : Walk :=
  { w with
    supply := w.supply.advance count
    slots := w.slots ++ (w.supply.taken count).map (Slot.placed path)
    declared := Outline.addCount w.declared count }

/-- A branch without a count places nothing. -/
def emitCounted (w : Walk) (path : Path) : Option Nat → Walk
  | some count => w.emit path count
  | none => w

def segment (group subgroup : String) (w : Walk) (s : Outline.Segment) : Walk :=
  if s.subsegments.isEmpty then
    w.emitCounted ⟨group, subgroup, s.title, ""⟩ (s.count.map UInt64.toNat)
  else
    s.subsegments.foldl (fun w sub =>
      w.emitCounted ⟨group, subgroup, s.title, sub.title⟩ (sub.count.map UInt64.toNat)) w

def subgroup (showSegments : Bool) (group : String) (w : Walk) (s : Outline.Subgroup) : Walk :=
  let w := { w with canonical := w.canonical.recordSubgroup s }
  if showSegments && s.declaresSegments then s.segments.foldl (segment group s.title) w
  else w.emitCounted ⟨group, s.title, "", ""⟩ s.declaredCount

def group (showSegments : Bool) (w : Walk) (g : Outline.Group) : Walk :=
  let w := { w with canonical := w.canonical.recordGroup g }
  if g.subgroups.isEmpty then w.emitCounted ⟨g.title, "", "", ""⟩ (g.count.map UInt64.toNat)
  else g.subgroups.foldl (subgroup showSegments g.title) w

def outline (showSegments : Bool) (w : Walk) (o : Outline) : Walk :=
  o.groups.foldl (group showSegments) w

end Walk

structure Placement where
  slots : List Slot
  /-- The sum of all counts, as far as a count can tell. -/
  declared : Nat
  canonical : CanonicalOrder
deriving DecidableEq

namespace Placement

/-- The slots placed on a walk through the outline, and orphans for the metrics that are left. -/
def ofOutline (o : Outline) (metrics : List String) (showSegments : Bool) : Placement :=
  let w := (Walk.start metrics).outline showSegments o
  let slots := w.slots ++ w.supply.rest.map Slot.orphaned
  { slots, declared := w.declared, canonical := w.canonical.withSlotMetrics slots }

def isMismatched (p : Placement) : Bool :=
  p.declared != p.slots.length || p.slots.any Slot.orphan

end Placement

end PivotTable
