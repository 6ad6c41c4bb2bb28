import PivotTable.Placement
import Mathlib.Algebra.GroupWithZero.Nat

/-!
# The leaves of an outline

The branches of an outline that take metrics, depth-first from left to right, each with the number that it
takes. These numbers are exact, while the counts an outline is read with stop at a limit: what a subgroup
declares for its segments is the exact number of their leaves as far as a count can tell.
-/
namespace PivotTable

/-- A place in the outline and the number of metrics that it takes. -/
structure Leaf where
  path : Path
  count : Nat
deriving DecidableEq

namespace Leaf

/-- A branch with a count is a leaf. -/
def ofCount (path : Path) (count : Option UInt64) : List Leaf :=
  count.toList.map fun n => ⟨path, n.toNat⟩

@[simp] theorem ofCount_none (path : Path) : ofCount path none = [] := rfl

@[simp] theorem ofCount_some (path : Path) (n : UInt64) :
    ofCount path (some n) = [⟨path, n.toNat⟩] := rfl

def total (leaves : List Leaf) : Nat := (leaves.map count).sum

@[simp] theorem total_nil : total [] = 0 := rfl

@[simp] theorem total_cons (leaf : Leaf) (leaves : List Leaf) :
    total (leaf :: leaves) = leaf.count + total leaves := by simp [total]

@[simp] theorem total_append (a b : List Leaf) : total (a ++ b) = total a + total b := by
  simp [total]

theorem map_count_flatMap_ofCount {α : Type} (items : List α) (path : α → Path)
    (count : α → Option UInt64) :
    (items.flatMap fun item => ofCount (path item) (count item)).map Leaf.count =
      (items.filterMap count).map UInt64.toNat := by
  induction items with
  | nil => rfl
  | cons item rest ih => cases h : count item <;> simp [h, ih]

end Leaf

namespace Outline

/-- The leaves below a subgroup: segments without subsegments, and subsegments. -/
def Segment.leaves (group subgroup : String) (s : Segment) : List Leaf :=
  if s.subsegments = [] then Leaf.ofCount ⟨group, subgroup, s.title, ""⟩ s.count
  else s.subsegments.flatMap fun sub => Leaf.ofCount ⟨group, subgroup, s.title, sub.title⟩ sub.count

def Subgroup.segmentLeaves (group : String) (s : Subgroup) : List Leaf :=
  s.segments.flatMap (Segment.leaves group s.title)

/-- A subgroup is a leaf itself if nothing below it has a count or if its segments are hidden. -/
def Subgroup.leaves (showSegments : Bool) (group : String) (s : Subgroup) : List Leaf :=
  if s.segmentLeaves group = [] then Leaf.ofCount ⟨group, s.title, "", ""⟩ s.count
  else if showSegments then s.segmentLeaves group
  else [⟨⟨group, s.title, "", ""⟩, Leaf.total (s.segmentLeaves group)⟩]

def Group.leaves (showSegments : Bool) (g : Group) : List Leaf :=
  if g.subgroups = [] then Leaf.ofCount ⟨g.title, "", "", ""⟩ g.count
  else g.subgroups.flatMap (Subgroup.leaves showSegments g.title)

/-- The leaves depth-first, from left to right. -/
def leaves (o : Outline) (showSegments : Bool) : List Leaf :=
  o.groups.flatMap (Group.leaves showSegments)

theorem addCount_eq_min (a b : Nat) : addCount a b = min (a + b) countLimit := rfl

theorem toNat_le_countLimit (n : UInt64) : n.toNat ≤ countLimit := by
  have := n.toNat_lt
  unfold countLimit
  omega

/-- Stopping at the limit on the way makes no difference to a sum that stops there in the end. -/
theorem foldl_addCount (counts : List Nat) (a : Nat) (ha : a ≤ countLimit) :
    counts.foldl addCount a = min (a + counts.sum) countLimit := by
  induction counts generalizing a with
  | nil => simp [ha]
  | cons n rest ih =>
    have hle : addCount a n ≤ countLimit := Nat.min_le_right _ _
    rw [List.foldl_cons, ih _ hle, addCount_eq_min, List.sum_cons]
    omega

theorem sumCounts_eq_min (counts : List Nat) : sumCounts counts = min counts.sum countLimit := by
  rw [sumCounts, foldl_addCount counts 0 (Nat.zero_le _), Nat.zero_add]

theorem Segment.declaredCount_eq (group subgroup : String) (s : Segment) :
    s.declaredCount =
      if s.leaves group subgroup = [] then none
      else some (min (Leaf.total (s.leaves group subgroup)) countLimit) := by
  by_cases hs : s.subsegments = []
  · have hl : s.leaves group subgroup = Leaf.ofCount ⟨group, subgroup, s.title, ""⟩ s.count := by
      rw [leaves, if_pos hs]
    rw [declaredCount, if_pos (List.isEmpty_iff.2 hs), hl]
    cases s.count with
    | none => rfl
    | some n => simp [toNat_le_countLimit n]
  · have hc : (s.leaves group subgroup).map Leaf.count =
        (s.subsegments.filterMap Subsegment.count).map UInt64.toNat := by
      rw [leaves, if_neg hs, Leaf.map_count_flatMap_ofCount]
    have hnil : s.leaves group subgroup = [] ↔ s.subsegments.filterMap Subsegment.count = [] := by
      rw [← List.map_eq_nil_iff, hc, List.map_eq_nil_iff]
    rw [declaredCount, if_neg (by simpa using hs)]
    cases h : s.subsegments.filterMap Subsegment.count with
    | nil => simp [hnil, h]
    | cons n rest => simp [hnil, h, Leaf.total, hc, sumCounts_eq_min]

theorem Subgroup.declaresSegments_iff (group : String) (s : Subgroup) :
    s.declaresSegments = true ↔ s.segmentLeaves group ≠ [] := by
  simp [declaresSegments, segmentLeaves, Segment.declaredCount_eq group s.title]

theorem min_sum_filterMap_declaredCount (group subgroup : String) (segments : List Segment) :
    min (segments.filterMap Segment.declaredCount).sum countLimit =
      min (Leaf.total (segments.flatMap (Segment.leaves group subgroup))) countLimit := by
  induction segments with
  | nil => rfl
  | cons s rest ih =>
    rw [List.filterMap_cons, Segment.declaredCount_eq group subgroup, List.flatMap_cons,
      Leaf.total_append]
    by_cases h : s.leaves group subgroup = []
    · simpa [h] using ih
    · simp only [if_neg h, List.sum_cons]
      omega

/-- What a subgroup declares is what its leaves take, as far as a count can tell. -/
theorem Subgroup.declaredCount_eq (group : String) (s : Subgroup) :
    s.declaredCount =
      if s.segmentLeaves group = [] then s.count.map UInt64.toNat
      else some (min (Leaf.total (s.segmentLeaves group)) countLimit) := by
  by_cases h : s.segmentLeaves group = []
  · have hd : ¬ s.declaresSegments = true := fun hd => (s.declaresSegments_iff group).1 hd h
    rw [declaredCount, if_neg hd, if_pos h]
  · rw [declaredCount, if_pos ((s.declaresSegments_iff group).2 h), if_neg h, sumCounts_eq_min,
      min_sum_filterMap_declaredCount group s.title]
    rfl

end Outline

end PivotTable
