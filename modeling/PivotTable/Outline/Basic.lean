/-!
# Outlines

The authored outline of a table's columns: groups, subgroups, segments and subsegments, each with a title
and perhaps a count of the metrics that it takes. Counts are 64-bit words, and sums of counts stop at the
largest of them.
-/
namespace PivotTable

namespace Outline

structure Subsegment where
  title : String
  count : Option UInt64
deriving DecidableEq

structure Segment where
  title : String
  count : Option UInt64
  subsegments : List Subsegment
deriving DecidableEq

structure Subgroup where
  title : String
  count : Option UInt64
  segments : List Segment
deriving DecidableEq

structure Group where
  title : String
  count : Option UInt64
  subgroups : List Subgroup
deriving DecidableEq

end Outline

structure Outline where
  groups : List Outline.Group
deriving DecidableEq

namespace Outline

def empty : Outline := ⟨[]⟩

instance : Inhabited Outline := ⟨empty⟩

def isEmpty (o : Outline) : Bool := o.groups.isEmpty

def subgroups (o : Outline) : List Subgroup := o.groups.flatMap Group.subgroups
def segments (o : Outline) : List Segment := o.subgroups.flatMap Subgroup.segments
def subsegments (o : Outline) : List Subsegment := o.segments.flatMap Segment.subsegments

def countLimit : Nat := 18446744073709551615

/-- The sum of two counts as far as a count can tell. -/
def addCount (a b : Nat) : Nat := min (a + b) countLimit

def sumCounts (counts : List Nat) : Nat := counts.foldl addCount 0

/-- What a segment declares: the sum over its subsegments if it has any, of which at least one must have
a count. -/
def Segment.declaredCount (s : Segment) : Option Nat :=
  if s.subsegments.isEmpty then s.count.map UInt64.toNat
  else
    match s.subsegments.filterMap Subsegment.count with
    | [] => none
    | counts => some (sumCounts (counts.map UInt64.toNat))

def Subgroup.declaresSegments (s : Subgroup) : Bool :=
  s.segments.any fun segment => segment.declaredCount.isSome

/-- What a subgroup declares as a whole: the sum over its segments if they declare anything. -/
def Subgroup.declaredCount (s : Subgroup) : Option Nat :=
  if s.declaresSegments then some (sumCounts (s.segments.filterMap Segment.declaredCount))
  else s.count.map UInt64.toNat

end Outline

end PivotTable
