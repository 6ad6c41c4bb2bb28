import PivotTable.Slot

/-!
# Groups of slots

Slots that share a structural path form a group, the unit within which they may be reordered. The path
of a slot goes down to its deepest level that is given and visible, empty levels above it included. Groups
stand in the order of their first slots; the display key of a group leaves empty levels out, so two groups
may share one.
-/
namespace PivotTable

namespace Slot

/-- How many levels identify the group of a slot. -/
def groupDepth (showSegments : Bool) (s : Slot) : Nat :=
  if showSegments && !s.path.level4.isEmpty then 4
  else if showSegments && !s.path.level3.isEmpty then 3
  else if !s.path.level2.isEmpty then 2
  else 1

def groupPath (showSegments : Bool) (s : Slot) : List String :=
  s.path.levels.take (s.groupDepth showSegments)

def groupKey (showSegments : Bool) (separator : String) (s : Slot) : String :=
  String.intercalate separator ((s.groupPath showSegments).filter fun level => !level.isEmpty)

end Slot

namespace Grouping

structure Group where
  key : String
  path : List String
  /-- Positions in the order of the slots. -/
  members : List Nat
deriving DecidableEq, Repr

def Group.toJson (g : Group) : Json :=
  .obj [("key", .str g.key), ("path", .ofStrings g.path), ("members", .arr (g.members.map Json.ofNat))]

end Grouping

/-- The groups of a list of slots, and for each slot the index of its group. -/
structure Grouping where
  groups : List Grouping.Group
  slotGroups : List Nat
  /-- The index of the group at each path. -/
  places : List (List String × Nat)
deriving DecidableEq, Repr

namespace Grouping

def empty : Grouping := ⟨[], [], []⟩

/-- One more group, still without members. -/
def addGroup (key : String) (path : List String) (g : Grouping) : Grouping :=
  { g with
    groups := g.groups ++ [⟨key, path, []⟩]
    places := (path, g.groups.length) :: g.places }

/-- The index of the group at a path; a group that is missing is added at the end. -/
def locate (key : String) (path : List String) (g : Grouping) : Nat × Grouping :=
  match g.places.lookup path with
  | some index => (index, g)
  | none => (g.groups.length, g.addGroup key path)

/-- Puts the next slot into the group with this index. -/
def enlist (index : Nat) (g : Grouping) : Grouping :=
  { g with
    groups := g.groups.modify index fun group =>
      { group with members := group.members ++ [g.slotGroups.length] }
    slotGroups := g.slotGroups ++ [index] }

def add (showSegments : Bool) (separator : String) (g : Grouping) (s : Slot) : Grouping :=
  let (index, g) := g.locate (s.groupKey showSegments separator) (s.groupPath showSegments)
  g.enlist index

def ofSlots (showSegments : Bool) (separator : String) (slots : List Slot) : Grouping :=
  slots.foldl (add showSegments separator) empty

def group? (g : Grouping) (position : Nat) : Option Group := do
  g.groups[← g.slotGroups[position]?]?

def keyOf? (g : Grouping) (position : Nat) : Option String := (g.group? position).map Group.key

def members? (g : Grouping) (path : List String) : Option (List Nat) := do
  let index ← g.places.lookup path
  g.groups[index]?.map Group.members

def sameGroup (g : Grouping) (a b : Nat) : Bool :=
  match g.slotGroups[a]?, g.slotGroups[b]? with
  | some x, some y => x == y
  | _, _ => false

def slotCount (g : Grouping) : Nat := g.slotGroups.length

def toJson (g : Grouping) : Json :=
  .obj [("groups", .arr (g.groups.map Group.toJson)),
    ("slot_groups", .arr (g.slotGroups.map Json.ofNat))]

end Grouping

end PivotTable
