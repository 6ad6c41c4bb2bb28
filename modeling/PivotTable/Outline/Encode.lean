import PivotTable.Outline.Basic
import PivotTable.Authored

/-!
# Outlines in JSON

Outlines are encoded in their object form, with every list and without the counts that are not given. They are
also written by hand, so when they are decoded, titles may be of any kind, counts may be whole doubles or
texts, and lists may be `null`; and an outline is an object with a list of groups, a bare list of groups, or a
single group.
-/
namespace PivotTable.Outline

/-- Title, count if there is one, and the members that follow. -/
def node (title : String) (count : Option UInt64) (rest : Members) : Json :=
  .obj (("title", .str title) ::
    match count with
    | some n => ("count", .num (.ofUInt64 n)) :: rest
    | none => rest)

def Subsegment.toJson (s : Subsegment) : Json := node s.title s.count []

def Segment.toJson (s : Segment) : Json :=
  node s.title s.count [("subsegments", .arr (s.subsegments.map Subsegment.toJson))]

def Subgroup.toJson (s : Subgroup) : Json :=
  node s.title s.count [("segments", .arr (s.segments.map Segment.toJson))]

def Group.toJson (g : Group) : Json :=
  node g.title g.count [("subgroups", .arr (g.subgroups.map Subgroup.toJson))]

def toJson (o : Outline) : Json := .obj [("groups", .arr (o.groups.map Group.toJson))]

/-- A title of any kind: nothing for `null`, and the text of the value for all but strings. -/
def decodeTitle (value : Json) : Decoded String := .ok value.label

/-- A text of digits with perhaps a plus in front, below the limit of counts. -/
def countOfText? (s : String) : Option UInt64 :=
  let digits :=
    match trimmed s with
    | '+' :: rest => rest
    | s => s
  let n := Nat.ofDigitChars 10 digits 0
  if digits ≠ [] ∧ digits.all Char.isDigit ∧ n ≤ countLimit then some (UInt64.ofNat n) else none

/-- A count where one can be made out, however it is written; a double beyond the limit counts as it. -/
def count? : Json → Option UInt64
  | .num (.integer i _) => if 0 ≤ i then some (UInt64.ofNat i.toNat) else none
  | .num (.real x) =>
    match x.toInt? with
    | some i => if 0 ≤ i then some (UInt64.ofNat (min i.toNat countLimit)) else none
    | none => none
  | .str s => countOfText? s
  | _ => none

def decodeCount (value : Json) : Decoded (Option UInt64) := .ok (count? value)

/-- A list, for which `null` stands when it is empty. -/
def listOrNull {α : Type} (decoder : Json → Decoded α) : Json → Decoded (List α)
  | .null => .ok []
  | value => Source.list decoder value

def Subsegment.ofJson (value : Json) : Decoded Subsegment :=
  Record.decode "SubsegmentNode"
    [.defaulted "title" [] decodeTitle fun title s => { s with title },
     .defaulted "count" [] decodeCount fun count s => { s with count }]
    ⟨"", none⟩ value

def Segment.ofJson (value : Json) : Decoded Segment :=
  Record.decode "SegmentNode"
    [.defaulted "title" [] decodeTitle fun title s => { s with title },
     .defaulted "count" [] decodeCount fun count s => { s with count },
     .defaulted "subsegments" [] (listOrNull Subsegment.ofJson)
       fun subsegments s => { s with subsegments }]
    ⟨"", none, []⟩ value

def Subgroup.ofJson (value : Json) : Decoded Subgroup :=
  Record.decode "SubgroupNode"
    [.defaulted "title" [] decodeTitle fun title s => { s with title },
     .defaulted "count" [] decodeCount fun count s => { s with count },
     .defaulted "segments" [] (listOrNull Segment.ofJson) fun segments s => { s with segments }]
    ⟨"", none, []⟩ value

def Group.ofJson (value : Json) : Decoded Group :=
  Record.decode "GroupNode"
    [.defaulted "title" [] decodeTitle fun title s => { s with title },
     .defaulted "count" [] decodeCount fun count s => { s with count },
     .defaulted "subgroups" [] (listOrNull Subgroup.ofJson) fun subgroups s => { s with subgroups }]
    ⟨"", none, []⟩ value

/-- The object form, in which the groups are a member. -/
def ofObject (value : Json) : Decoded Outline :=
  Record.decode "HierarchyDescription"
    [.defaulted "groups" [] (listOrNull Group.ofJson) fun groups o => { o with groups }] empty value

def ofJson (value : Json) : Decoded Outline :=
  match value with
  | .null => .ok empty
  | .arr items => return ⟨← items.mapM Group.ofJson⟩
  | .obj _ =>
    if (value.get? "groups").isSome then ofObject value else return ⟨[← Group.ofJson value]⟩
  | .bool _ => refused "a boolean"
  | .num _ => refused "a number"
  | .str _ => refused "a string"
where
  refused (kind : String) : Decoded Outline :=
    .error (.custom ("expected an object or a list of groups, found " ++ kind))

def ofAuthored (a : Authored) : Reported Outline :=
  a.decode "hierarchy" empty fun value => (ofJson value).map pure

end PivotTable.Outline
