import PivotTable.Fact
import PivotTable.Placement

/-!
# Sort keys

Every column that a table pivots on has an order of its values: header levels, the metric, and the other
columns of the facts. Values come in the order of their first appearance; shown segments come first in the
order of the outline. Values without a rank sort behind all others, by their text.
-/
namespace PivotTable

structure ColumnOrder where
  column : String
  values : OrderedSet
deriving DecidableEq

/-- Columns in order, each once, and where each of them stands. -/
structure SortKeys where
  columns : List ColumnOrder
  index : List (String × Nat)
deriving DecidableEq

namespace SortKeys

def metricColumn : String := "metric"

def reserved : List String := Level.all.map Level.name ++ [metricColumn]

def isReserved (column : String) : Bool := reserved.contains column

def names (k : SortKeys) : List String := k.columns.map ColumnOrder.column

def empty : SortKeys := ⟨[], []⟩

def order? (k : SortKeys) (column : String) : Option OrderedSet :=
  (k.index.lookup column).bind fun position => k.columns[position]?.map ColumnOrder.values

def rank? (k : SortKeys) (column value : String) : Option Nat :=
  (k.order? column).bind fun values => values.position? value

/-- `f` is applied to the values of a column, which is added at the end if it is not there. -/
def modify (k : SortKeys) (column : String) (f : OrderedSet → OrderedSet) : SortKeys :=
  match k.index.lookup column with
  | some position =>
    { k with columns := k.columns.modify position fun c => { c with values := f c.values } }
  | none =>
    { columns := k.columns ++ [⟨column, f .empty⟩]
      index := k.index ++ [(column, k.columns.length)] }

/-- A value was seen in a column; the column counts even if the value is empty. -/
def observe (k : SortKeys) (column value : String) : SortKeys :=
  k.modify column (·.insertNonempty value)

def observeDimension (k : SortKeys) (cell : String × Json) : SortKeys :=
  if isReserved cell.1 then k else k.observe cell.1 cell.2.label

def observeFact (k : SortKeys) (f : Fact) : SortKeys :=
  let k := Level.all.foldl (fun k level => k.observe level.name (f.path.get level)) k
  let k := k.observe metricColumn f.metric
  f.dimensions.cells.foldl observeDimension k

/-- The reserved columns, with the authored order of segments if they are shown. -/
def initial (canonical : CanonicalOrder) (showSegments : Bool) : SortKeys :=
  let k := reserved.foldl (fun k column => k.modify column id) empty
  if showSegments then k.modify Level.level3.name (·.insertAll canonical.level3.toList) else k

def ofFacts (facts : List Fact) (canonical : CanonicalOrder) (showSegments : Bool) : SortKeys :=
  facts.foldl observeFact (initial canonical showSegments)

/-- Values with a rank in the order of ranks, and before all others, which come by their texts. -/
def compare (k : SortKeys) (column a b : String) : Ordering :=
  match k.rank? column a, k.rank? column b with
  | some i, some j => Ord.compare i j
  | some _, none => .lt
  | none, some _ => .gt
  | none, none => Ord.compare a b

def sort (k : SortKeys) (column : String) (values : List String) : List String :=
  values.mergeSort fun a b => (k.compare column a b).isLE

/-- The columns alone, without their places. -/
def toJson (k : SortKeys) : Json :=
  .arr (k.columns.map fun c =>
    .obj [("column", .str c.column), ("values", .ofStrings c.values.toList)])

end SortKeys

end PivotTable
