import PivotTable.Rule.Relocate
import PivotTable.Decimal.Numeral
import PivotTable.Unicode.Table

/-!
# Facts

A fact is the value of one slot in one row, with the header levels of the slot and the cells of the row that
are no metric of any slot. Rows and slots expand to facts, rows outermost.
-/
namespace PivotTable

structure Fact where
  dimensions : Row
  path : Path
  /-- The identity of the metric, which an orphan does not have. -/
  metric : String
  /-- The column of the metric. -/
  metricKey : String
  value : Option Binary64
deriving DecidableEq

/-- The number in a cell; a text that is a numeral counts as one. -/
def Json.quantity? : Json → Option Binary64
  | .num n => some n.toBinary64
  | .str s => Decimal.read? (trimmed s)
  | _ => none

namespace Fact

instance : Inhabited Fact := ⟨⟨.empty, .empty, "", "", none⟩⟩

/-- What rules see of a fact. -/
def combination (f : Fact) : Combination := ⟨⟨f.path, f.metricKey⟩, f.dimensions⟩

/-- The fact of a slot in a row whose other cells are `dimensions`. -/
def ofSlot (row dimensions : Row) (s : Slot) : Fact where
  dimensions
  path := s.path
  metric := if s.orphan then "" else s.metric
  metricKey := s.metric
  value := (row.get? s.metric).bind Json.quantity?

def ofRow (slots : List Slot) (row : Row) : List Fact :=
  slots.map (ofSlot row (row.without (slots.map Slot.metric)))

def ofRows (rows : List Row) (slots : List Slot) : List Fact := rows.flatMap (ofRow slots)

def toJson (f : Fact) : Json :=
  .obj (("dimensions", f.dimensions.toJson) :: f.path.members ++
    [("metric", .str f.metric), ("metric_key", .str f.metricKey),
      ("value", .ofOption (fun x => .num (.real x)) f.value)])

def number : Json → Decoded Binary64
  | .num n => .ok n.toBinary64
  | value => .error (.invalidType value.described "f64")

def ofJson (value : Json) : Decoded Fact :=
  Record.decode "ProcessedRow"
    (.required "dimensions" Row.decode (fun dimensions f => { f with dimensions }) ::
      Slot.levelFields (fun g (f : Fact) => { f with path := g f.path }) ++
      [.required "metric" Source.text fun metric f => { f with metric },
       .required "metric_key" Source.text fun metricKey f => { f with metricKey },
       .optional "value" (Json.optional number) fun value f => { f with value }])
    default value

/-- The fact after relocation, which leaves its metric and its lowest level alone. -/
def relocate (rules : RuleSet) (f : Fact) : Fact :=
  let c := (rules.relocate f.metricKey f.combination).2
  { f with
    dimensions := c.dimensions
    path := { c.tuple.path with level4 := f.path.level4 } }

end Fact

end PivotTable
