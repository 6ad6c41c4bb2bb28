import PivotTable.Decode.Record

/-!
# Slots

A slot is one value column of the table: a metric under a path of four header levels, of which some may be
empty. An orphan is a metric that the outline gives no place; it heads itself.
-/
namespace PivotTable

inductive Level
  | level1
  | level2
  | level3
  | level4
deriving DecidableEq, Repr

namespace Level

def all : List Level := [.level1, .level2, .level3, .level4]

def name : Level → String
  | .level1 => "level1"
  | .level2 => "level2"
  | .level3 => "level3"
  | .level4 => "level4"

def ofName? (name : String) : Option Level := all.find? fun level => level.name == name

end Level

structure Path where
  level1 : String
  level2 : String
  level3 : String
  level4 : String
deriving DecidableEq, Repr

namespace Path

def empty : Path := ⟨"", "", "", ""⟩

instance : Inhabited Path := ⟨empty⟩

def levels (p : Path) : List String := [p.level1, p.level2, p.level3, p.level4]

def get (p : Path) : Level → String
  | .level1 => p.level1
  | .level2 => p.level2
  | .level3 => p.level3
  | .level4 => p.level4

def put (p : Path) (value : String) : Level → Path
  | .level1 => { p with level1 := value }
  | .level2 => { p with level2 := value }
  | .level3 => { p with level3 := value }
  | .level4 => { p with level4 := value }

theorem get_put (p : Path) (value : String) (level other : Level) :
    (p.put value level).get other = if other = level then value else p.get other := by
  cases level <;> cases other <;> rfl

def members (p : Path) : Members := Level.all.map fun level => (level.name, .str (p.get level))

end Path

structure Slot where
  path : Path
  metric : String
  orphan : Bool
deriving DecidableEq, Repr

namespace Slot

instance : Inhabited Slot := ⟨⟨.empty, "", false⟩⟩

def placed (path : Path) (metric : String) : Slot := ⟨path, metric, false⟩

def orphaned (metric : String) : Slot := ⟨{ Path.empty with level1 := metric }, metric, true⟩

def toJson (s : Slot) : Json :=
  .obj (s.path.members ++ ("metric", .str s.metric) ::
    if s.orphan then [("orphan", .bool true)] else [])

/-- A field for each level of a record that has a path. -/
def levelFields {V σ : Type} [Source V] (modify : (Path → Path) → σ → σ) : List (Field V σ) :=
  Level.all.map fun level =>
    .required level.name Source.text fun value => modify (Path.put · value level)

def ofJson (value : Json) : Decoded Slot :=
  Record.decode "Slot"
    (levelFields (fun f (s : Slot) => { s with path := f s.path }) ++
      [.required "metric" Source.text fun metric s => { s with metric },
       .defaulted "orphan" [] Source.bool fun orphan s => { s with orphan }])
    default value

end Slot

/-- What rules see of a slot and may relocate: its path and its metric. -/
structure Tuple where
  path : Path
  metric : String
deriving DecidableEq, Repr

namespace Tuple

def ofSlot (s : Slot) : Tuple := ⟨s.path, s.metric⟩

def get? (t : Tuple) (field : String) : Option String :=
  if field = "metric" then some t.metric else (Level.ofName? field).map t.path.get

def isWritable : Level → Bool
  | .level4 => false
  | _ => true

def writableLevel? (field : String) : Option Level := (Level.ofName? field).filter isWritable

/-- The tuple with a level overwritten, unless the field is no level that may be written. -/
def put? (t : Tuple) (field value : String) : Option Tuple :=
  (writableLevel? field).map fun level => { t with path := t.path.put value level }

def toJson (t : Tuple) : Json := .obj (t.path.members ++ [("metric", .str t.metric)])

end Tuple

end PivotTable
