import PivotTable.Rule.Basic

/-!
# Relocation

The first retarget rule that matches a column overwrites its header levels; then every assignment whose
conditions hold at that time writes its fields, into the tuple where it has them and into the row otherwise.
-/
namespace PivotTable

/-- One value column of one row: its tuple, and the other cells of the row. -/
structure Combination where
  tuple : Tuple
  dimensions : Row
deriving DecidableEq

namespace Combination

def field? (c : Combination) (name : String) : Option String :=
  fieldValue? name c.tuple c.dimensions

/-- Writes a field: a level of the tuple, or else a cell. -/
def write (c : Combination) (field : String) (value : Json) : Combination :=
  match c.tuple.put? field value.label with
  | some tuple => { c with tuple }
  | none => { c with dimensions := c.dimensions.put field value }

end Combination

namespace Retarget

def isMet (rule : Retarget) (platformColumn label : String) (c : Combination) : Bool :=
  rule.level1.accepts c.tuple.path.level1 && rule.level2.accepts c.tuple.path.level2 &&
    rule.level3.accepts c.tuple.path.level3 && rule.metric.accepts label &&
    rule.platform.accepts ((c.dimensions.get? platformColumn).map Json.label) &&
    rule.conditions.all fun (field, pattern) => pattern.accepts (c.field? field)

def apply (rule : Retarget) (c : Combination) : Combination :=
  { c with tuple.path := rule.targets.foldl (fun path (level, value) => path.put value level) c.tuple.path }

end Retarget

namespace Assignment

/-- A field that is missing reads as empty. -/
def isMet (rule : Assignment) (c : Combination) : Bool :=
  rule.conditions.all fun (field, values) => values.accepts ((c.field? field).getD "")

def apply (rule : Assignment) (c : Combination) : Combination :=
  rule.values.foldl (fun c (field, value) => c.write field value) c

/-- Applies every assignment that holds, and tells the positions of those, counted from `position`. -/
def applyAll (position : Nat) : List Assignment → Combination → List Nat × Combination
  | [], c => ([], c)
  | rule :: rest, c =>
    if rule.isMet c then
      let (fired, c) := applyAll (position + 1) rest (rule.apply c)
      (position :: fired, c)
    else applyAll (position + 1) rest c

end Assignment

structure Relocation where
  retarget : Option Nat
  assignments : List Nat
deriving DecidableEq, Repr

namespace Relocation

def isRelocated (r : Relocation) : Bool := r.retarget.isSome || !r.assignments.isEmpty

end Relocation

/-- Relocates a combination whose metric has this label. -/
def RuleSet.relocate (rules : RuleSet) (label : String) (c : Combination) : Relocation × Combination :=
  let retarget := rules.retargets.findIdx? (·.isMet rules.platformColumn label c)
  let retargeted :=
    match rules.retargets.find? (·.isMet rules.platformColumn label c) with
    | some rule => rule.apply c
    | none => c
  let (assignments, result) := Assignment.applyAll 0 rules.assignments retargeted
  (⟨retarget, assignments⟩, result)

end PivotTable
