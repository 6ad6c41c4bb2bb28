import PivotTable.KeySet
import PivotTable.Row
import PivotTable.Unicode.Table

/-!
# Relocation rules

A pattern is what a rule asks of a field: nothing, or that its text compare equal to one of some values.
Values that say nothing (`null`, `false`, zero, blank texts, empty lists) ask nothing. A retarget rule looks at
a column from its patterns and gives it new header levels; of several the first that matches counts. An
assignment holds under conditions on fields and writes fields; all that hold apply, in order, each to what the
ones before it wrote.
-/
namespace PivotTable

inductive Pattern
  | any
  | oneOf (values : KeySet)
deriving DecidableEq

namespace Pattern

def saysNothing : Json → Bool
  | .null => true
  | .bool b => !b
  | .num n => n.isZero
  | .str s => isBlankText s
  | .arr items => items.isEmpty
  | .obj _ => false

def ofJson (value : Json) : Pattern :=
  if saysNothing value then .any
  else
    let values := (KeySet.ofJson value).nonempty
    if values.isEmpty then .any else .oneOf values

/-- The pattern of a field that may be missing. -/
def ofOption : Option Json → Pattern
  | some value => ofJson value
  | none => .any

/-- A field that is missing meets no values. -/
def accepts : Pattern → Option String → Bool
  | .any, _ => true
  | .oneOf values, some text => values.accepts text
  | .oneOf _, none => false

def isAny : Pattern → Bool
  | .any => true
  | .oneOf _ => false

end Pattern

/-- `index` is the place of the rule in the list it was authored in. -/
structure Retarget where
  index : Nat
  level1 : Pattern
  level2 : Pattern
  level3 : Pattern
  platform : Pattern
  metric : Pattern
  conditions : List (String × Pattern)
  targets : List (Level × String)
deriving DecidableEq

structure Assignment where
  index : Nat
  conditions : List (String × KeySet)
  values : Members
deriving DecidableEq

inductive Rule
  | retarget (rule : Retarget)
  | assign (rule : Assignment)
deriving DecidableEq

/-- The rules of a table by kind, each kind in order, and the column that tells the platform. -/
structure RuleSet where
  retargets : List Retarget
  assignments : List Assignment
  platformColumn : String
deriving DecidableEq

namespace Rule

def retarget? : Rule → Option Retarget
  | .retarget rule => some rule
  | .assign _ => none

def assign? : Rule → Option Assignment
  | .retarget _ => none
  | .assign rule => some rule

end Rule

namespace RuleSet

def ofRules (platformColumn : String) (rules : List Rule) : RuleSet :=
  ⟨rules.filterMap Rule.retarget?, rules.filterMap Rule.assign?, platformColumn⟩

/-- A rule goes behind those of its kind. -/
def push (s : RuleSet) : Rule → RuleSet
  | .retarget rule => { s with retargets := s.retargets ++ [rule] }
  | .assign rule => { s with assignments := s.assignments ++ [rule] }

theorem foldl_push (s : RuleSet) (rules : List Rule) :
    rules.foldl push s = ⟨s.retargets ++ rules.filterMap Rule.retarget?,
      s.assignments ++ rules.filterMap Rule.assign?, s.platformColumn⟩ := by
  induction rules generalizing s with
  | nil => simp
  | cons rule rest ih =>
    rw [List.foldl_cons, ih]
    cases rule <;> simp [push, List.filterMap_cons, Rule.retarget?, Rule.assign?]

def size (s : RuleSet) : Nat := s.retargets.length + s.assignments.length

def isEmpty (s : RuleSet) : Bool := s.size == 0

end RuleSet

end PivotTable
