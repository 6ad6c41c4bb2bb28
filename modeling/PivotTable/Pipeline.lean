import PivotTable.Digest
import PivotTable.Exclusion
import PivotTable.Fact

/-!
# Pipelines

Facts go through stages in order, of which one relocates and one excludes. Each stage reports the number of
facts before and after it, and leaves a trace with digests of both.
-/
namespace PivotTable

inductive Stage
  | relocate (rules : RuleSet)
  | exclude (exclusions : ExclusionSet)
deriving DecidableEq

namespace Stage

/-- Names what the stage does, with the revision of how it does it. -/
def id : Stage → String
  | .relocate _ => "relocate.rules.v1"
  | .exclude _ => "exclude.filter.v1"

/-- The part of the name that stands for the stage in the name of a pipeline. -/
def label (s : Stage) : String := String.ofList (s.id.toList.takeWhile (· ≠ '.'))

/-- Equal facts always give equal results. -/
def isDeterministic : Stage → Bool
  | .relocate _ => true
  | .exclude _ => true

def run : Stage → List Fact → List Fact
  | .relocate rules, facts => if rules.isEmpty then facts else facts.map (Fact.relocate rules)
  | .exclude exclusions, facts =>
    if exclusions.isEmpty then facts
    else facts.filter fun f => !exclusions.excludes f.combination.tuple f.dimensions

end Stage

def Fact.listToJson (facts : List Fact) : Json := .arr (facts.map Fact.toJson)

structure Trace where
  stage : String
  rowsIn : Nat
  rowsOut : Nat
  inHash : String
  outHash : String
  deterministic : Bool
deriving DecidableEq

abbrev Pipeline := List Stage

namespace Pipeline

/-- Relocation before exclusion. -/
def standard (rules : RuleSet) (exclusions : ExclusionSet) : Pipeline :=
  [.relocate rules, .exclude exclusions]

def id (p : Pipeline) : String := String.intercalate "→" (p.map Stage.label)

def run : Pipeline → List Fact → Reported (List Fact × List Trace)
  | [], facts => pure (facts, [])
  | stage :: rest, facts => do
    let result := stage.run facts
    Reported.report (.stageCompleted stage.id facts.length result.length)
    let trace : Trace :=
      { stage := stage.id
        rowsIn := facts.length
        rowsOut := result.length
        inHash := (Fact.listToJson facts).digest
        outHash := (Fact.listToJson result).digest
        deterministic := stage.isDeterministic }
    let (final, traces) ← run rest result
    pure (final, trace :: traces)

end Pipeline

end PivotTable
