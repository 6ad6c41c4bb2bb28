import PivotTable.Config
import PivotTable.Outline.Encode
import PivotTable.Pipeline
import PivotTable.Placement
import PivotTable.ReorderRequest
import PivotTable.Rule.Decode
import PivotTable.SortKeys
import PivotTable.Swap.Authored
import PivotTable.Swap.Plan

/-!
# Tables

A table is a configuration whose authored fields have been decoded. It has a layout, which is the order of
its slots after the configured swaps; it turns rows into facts with their sort keys; and it plans reorders,
answering with the swaps to keep in the configuration.
-/
namespace PivotTable

/-- The slots of a table in their order of display, with the structure they were checked against. -/
structure Layout where
  /-- The slots as placed, before any swap. -/
  baseSlots : List Slot
  slots : List Slot
  groups : Grouping
  canonical : CanonicalOrder
  /-- Why the configured swaps were rejected, if they were. -/
  violations : List Violation
  declared : Nat
deriving DecidableEq

namespace Layout

def isRejected (l : Layout) : Bool := !l.violations.isEmpty

def toJson (l : Layout) : Json :=
  .obj [("base_slots", .arr (l.baseSlots.map Slot.toJson)),
    ("slots", .arr (l.slots.map Slot.toJson)),
    ("groups", l.groups.toJson),
    ("canonical", l.canonical.toJson),
    ("violations", .arr (l.violations.map Violation.toJson)),
    ("declared", .ofNat l.declared)]

end Layout

structure Output where
  slots : List Slot
  facts : List Fact
  orders : SortKeys
  violations : List Violation
  /-- The digest of slots, facts and sort keys. -/
  fingerprint : String
  pipelineId : String
  traces : List Trace
deriving DecidableEq

namespace Output

def fingerprintContent (slots : List Slot) (facts : List Fact) (orders : SortKeys) : Json :=
  .arr [.arr (slots.map Slot.toJson), Fact.listToJson facts, orders.toJson]

def toJson (o : Output) : Json :=
  .obj [("slots", .arr (o.slots.map Slot.toJson)),
    ("rows", Fact.listToJson o.facts),
    ("orders", o.orders.toJson),
    ("violations", .arr (o.violations.map Violation.toJson)),
    ("fingerprint", .str o.fingerprint),
    ("pipeline_id", .str o.pipelineId)]

end Output

/-- The answer to a reorder: the swaps that lead to the new order, and all swaps to keep. -/
structure Payload where
  delta : List Swap
  swaps : List Swap
  slots : List Slot
deriving DecidableEq

namespace Payload

def swapsText (p : Payload) : String := Swap.listText p.swaps

def toJson (p : Payload) : Json :=
  .obj [("delta", Swap.listToJson p.delta),
    ("swaps", Swap.listToJson p.swaps),
    ("swaps_json", .str p.swapsText),
    ("slots", .arr (p.slots.map Slot.toJson))]

end Payload

structure Table where
  config : Config
  placement : Placement
  swaps : List Swap
  pipeline : Pipeline

namespace Table

/-- A size mismatch is reported for outlines that have any group. -/
def mismatch (outline : Outline) (declared metrics : Nat) : List Event :=
  if !outline.isEmpty && declared != metrics then [.sizeMismatch declared metrics] else []

/-- Decodes every authored field once. -/
def ofConfig (config : Config) : Reported Table := do
  let outline ← Outline.ofAuthored config.hierarchy
  let placement := Placement.ofOutline outline config.labels config.showSegments
  Reported.reportAll (mismatch outline placement.declared config.metrics.length)
  let swaps ← Swap.ofAuthored config.swaps
  let rules ← RuleSet.ofAuthored config.platformRules config.relocationRules config.platformColumn
  let exclusions ← ExclusionSet.ofAuthored config.exclusions
  pure { config, placement, swaps, pipeline := .standard rules exclusions }

def groups (t : Table) : Grouping :=
  .ofSlots t.config.showSegments t.config.groupSeparator t.placement.slots

/-- The groups that swaps must respect, if any. -/
def guard? (t : Table) : Option Grouping := if t.config.validateSwaps then some t.groups else none

def outcome (t : Table) : SwapOutcome := Swap.apply t.placement.slots t.swaps t.guard?

/-- The layout, with a report on the configured swaps. -/
def layout (t : Table) : Reported Layout := do
  let outcome := t.outcome
  Reported.reportAll (outcome.events t.swaps)
  pure
    { baseSlots := t.placement.slots
      slots := outcome.slots
      groups := t.groups
      canonical := t.placement.canonical.withSlotMetrics outcome.slots
      violations := outcome.violations
      declared := t.placement.declared }

def process (t : Table) (rows : List Row) : Reported Output := do
  let layout ← t.layout
  let (facts, traces) ← Pipeline.run t.pipeline (Fact.ofRows rows layout.slots)
  let orders := SortKeys.ofFacts facts layout.canonical t.config.showSegments
  pure
    { slots := layout.slots
      facts
      orders
      violations := layout.violations
      fingerprint := (Output.fingerprintContent layout.slots facts orders).digest
      pipelineId := Pipeline.id t.pipeline
      traces }

def planOn (t : Table) (layout : Layout) : ReorderRequest → Except ReorderError Plan
  | .move origin destination => Plan.move layout.slots t.guard? origin destination
  | .order metrics => Plan.order layout.slots t.guard? metrics

/-- A rejected batch never took effect, so it is not kept. -/
def payload (t : Table) (layout : Layout) (plan : Plan) : Payload :=
  { delta := plan.delta
    swaps := (if layout.isRejected then [] else t.swaps) ++ plan.delta
    slots := plan.slots }

def plan (t : Table) (request : ReorderRequest) : Reported (Except ReorderError Payload) := do
  let layout ← t.layout
  pure ((t.planOn layout request).map (t.payload layout))

end Table

end PivotTable
