import PivotTable.Authored
import PivotTable.Metric

/-!
# Configurations

Everything that defines a table: its metrics, the authored fields that arrange, relocate and exclude them,
and a few settings. A configuration is decoded alike from a JSON value, from a JSON text and from other
notations.
-/
namespace PivotTable

structure Config where
  metrics : List Metric
  hierarchy : Authored
  swaps : Authored
  relocationRules : Authored
  platformRules : Authored
  exclusions : Authored
  showSegments : Bool
  validateSwaps : Bool
  platformColumn : String
  groupSeparator : String
deriving DecidableEq

namespace Config

/-- The configuration of nothing: segments are shown and swaps are validated. -/
def empty : Config where
  metrics := []
  hierarchy := .blank
  swaps := .blank
  relocationRules := .blank
  platformRules := .blank
  exclusions := .blank
  showSegments := true
  validateSwaps := true
  platformColumn := "platform"
  groupSeparator := " / "

instance : Inhabited Config := ⟨empty⟩

def labels (c : Config) : List String := c.metrics.map Metric.label

def toJson (c : Config) : Json :=
  .obj [("metrics", .arr (c.metrics.map Metric.toJson)),
    ("hierarchy", c.hierarchy.toJson),
    ("swaps", c.swaps.toJson),
    ("relocationRules", c.relocationRules.toJson),
    ("platformRules", c.platformRules.toJson),
    ("exclusions", c.exclusions.toJson),
    ("showSegments", .bool c.showSegments),
    ("validateSwaps", .bool c.validateSwaps),
    ("platformColumn", .str c.platformColumn),
    ("groupSeparator", .str c.groupSeparator)]

/-- An authored field takes any value that has a proper form throughout. -/
def authored {V : Type} [Source V] (value : V) : Decoded Authored :=
  (Source.json value).map .ofJson

def fields {V : Type} [Source V] : List (Field V Config) :=
  [.defaulted "metrics" [] (Source.list Metric.decode) fun metrics c => { c with metrics },
   .defaulted "hierarchy" [] authored fun hierarchy c => { c with hierarchy },
   .defaulted "swaps" [] authored fun swaps c => { c with swaps },
   .defaulted "relocationRules" ["relocation_rules"] authored
     fun relocationRules c => { c with relocationRules },
   .defaulted "platformRules" ["platform_rules"] authored
     fun platformRules c => { c with platformRules },
   .defaulted "exclusions" [] authored fun exclusions c => { c with exclusions },
   .defaulted "showSegments" ["show_segments"] Source.bool
     fun showSegments c => { c with showSegments },
   .defaulted "validateSwaps" ["validate_swaps"] Source.bool
     fun validateSwaps c => { c with validateSwaps },
   .defaulted "platformColumn" ["platform_column"] Source.text
     fun platformColumn c => { c with platformColumn },
   .defaulted "groupSeparator" ["group_separator"] Source.text
     fun groupSeparator c => { c with groupSeparator }]

def decode {V : Type} [Source V] (value : V) : Decoded Config :=
  Record.decode "EngineConfig" fields empty value

def ofJson (value : Json) : Decoded Config := decode value

/-- The configuration with members of its JSON form overwritten. -/
def updated (c : Config) (changes : Members) : Decoded Config :=
  match c.toJson with
  | .obj members => ofJson (.obj (changes.foldl (fun kept m => Members.put m.1 m.2 kept) members))
  | value => ofJson value

end Config

def decodeText {α : Type} (decoder : Document → Decoded α) (text : String) : Decoded α := do
  let reading := Json.readDocument text
  let a ← (decoder reading.document).mapError DecodeError.inText
  if reading.complete then pure a else throw .malformed

end PivotTable
