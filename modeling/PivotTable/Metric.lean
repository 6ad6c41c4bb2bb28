import PivotTable.Decode.Record

/-!
# Metrics

A metric of the configuration is a label, or an object with up to three names of which the first that is
given serves as the label.
-/
namespace PivotTable

inductive Metric
  | labelled (label : String)
  | described (label metricName verboseName : Option String)
deriving DecidableEq

namespace Metric

def label : Metric → String
  | .labelled label => label
  | .described label metricName verboseName =>
    ((label.or metricName).or verboseName).getD ""

def toJson : Metric → Json
  | .labelled label => .str label
  | .described label metricName verboseName =>
    .obj [("label", .ofOption .str label), ("metric_name", .ofOption .str metricName),
      ("verbose_name", .ofOption .str verboseName)]

def optionalText : Document → Decoded (Option String)
  | .null => .ok none
  | d => (Source.text d).map some

def describedFields : List (Field Document Metric) :=
  [.defaulted "label" [] optionalText fun x m =>
      match m with
      | .described _ b c => .described x b c
      | m => m,
   .defaulted "metric_name" [] optionalText fun x m =>
      match m with
      | .described a _ c => .described a x c
      | m => m,
   .defaulted "verbose_name" [] optionalText fun x m =>
      match m with
      | .described a b _ => .described a b x
      | m => m]

/-- The kinds are tried in turn on the whole value, so a fault inside it fits neither. -/
def decode {V : Type} [Source V] (value : V) : Decoded Metric := do
  match ← Source.content value with
  | .str label => pure (.labelled label)
  | .map members =>
    match Record.ofMembers describedFields [] (.described none none none) members with
    | .ok m => pure m
    | .error _ => throw (.noVariant "MetricSpec")
  | _ => throw (.noVariant "MetricSpec")

end Metric

end PivotTable
