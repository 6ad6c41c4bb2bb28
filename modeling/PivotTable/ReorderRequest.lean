import PivotTable.Decode.Record

/-!
# Reorder requests

A request to show the columns of a table in another order: as a drag from one position to another, or as
the whole order of metrics. The forms are tried in turn on the members that a request gives.
-/
namespace PivotTable

inductive ReorderRequest
  | move (origin destination : Nat)
  | order (metrics : List String)
deriving DecidableEq

namespace ReorderRequest

/-- Decodes a part of a request by the value that it denotes. -/
def part {α : Type} (decoder : Json → Decoded α) (d : Document) : Decoded α := do
  decoder (← Source.json d)

def moveFields : List (Field Document (Nat × Nat)) :=
  [.required "from" (part Json.natural) fun x r => (x, r.2),
   .required "to" (part Json.natural) fun x r => (r.1, x)]

def orderFields : List (Field Document (List String)) :=
  [.required "order" (Source.list Source.text) fun x _ => x]

def decode {V : Type} [Source V] (value : V) : Decoded ReorderRequest := do
  match ← Source.content value with
  | .map members =>
    match Record.ofMembers moveFields [] (0, 0) members with
    | .ok (origin, destination) => pure (.move origin destination)
    | .error _ =>
      match Record.ofMembers orderFields [] [] members with
      | .ok metrics => pure (.order metrics)
      | .error _ => throw (.noVariant "ReorderRequest")
  | _ => throw (.noVariant "ReorderRequest")

end ReorderRequest

end PivotTable
