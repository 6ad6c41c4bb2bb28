import PivotTable.Swap.Delta

/-!
# Planning reorders

A reorder is asked for as a drag from one position to another or as a whole order of metrics, and answered
by the swaps to keep and the order they produce. With groups, a reorder whose swaps join groups is refused.
-/
namespace PivotTable

inductive ReorderError
  | notAPermutation
  | outOfRange (position size : Nat)
  | crossGroup (violations : List Violation)
deriving DecidableEq

namespace ReorderError

def message : ReorderError → String
  | .notAPermutation => "REORDER/target is not a permutation of the current order"
  | .outOfRange position size =>
    "REORDER/position " ++ toString position ++ " is outside 0.." ++ toString size
  | .crossGroup violations =>
    "REORDER/" ++ toString violations.length ++ " swap(s) cross group boundaries"

def violations : ReorderError → List Violation
  | .crossGroup violations => violations
  | _ => []

end ReorderError

structure Plan where
  delta : List Swap
  slots : List Slot
deriving DecidableEq

namespace Plan

variable {α : Type} [DecidableEq α]

def deltaBetween (current target : List α) : Except ReorderError (List Swap) :=
  match Swap.delta? current target with
  | some delta => .ok delta
  | none => .error .notAPermutation

/-- The plan that consists of these swaps, unless they join groups. -/
def ofDelta (slots : List Slot) (groups : Option Grouping) (delta : List Swap) :
    Except ReorderError Plan :=
  let violations := (groups.map (Swap.violations delta)).getD []
  if violations.isEmpty then .ok ⟨delta, Swap.exchangeAll delta slots⟩
  else .error (.crossGroup violations)

/-- The list with the item at `origin` taken out and put in again at `destination`. -/
def dragged {β : Type} (origin destination : Nat) (items : List β) : List β :=
  match items[origin]? with
  | some item => (items.eraseIdx origin).insertIdx destination item
  | none => items

def move (slots : List Slot) (groups : Option Grouping) (origin destination : Nat) :
    Except ReorderError Plan :=
  let size := slots.length
  if size ≤ origin then .error (.outOfRange origin size)
  else if size ≤ destination then .error (.outOfRange destination size)
  else do
    let current := List.range size
    ofDelta slots groups (← deltaBetween current (dragged origin destination current))

def order (slots : List Slot) (groups : Option Grouping) (metrics : List String) :
    Except ReorderError Plan := do
  ofDelta slots groups (← deltaBetween (slots.map Slot.metric) metrics)

end Plan

end PivotTable
