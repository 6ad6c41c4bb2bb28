import PivotTable.Event
import PivotTable.Grouping

/-!
# Swap batches

A swap exchanges the items at two positions. A batch is applied in order and as a whole: if any of its
pairs joins two groups, nothing is exchanged. Pairs that point outside the list are skipped and never
reject a batch.
-/
namespace PivotTable

structure Swap where
  first : Int
  second : Int
deriving DecidableEq, Repr

/-- A pair whose endpoints lie in different groups; the groups are named by their display keys. -/
structure Violation where
  index : Nat
  swap : Swap
  firstGroup : String
  secondGroup : String
deriving DecidableEq, Repr

namespace Swap

def ofPositions (i j : Nat) : Swap := ⟨i, j⟩

def position? (size : Nat) (i : Int) : Option Nat :=
  if 0 ≤ i ∧ i < size then some i.toNat else none

def positions? (size : Nat) (s : Swap) : Option (Nat × Nat) := do
  some (← position? size s.first, ← position? size s.second)

def toJson (s : Swap) : Json := .arr [.ofInt s.first, .ofInt s.second]

/-- The violation of a pair at a place in its batch. -/
def violation? (groups : Grouping) (index : Nat) (s : Swap) : Option Violation := do
  let (i, j) ← s.positions? groups.slotCount
  if groups.sameGroup i j then none
  else some ⟨index, s, ← groups.keyOf? i, ← groups.keyOf? j⟩

def violations (swaps : List Swap) (groups : Grouping) : List Violation :=
  swaps.zipIdx.filterMap fun (s, index) => s.violation? groups index

end Swap

namespace Violation

def text (v : Violation) : String :=
  "cannot move item from group " ++ v.firstGroup ++ " to group " ++ v.secondGroup ++
    " (swap #" ++ toString v.index ++ ": " ++ toString v.swap.first ++ " -> " ++
    toString v.swap.second ++ ")"

def toJson (v : Violation) : Json :=
  .obj [("index", .ofNat v.index), ("from", .ofInt v.swap.first), ("to", .ofInt v.swap.second),
    ("from_group", .str v.firstGroup), ("to_group", .str v.secondGroup)]

end Violation

section

variable {α : Type}

/-- The list with the items at two of its positions exchanged. -/
def exchangeAt (i j : Nat) (items : List α) : List α :=
  match items[i]?, items[j]? with
  | some x, some y => (items.set i y).set j x
  | _, _ => items

/-- The effect of one swap; none outside the list. -/
def Swap.exchange (s : Swap) (items : List α) : List α :=
  match s.positions? items.length with
  | some (i, j) => exchangeAt i j items
  | none => items

def Swap.exchangeAll (swaps : List Swap) (items : List α) : List α :=
  swaps.foldl (fun items s => s.exchange items) items

@[simp]
theorem length_exchangeAt (i j : Nat) (items : List α) :
    (exchangeAt i j items).length = items.length := by
  unfold exchangeAt
  split <;> simp

@[simp]
theorem Swap.length_exchange (s : Swap) (items : List α) :
    (s.exchange items).length = items.length := by
  unfold exchange
  split <;> simp

theorem Swap.exchangeAll_append (a b : List Swap) (items : List α) :
    Swap.exchangeAll (a ++ b) items = Swap.exchangeAll b (Swap.exchangeAll a items) := by
  simp [exchangeAll]

@[simp]
theorem Swap.length_exchangeAll (swaps : List Swap) (items : List α) :
    (Swap.exchangeAll swaps items).length = items.length := by
  induction swaps generalizing items with
  | nil => rfl
  | cons s rest ih => exact (ih _).trans (s.length_exchange items)

/-- The places in the batch of the pairs that point outside a list of this size. -/
def Swap.outside (swaps : List Swap) (size : Nat) : List Nat :=
  swaps.zipIdx.filterMap fun (s, index) =>
    if (s.positions? size).isNone then some index else none

end

/-- The result of a batch: the new order, how many pairs were exchanged, the places of those that were
skipped, and the violations for which the whole batch was rejected. -/
structure SwapOutcome where
  slots : List Slot
  applied : Nat
  skipped : List Nat
  violations : List Violation
deriving DecidableEq

namespace SwapOutcome

def isRejected (o : SwapOutcome) : Bool := !o.violations.isEmpty

/-- One event for a rejected batch and one for each skipped pair. -/
def events (o : SwapOutcome) (swaps : List Swap) : List Event :=
  (if o.isRejected then [.batchRejected (o.violations.map Violation.text)] else []) ++
    o.skipped.filterMap fun index =>
      swaps[index]?.map fun s => .swapSkipped index s.first s.second o.slots.length

end SwapOutcome

/-- Applies a batch to slots; with groups it is validated first. -/
def Swap.apply (slots : List Slot) (swaps : List Swap) (groups : Option Grouping) : SwapOutcome :=
  let violations := (groups.map (Swap.violations swaps)).getD []
  if violations.isEmpty then
    let skipped := Swap.outside swaps slots.length
    ⟨Swap.exchangeAll swaps slots, swaps.length - skipped.length, skipped, []⟩
  else ⟨slots, 0, [], violations⟩

end PivotTable
