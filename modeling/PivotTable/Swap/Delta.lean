import PivotTable.Swap.Basic

/-!
# Swaps between two orders

A list of swaps that turns one order into another. The items of both are counted first. Then positions are
put right from the front; the item wanted is taken from a place where it is itself wrong, so that with
repeated items no place that is right is ever disturbed.
-/
namespace PivotTable.Swap

variable {α : Type} [DecidableEq α]

/-- Counts `step` more of an item, which starts at zero. -/
def tally (step : Int) (counts : List (α × Int)) (item : α) : List (α × Int) :=
  if item ∈ counts.map Prod.fst then
    counts.map fun (a, n) => if a = item then (a, n + step) else (a, n)
  else counts ++ [(item, step)]

def isPermutation (current target : List α) : Bool :=
  -- the items of the one list are counted up, and those of the other down
  current.length == target.length &&
    (target.foldl (tally (-1)) (current.foldl (tally 1) [])).all fun (_, n) => n == 0

/-- How far behind the first position the wanted item is taken from: `current` and `target` are what
follows that position. -/
def source? (wanted : α) (current target : List α) : Option Nat :=
  ((current.zip target).findIdx? fun (c, t) => c = wanted ∧ c ≠ t) <|>
    current.findIdx? (· = wanted)

def deltaFrom (i : Nat) : List α → List α → Option (List Swap)
  | _, [] => some []
  | [], _ :: _ => none
  | c :: current, t :: target =>
    if c = t then deltaFrom (i + 1) current target
    else do
      let k ← source? t current target
      let rest ← deltaFrom (i + 1) (current.set k c) target
      some (ofPositions i (i + 1 + k) :: rest)

/-- The swaps that turn `current` into `target`, which must be a permutation of it. -/
def delta? (current target : List α) : Option (List Swap) :=
  if isPermutation current target then deltaFrom 0 current target else none

end PivotTable.Swap
