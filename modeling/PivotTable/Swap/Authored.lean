import PivotTable.Swap.Basic
import PivotTable.Authored

/-!
# Authored swaps

Swaps are kept in configurations as a list of index pairs, each a list of two or an object with `from` and
`to`. Indices may be written as doubles as long as they are whole and short of the 64-bit limits.
-/
namespace PivotTable.Swap

/-- The integer that a number denotes, if a signed 64-bit word holds it. A double must be less than the
limits in magnitude. -/
def index? : Json → Option Int
  | .num (.integer i _) => if i < 9223372036854775808 then some i else none
  | .num (.real x) => do
    let i ← x.toInt?
    if i.natAbs < 9223372036854775808 then some i else none
  | _ => none

/-- The two indices of an entry, not yet read. -/
def endpoints : Json → Except String (Json × Json)
  | .arr [first, second] => .ok (first, second)
  | .arr _ => .error "expected exactly two indices"
  | .obj members =>
    match members.lookup "from", members.lookup "to" with
    | some first, some second => .ok (first, second)
    | _, _ => .error "expected both `from` and `to`"
  | _ => .error "expected an index pair"

def ofEntry (entry : Json) : Except String Swap := do
  let (first, second) ← endpoints entry
  match index? first, index? second with
  | some first, some second => .ok ⟨first, second⟩
  | _, _ => .error "indices must be integers"

/-- The swaps of a list; entries of any other shape are dropped. -/
def ofJson : Json → Decoded (Reported (List Swap))
  | .arr entries => .ok do
    let accepted ← Authored.acceptItems "swaps" ofEntry 0 entries
    pure (accepted.map Prod.snd)
  | _ => .error (.custom "swaps must be a list of index pairs")

def ofAuthored (a : Authored) : Reported (List Swap) := a.decode "swaps" [] ofJson

def listToJson (swaps : List Swap) : Json := .arr (swaps.map toJson)

def listText (swaps : List Swap) : String := (listToJson swaps).render

end PivotTable.Swap
