import PivotTable.Decimal.Numeral
import PivotTable.Decode.Source

/-!
# YAML nodes

A node of a YAML text, and what it offers to decoders. A plain scalar is a number, a truth value or nothing
where any value is wanted, but its text where a text is wanted; a scalar in quotes is always a text. Nothing
at all stands for an empty list or map. A decoder enters lists and maps only up to a limit of depth.
-/
namespace PivotTable

inductive Yaml
  | plain (text : String)
  | quoted (text : String)
  | seq (items : List Yaml)
  | map (members : List (Yaml × Yaml))

namespace Yaml

def nulls : List String := ["", "~", "null", "Null", "NULL"]
def trues : List String := ["true", "True", "TRUE"]
def falses : List String := ["false", "False", "FALSE"]

/-- What stands where a node is left out. -/
def nothing : Yaml := .plain ""

def plainBool? (s : String) : Option Bool :=
  if trues.contains s then some true else if falses.contains s then some false else none

/-- The digits of a numeral that is written in another base, by the letter that names the base. -/
def bases : List (Char × Nat) := [('x', 16), ('o', 8), ('b', 2)]

def digitValue? (base : Nat) (c : Char) : Option Nat :=
  let value :=
    if c.isDigit then some (c.toNat - '0'.toNat)
    else if 'a' ≤ c ∧ c ≤ 'f' then some (c.toNat - 'a'.toNat + 10)
    else if 'A' ≤ c ∧ c ≤ 'F' then some (c.toNat - 'A'.toNat + 10)
    else none
  value.filter (· < base)

/-- The number that at least one digit writes. -/
def digits? (base : Nat) (s : List Char) : Option Nat :=
  if s.isEmpty then none else s.foldlM (fun n c => (digitValue? base c).map (n * base + ·)) 0

/-- A natural number, in decimal without superfluous zeros or in a base that is named. -/
def natural? : List Char → Option Nat
  | '0' :: c :: rest => do digits? (← bases.lookup c) rest
  | s => digits? 10 s

/-- An integer, of which both signs may be written. -/
def integer? : List Char → Option Int
  | '-' :: rest => (natural? rest).map fun n => -(n : Int)
  | '+' :: rest => (natural? rest).map fun n => (n : Int)
  | s => (natural? s).map fun n => (n : Int)

/-- Whether a scalar is a row of digits that starts with a zero, which is a text and no number. -/
def hasLeadingZero (s : List Char) : Bool :=
  let digits := if s.head? = some '-' ∨ s.head? = some '+' then s.drop 1 else s
  decide (1 < digits.length) && digits.head? == some '0' && digits.all Char.isDigit

/-- An integer that two words but not one hold is no value. -/
def ofInteger? (i : Int) : Option Document :=
  if h : -9223372036854775808 ≤ i ∧ i ≤ 18446744073709551615 then some (.num (.integer i h))
  else if -(Nat.pow 2 127 : Int) ≤ i ∧ i < (Nat.pow 2 128 : Int) then some .flawed
  else none

def number? (s : List Char) : Option Document :=
  if hasLeadingZero s then none
  else ((integer? s).bind ofInteger?).or ((Decimal.read? s).map fun x => .num (.real x))

/-- What a plain scalar denotes where any value will do. -/
def ofPlain (s : String) : Document :=
  if nulls.contains s then .null
  else
    match plainBool? s with
    | some b => .bool b
    | none => (number? s.toList).getD (.str s)

def scalar? : Yaml → Option String
  | .plain s => some s
  | .quoted s => some s
  | _ => none

/-- What a key stands for where any value will do. A number with a minus sign tells no position. -/
def memberKey : Yaml → MemberKey
  | .quoted s => .name s
  | .plain s =>
    match ofPlain s with
    | .str s => .name s
    | .num (.integer i _) => if s.toList.head? = some '-' then .unusable else .position i.toNat
    | _ => .unusable
  | _ => .unusable

mutual

def toDocument : Yaml → Document
  | .plain s => ofPlain s
  | .quoted s => .str s
  | .seq items => .list (itemsToDocument items)
  | .map members => .map (membersToDocument members)

def itemsToDocument : List Yaml → List Document
  | [] => []
  | y :: rest => toDocument y :: itemsToDocument rest

def membersToDocument : List (Yaml × Yaml) → List (MemberKey × Document)
  | [] => []
  | (key, y) :: rest => (memberKey key, toDocument y) :: membersToDocument rest

end

mutual

/-- How many lists and maps are entered on the way to the innermost node. -/
def depth : Yaml → Nat
  | .plain _ | .quoted _ => 0
  | .seq items => itemsDepth items + 1
  | .map members => membersDepth members + 1

def itemsDepth : List Yaml → Nat
  | [] => 0
  | y :: rest => max (depth y) (itemsDepth rest)

def membersDepth : List (Yaml × Yaml) → Nat
  | [] => 0
  | (key, y) :: rest => max (max (depth key) (depth y)) (membersDepth rest)

end

mutual

/-- Whether every scalar denotes a value, keys included. -/
def isProper : Yaml → Bool
  | .plain s =>
    match ofPlain s with
    | .flawed => false
    | _ => true
  | .quoted _ => true
  | .seq items => areProper items
  | .map members => membersProper members

def areProper : List Yaml → Bool
  | [] => true
  | y :: rest => isProper y && areProper rest

def membersProper : List (Yaml × Yaml) → Bool
  | [] => true
  | (key, y) :: rest => isProper key && isProper y && membersProper rest

end

/-- A node for a decoder that may still enter `room` lists and maps, each inside the one before. -/
structure Bounded where
  node : Yaml
  room : Nat

/-- How many lists and maps a decoder enters, each inside the one before. -/
def depthLimit : Nat := 128

def bounded (y : Yaml) : Bounded := ⟨y, depthLimit⟩

namespace Bounded

def items? (y : Bounded) : Option (List Bounded) :=
  match y.node, y.room with
  | .seq items, room + 1 => some (items.map (⟨·, room⟩))
  | .plain "", _ => some []
  | _, _ => none

def members? (y : Bounded) : Option (List (MemberKey × Bounded)) :=
  match y.node, y.room with
  | .map members, room + 1 =>
    some (members.map fun (key, y) => (.ofText? key.scalar?, ⟨y, room⟩))
  | .plain "", _ => some []
  | _, _ => none

/-- The whole, which must lie within the room that is left. -/
def content (y : Bounded) : Decoded Document :=
  if y.node.depth ≤ y.room ∧ y.node.isProper then .ok y.node.toDocument else .error .malformed

instance : Source Bounded where
  described _ := .error .malformed
  bool? y :=
    match y.node with
    | .plain s => plainBool? s
    | _ => none
  text? y := y.node.scalar?
  items? := items?
  members? := members?
  content := content
  json y := y.content.bind Source.json
  skip _ := .ok ()
  positional := false

end Bounded

end Yaml

end PivotTable
