import PivotTable.Decode.Source

/-!
# Decoding records

A record is decoded field by field from the members of a map, in the order in which they are written, or
from a list that gives its fields in the order in which they are declared. Unknown members are passed
over; a field given twice, also under two of its names, is refused.
-/
namespace PivotTable

/-- A field of a record under construction: its names, whether it may be left out, and how its value is
stored. A map and a list may differ in what they let out. -/
structure Field (V σ : Type) where
  name : String
  aliases : List String
  requiredInMap : Bool
  requiredInList : Bool
  store : V → σ → Decoded σ

namespace Field

variable {V σ α : Type}

def answersTo (key : String) (f : Field V σ) : Bool := key == f.name || f.aliases.contains key

/-- The field that a key tells among those of a record, which are given in the order of declaration. -/
def ofKey? (fields : List (Field V σ)) : MemberKey → Option (Field V σ)
  | .name key => fields.find? (answersTo key)
  | .position n => fields[n]?
  | .unusable => none

def storing (decode : V → Decoded α) (put : α → σ → σ) (value : V) (record : σ) : Decoded σ :=
  (decode value).map fun a => put a record

def required (name : String) (decode : V → Decoded α) (put : α → σ → σ) : Field V σ :=
  ⟨name, [], true, true, storing decode put⟩

/-- A field that keeps the value of the initial record when left out. -/
def defaulted (name : String) (aliases : List String) (decode : V → Decoded α) (put : α → σ → σ) :
    Field V σ :=
  ⟨name, aliases, false, false, storing decode put⟩

/-- A field that a map may leave out, but not a list. -/
def optional (name : String) (decode : V → Decoded α) (put : α → σ → σ) : Field V σ :=
  ⟨name, [], false, true, storing decode put⟩

end Field

namespace Record

variable {V σ : Type} [Source V]

def ofMembers (fields : List (Field V σ)) (seen : List String) (record : σ) :
    List (MemberKey × V) → Decoded σ
  -- `seen` names the fields that were given before
  | [] =>
    match fields.find? fun f => f.requiredInMap && !seen.contains f.name with
    | some f => .error (.missingField f.name)
    | none => .ok record
  | (.unusable, _) :: _ => .error .malformed
  | (key, value) :: rest =>
    match Field.ofKey? fields key with
    | none => do
      Source.skip value
      ofMembers fields seen record rest
    | some f =>
      if seen.contains f.name then .error (.duplicateField f.name)
      else do
        let record ← f.store value record
        ofMembers fields (f.name :: seen) record rest

/-- "1 element", "2 elements". -/
def elements (n : Nat) : String :=
  toString n ++ if n = 1 then " element" else " elements"

def ofItems (shape : String) (total : Nat) (position : Nat) (record : σ) :
    List (Field V σ) → List V → Decoded σ
  -- of `total` items, `position` were taken before
  | [], [] => .ok record
  | [], _ :: _ => .error (.surplus total)
  | f :: fields, [] =>
    if f.requiredInList then .error (.invalidLength position shape)
    else ofItems shape total (position + 1) record fields []
  | f :: fields, value :: rest => do
    let record ← f.store value record
    ofItems shape total (position + 1) record fields rest

def decode (name : String) (fields : List (Field V σ)) (initial : σ) (value : V) : Decoded σ :=
  match Source.members? value with
  | some members => ofMembers fields [] initial members
  | none =>
    match if Source.positional V then Source.items? value else none with
    | some items =>
      ofItems ("struct " ++ name ++ " with " ++ elements fields.length) items.length 0 initial
        fields items
    | none => do throw (.invalidType (← Source.described value) ("struct " ++ name))

end Record

end PivotTable
