import PivotTable.Event
import PivotTable.Json.Reader
import PivotTable.Unicode.Table

/-!
# Authored fields

Parts of a configuration are written by hand, as JSON or as a text that holds JSON. A field that cannot be
read as a whole counts as blank and is reported once; an entry of a list that has no usable shape is
dropped and reported with its index. Neither ever stops the caller.
-/
namespace PivotTable

inductive Authored
  | text (s : String)
  | json (value : Json)
deriving DecidableEq

namespace Authored

def blank : Authored := .json .null

instance : Inhabited Authored := ⟨blank⟩

/-- The value that a field holds; a blank text and `null` hold none. -/
def read : Authored → Decoded (Option Json)
  | .text s =>
    if isBlankText s then .ok none
    else
      match Json.read? s with
      | some value => .ok (some value)
      | none => .error .malformed
  | .json .null => .ok none
  | .json value => .ok (some value)

def toJson : Authored → Json
  | .text s => .str s
  | .json value => value

/-- A string is a text to be read, anything else is the value itself. -/
def ofJson : Json → Authored
  | .str s => .text s
  | value => .json value

section

variable {α : Type}

/-- The decoded field, or `fallback` if it is blank or unreadable. -/
def decode (a : Authored) (field : String) (fallback : α) (decoder : Json → Decoded (Reported α)) :
    Reported α :=
  let decoded := do
    match ← a.read with
    | none => pure (pure fallback)
    | some value => decoder value
  match decoded with
  | .ok result => result
  | .error e => do
    Reported.report (.fieldUnreadable field e.message)
    pure fallback

def list (a : Authored) (field : String) : Reported (List Json) :=
  a.decode field [] fun
    | .arr items => .ok (pure items)
    | _ => .error (.custom (field ++ " must be a list"))

/-- The items that `decoder` accepts, with their positions counted from `index`. -/
def acceptItems (field : String) (decoder : Json → Except String α) (index : Nat) :
    List Json → Reported (List (Nat × α))
  | [] => pure []
  | item :: rest => do
    match decoder item with
    | .ok a =>
      let accepted ← acceptItems field decoder (index + 1) rest
      pure ((index, a) :: accepted)
    | .error reason =>
      Reported.report (.entryIgnored field index reason)
      acceptItems field decoder (index + 1) rest

def entries (a : Authored) (field : String) (decoder : Json → Except String α) :
    Reported (List (Nat × α)) := do
  acceptItems field decoder 0 (← a.list field)

end

/-- A decoder whose reasons are the messages of decoding errors. -/
def explained {α : Type} (decoder : Json → Decoded α) (value : Json) : Except String α :=
  (decoder value).mapError DecodeError.message

end Authored

end PivotTable
