import PivotTable.Json.Basic

/-!
# JSON documents as written

A document is what a text says before anything is made of it: members stand in the order written, also
under a key that was written before, and a text that breaks off is read up to the break. A reader that
refuses the first thing it cannot use then meets faults of form and faults of content in the order in
which they stand.
-/
namespace PivotTable

/-- What a member of a map stands under. Some notations have natural numbers for keys; such a key tells a
field of a record by its position, from zero on. A key of any other kind is `unusable`. -/
inductive MemberKey
  | name (text : String)
  | position (n : Nat)
  | unusable
deriving DecidableEq

namespace MemberKey

def ofText? : Option String → MemberKey
  | some text => name text
  | none => unusable

def text? : MemberKey → Option String
  | name text => some text
  | _ => none

end MemberKey

/-- `flawed` is a value of proper form that denotes none: a number out of range, a string with a lone
surrogate, or a list or map nested too deep. `broken` stands where the form of the text ends. -/
inductive Document
  | null
  | bool (value : Bool)
  | num (value : Number)
  | str (value : String)
  | list (items : List Document)
  | map (members : List (MemberKey × Document))
  | flawed
  | broken

namespace Document

mutual

/-- Whether the text breaks off inside this value. -/
def isBroken : Document → Bool
  | .list items => anyBroken items
  | .map members => anyMemberBroken members
  | .broken => true
  | _ => false

def anyBroken : List Document → Bool
  | [] => false
  | d :: rest => isBroken d || anyBroken rest

def anyMemberBroken : List (MemberKey × Document) → Bool
  | [] => false
  | (_, d) :: rest => isBroken d || anyMemberBroken rest

end

mutual

/-- The value that a document denotes; every key must be a text, and the last member under it counts. -/
def toJson? : Document → Option Json
  | .null => some .null
  | .bool b => some (.bool b)
  | .num n => some (.num n)
  | .str s => some (.str s)
  | .list items => (itemsToJson? items).map .arr
  | .map members => (membersToJson? members).map fun members => .obj (Members.ofList members)
  | .flawed => none
  | .broken => none

def itemsToJson? : List Document → Option (List Json)
  | [] => some []
  | d :: rest => do
    let value ← toJson? d
    let values ← itemsToJson? rest
    some (value :: values)

def membersToJson? : List (MemberKey × Document) → Option Members
  | [] => some []
  | (key, d) :: rest => do
    let key ← key.text?
    let value ← toJson? d
    let members ← membersToJson? rest
    some ((key, value) :: members)

end

mutual

def ofJson : Json → Document
  | .null => .null
  | .bool b => .bool b
  | .num n => .num n
  | .str s => .str s
  | .arr items => .list (ofItems items)
  | .obj members => .map (ofMembers members)

def ofItems : List Json → List Document
  | [] => []
  | value :: rest => ofJson value :: ofItems rest

def ofMembers : List (String × Json) → List (MemberKey × Document)
  | [] => []
  | (key, value) :: rest => (.name key, ofJson value) :: ofMembers rest

end

end Document

end PivotTable
