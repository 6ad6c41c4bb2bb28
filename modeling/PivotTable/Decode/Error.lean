import PivotTable.Json.Writer
import PivotTable.Unicode.Visible

/-!
# Decoding errors

Why a value is refused where a typed one is wanted, and the wording of each cause. A message shows a text in
double quotes, with short escapes for quotes, backslashes and common controls, and code points in braces for
other invisible characters.
-/
namespace PivotTable

namespace Text

def quotedChar (c : Char) : List Char :=
  if c = '"' then ['\\', '"']
  else if c = '\\' then ['\\', '\\']
  else if c = '\n' then ['\\', 'n']
  else if c = '\r' then ['\\', 'r']
  else if c = '\t' then ['\\', 't']
  else if c = '\x00' then ['\\', '0']
  else if Unicode.isVisible c then [c]
  else ['\\', 'u', '\x7b'] ++ Nat.toDigits 16 c.toNat ++ ['\x7d']

def quoted (s : String) : String :=
  String.ofList ('"' :: s.toList.flatMap quotedChar ++ ['"'])

end Text

/-- `malformed` is a fault of form in a text, `surplus` a list with more elements than a record has
fields; `custom` carries a reason of the decoder's own. -/
inductive DecodeError
  | malformed
  | invalidType (found expected : String)
  | invalidValue (found expected : String)
  | missingField (name : String)
  | duplicateField (name : String)
  | unknownVariant (name : String) (known : List String)
  | noVariant (type : String)
  | invalidLength (length : Nat) (expected : String)
  | surplus (length : Nat)
  | custom (reason : String)
deriving DecidableEq, Repr

abbrev Decoded (α : Type) := Except DecodeError α

def inTicks (s : String) : String := "`" ++ s ++ "`"

namespace DecodeError

/-- Stands for the wording of all faults of form, which the reader gives with the place of each. -/
def syntaxFault : String := "<syntax>"

def message : DecodeError → String
  | .malformed => syntaxFault
  | .invalidType found expected => "invalid type: " ++ found ++ ", expected " ++ expected
  | .invalidValue found expected => "invalid value: " ++ found ++ ", expected " ++ expected
  | .missingField name => "missing field " ++ inTicks name
  | .duplicateField name => "duplicate field " ++ inTicks name
  | .unknownVariant name known =>
    "unknown variant " ++ inTicks name ++ ", expected one of " ++
      String.intercalate ", " (known.map inTicks)
  | .noVariant type => "data did not match any variant of untagged enum " ++ type
  | .invalidLength length expected =>
    "invalid length " ++ toString length ++ ", expected " ++ expected
  | .surplus length =>
    "invalid length " ++ toString length ++ ", expected fewer elements in array"
  | .custom reason => reason

/-- In a text, elements after the last field are a fault of form. -/
def inText : DecodeError → DecodeError
  | .surplus _ => .malformed
  | e => e

end DecodeError

def Json.described : Json → String
  | .null => "null"
  | .bool b => "boolean " ++ inTicks (if b then "true" else "false")
  | .num (.integer i _) => "integer " ++ inTicks (String.ofList (Json.intChars i))
  | .num (.real x) => "floating point " ++ inTicks x.numeral
  | .str s => "string " ++ Text.quoted s
  | .arr _ => "sequence"
  | .obj _ => "map"

end PivotTable
