/-!
# Media types

Which content types announce JSON: the subtype `json` of `application`, or one with the suffix `+json`,
with any well-formed parameters. Letter case does not matter.
-/
namespace PivotTable.MediaType

def isToken (c : Char) : Bool :=
  c.isAlphanum || "!#$%&'*+-.^_`|~".toList.contains c

def isQuotable (c : Char) : Bool := 31 < c.toNat && c.toNat < 127

/-- How far a list of parameters has been read. -/
inductive Place
  /-- Behind a semicolon and spaces that follow it. -/
  | between
  | name
  /-- Behind an equals sign. -/
  | assigned
  | value
  /-- Behind an opening quote. -/
  | opened
  | quoted
  /-- Behind a closing quote. -/
  | closed
deriving DecidableEq

namespace Place

/-- A value in quotes has at least one character, and its first one may be a quote. -/
def next? : Place → Char → Option Place
  | between, c => if c = ' ' then some between else if isToken c then some name else none
  | name, c => if c = '=' then some assigned else if isToken c then some name else none
  | assigned, c => if c = '"' then some opened else if isToken c then some value else none
  | value, c => if c = ';' then some between else if isToken c then some value else none
  | opened, c => if isQuotable c then some quoted else none
  | quoted, c => if c = '"' then some closed else if isQuotable c then some quoted else none
  | closed, c => if c = ';' then some between else if c = ' ' then some closed else none

def isEnd : Place → Bool
  | between | assigned | value | closed => true
  | name | opened | quoted => false

end Place

/-- Whether a text is a list of parameters, as it stands behind the first semicolon. -/
def wellFormedParameters (s : List Char) : Bool :=
  (s.foldlM Place.next? .between).any Place.isEnd

/-- A subtype without its suffix, and the suffix behind the last plus. -/
def splitSuffix (subtype : List Char) : List Char × Option (List Char) :=
  let suffix := (subtype.reverse.takeWhile (· ≠ '+')).reverse
  let base := subtype.take (subtype.length - suffix.length - 1)
  if suffix.length < subtype.length ∧ !base.isEmpty then (base, some suffix) else (subtype, none)

def isJson (s : String) : Bool :=
  let s := s.toList.map Char.toLower
  let type := s.takeWhile isToken
  match s.dropWhile isToken with
  | '/' :: rest =>
    let (base, suffix) := splitSuffix (rest.takeWhile isToken)
    let wellFormed :=
      match rest.dropWhile isToken with
      | [] => true
      | ';' :: parameters => wellFormedParameters parameters
      | _ => false
    wellFormed && type == "application".toList &&
      (base == "json".toList || suffix == some "json".toList)
  | _ => false

end PivotTable.MediaType
