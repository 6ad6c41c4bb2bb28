import PivotTable.Json.Document
import PivotTable.Json.Numeral

/-!
# Reading JSON texts

A reader of the whole grammar: white space is the space, the tabulator and the two line ends, controls
must be escaped in strings, and lists and maps may be nested 127 deep. Every scanner answers with the text
that is left; nothing is left where the text breaks off.
-/
namespace PivotTable.Json

def isSpace (c : Char) : Bool := c == ' ' || c == '\t' || c == '\n' || c == '\r'

def skipSpace (s : List Char) : List Char := s.dropWhile isSpace

def hexValue? (c : Char) : Option Nat :=
  if c.isDigit then some (c.toNat - '0'.toNat)
  else if 'a' ≤ c ∧ c ≤ 'f' then some (c.toNat - 'a'.toNat + 10)
  else if 'A' ≤ c ∧ c ≤ 'F' then some (c.toNat - 'A'.toNat + 10)
  else none

def hexWord? (a b c d : Char) : Option Nat := do
  some (((← hexValue? a) * 16 + (← hexValue? b)) * 256 + (← hexValue? c) * 16 + (← hexValue? d))

/-- What stands between the quotes of a string: a character, or a 16-bit unit by its number. -/
inductive Piece
  | char (c : Char)
  | unit (n : Nat)
deriving DecidableEq

/-- The character that a backslash in front of `c` stands for. -/
def shortEscape? (c : Char) : Option Char :=
  match c with
  | '"' | '\\' | '/' => some c
  | 'b' => some '\x08'
  | 'f' => some '\x0c'
  | 'n' => some '\n'
  | 'r' => some '\r'
  | 't' => some '\t'
  | _ => none

/-- The pieces up to the closing quote, and the text after it. -/
def scanPieces? : List Char → Option (List Piece × List Char)
  | '"' :: rest => some ([], rest)
  | '\\' :: 'u' :: a :: b :: c :: d :: rest => do
    let n ← hexWord? a b c d
    let (pieces, rest) ← scanPieces? rest
    some (.unit n :: pieces, rest)
  | '\\' :: c :: rest => do
    let c ← shortEscape? c
    let (pieces, rest) ← scanPieces? rest
    some (.char c :: pieces, rest)
  | c :: rest =>
    if c = '\\' ∨ c.toNat < 0x20 then none
    else do
      let (pieces, rest) ← scanPieces? rest
      some (.char c :: pieces, rest)
  | [] => none

/-- The characters that the pieces denote; a high surrogate needs a low one right after it. -/
def joinPieces? : List Piece → Option (List Char)
  | [] => some []
  | .char c :: rest => (joinPieces? rest).map (c :: ·)
  | .unit high :: .unit low :: rest =>
    if 0xD800 ≤ high ∧ high < 0xDC00 then
      if 0xDC00 ≤ low ∧ low < 0xE000 then
        (joinPieces? rest).map (Char.ofNat (0x10000 + (high - 0xD800) * 0x400 + (low - 0xDC00)) :: ·)
      else none
    else if 0xDC00 ≤ high ∧ high < 0xE000 then none
    else (joinPieces? (.unit low :: rest)).map (Char.ofNat high :: ·)
  | .unit n :: rest =>
    if 0xD800 ≤ n ∧ n < 0xE000 then none else (joinPieces? rest).map (Char.ofNat n :: ·)

/-- A string after its opening quote: the text it denotes, if any, and what follows it. -/
def scanString? (s : List Char) : Option (Option String × List Char) := do
  let (pieces, rest) ← scanPieces? s
  some ((joinPieces? pieces).map String.ofList, rest)

def scanDigits? (s : List Char) : Option (List Char × List Char) :=
  let digits := s.takeWhile Char.isDigit
  if digits = [] then none else some (digits, s.dropWhile Char.isDigit)

/-- The digits in front of the point: a zero stands alone. -/
def scanWhole? : List Char → Option (List Char × List Char)
  | '0' :: rest =>
    match rest with
    | c :: _ => if c.isDigit then none else some (['0'], rest)
    | [] => some (['0'], [])
  | s => scanDigits? s

def scanFraction? : List Char → Option (List Char × List Char)
  | '.' :: rest => scanDigits? rest
  | s => some ([], s)

def scanExponent? : List Char → Option (Option (Bool × List Char) × List Char)
  | c :: rest =>
    if c = 'e' ∨ c = 'E' then do
      let (negative, rest) := match rest with
        | '-' :: rest => (true, rest)
        | '+' :: rest => (false, rest)
        | _ => (false, rest)
      let (digits, rest) ← scanDigits? rest
      some (some (negative, digits), rest)
    else some (none, c :: rest)
  | [] => some (none, [])

def scanNumeral? (s : List Char) : Option (Numeral × List Char) := do
  let (negative, s) := match s with
    | '-' :: rest => (true, rest)
    | _ => (false, s)
  let (whole, s) ← scanWhole? s
  let (fraction, s) ← scanFraction? s
  let (exponent, s) ← scanExponent? s
  some (⟨negative, whole, fraction, exponent⟩, s)

/-- How many lists and maps may be open at once. -/
def depthLimit : Nat := 127

/-- A list or map with `depth` others around it denotes a value only up to the limit. -/
def atDepth (depth : Nat) (d : Document) : Document :=
  if depth < depthLimit then d else if d.isBroken then .broken else .flawed

mutual

/-- A value at the start of the text, white space aside, and what follows it. -/
def scanValue : Nat → Nat → List Char → Document × Option (List Char)
  | 0, _, _ => (.broken, none)
  | fuel + 1, depth, s =>
    match skipSpace s with
    | 'n' :: 'u' :: 'l' :: 'l' :: rest => (.null, some rest)
    | 't' :: 'r' :: 'u' :: 'e' :: rest => (.bool true, some rest)
    | 'f' :: 'a' :: 'l' :: 's' :: 'e' :: rest => (.bool false, some rest)
    | '"' :: rest =>
      match scanString? rest with
      | some (some text, rest) => (.str text, some rest)
      | some (none, rest) => (.flawed, some rest)
      | none => (.broken, none)
    | '[' :: rest =>
      match skipSpace rest with
      | ']' :: rest => (atDepth depth (.list []), some rest)
      | rest =>
        let (items, rest) := scanItems fuel (depth + 1) rest
        (atDepth depth (.list items), rest)
    | '\x7b' :: rest =>
      match skipSpace rest with
      | '\x7d' :: rest => (atDepth depth (.map []), some rest)
      | rest =>
        let (members, rest) := scanMembers fuel (depth + 1) rest
        (atDepth depth (.map members), rest)
    | s =>
      match scanNumeral? s with
      | some (numeral, rest) =>
        match numeral.value? with
        | some n => (.num n, some rest)
        | none => (.flawed, some rest)
      | none => (.broken, none)

/-- The items of a list up to its closing bracket. -/
def scanItems : Nat → Nat → List Char → List Document × Option (List Char)
  | 0, _, _ => ([.broken], none)
  | fuel + 1, depth, s =>
    match scanValue fuel depth s with
    | (item, none) => ([item], none)
    | (item, some rest) =>
      match skipSpace rest with
      | ']' :: rest => ([item], some rest)
      | ',' :: rest =>
        let (items, rest) := scanItems fuel depth rest
        (item :: items, rest)
      | _ => ([item, .broken], none)

/-- The members of a map up to its closing brace. -/
def scanMembers : Nat → Nat → List Char → List (MemberKey × Document) × Option (List Char)
  | 0, _, _ => ([(.unusable, .broken)], none)
  | fuel + 1, depth, s =>
    match skipSpace s with
    | '"' :: rest =>
      match scanString? rest with
      | none => ([(.unusable, .broken)], none)
      | some (text, rest) =>
        let key := MemberKey.ofText? text
        match skipSpace rest with
        | ':' :: rest =>
          match scanValue fuel depth rest with
          | (value, none) => ([(key, value)], none)
          | (value, some rest) =>
            match skipSpace rest with
            | '\x7d' :: rest => ([(key, value)], some rest)
            | ',' :: rest =>
              let (members, rest) := scanMembers fuel depth rest
              ((key, value) :: members, rest)
            | _ => ([(key, value), (.unusable, .broken)], none)
        | _ => ([(key, .broken)], none)
    | _ => ([(.unusable, .broken)], none)

end

/-- The document at the start of a text, and whether nothing but white space follows it. -/
structure Reading where
  document : Document
  complete : Bool

def readDocument (text : String) : Reading :=
  let s := text.toList
  match scanValue (2 * s.length + 1) 0 s with
  | (d, none) => ⟨d, false⟩
  | (d, some rest) => ⟨d, (skipSpace rest).isEmpty⟩

def read? (text : String) : Option Json :=
  let reading := readDocument text
  if reading.complete then reading.document.toJson? else none

end PivotTable.Json
