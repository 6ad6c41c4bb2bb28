import PivotTable.Yaml.Scalar

/-!
# Tokens of a YAML text

The text as a row of tokens in which indentation has become explicit: a block of items or members has a token
at its start and one at its end. What a key is shows only at the colon behind it, so the places at which a key
may have started are kept, and the tokens that announce a key are put in there afterwards. Anchors, aliases,
tags, directives and block scalars are refused.
-/
namespace PivotTable.Yaml

inductive Token
  | documentStart
  | documentEnd
  /-- The start of a sequence by indentation. -/
  | itemBlock
  /-- The start of a map by indentation. -/
  | memberBlock
  | blockEnd
  | openBracket
  | closeBracket
  | openBrace
  | closeBrace
  | comma
  | dash
  | key
  | value
  | plain (text : String)
  | quoted (text : String)
deriving DecidableEq

/-- A place at which a key may have started: how many tokens stand before it, and where it is. A required
one must turn out to be a key. -/
structure Candidate where
  position : Nat
  line : Nat
  column : Nat
  required : Bool

/-- How far a text has been cut into tokens, and what is known of it there. -/
structure Progress where
  cursor : Cursor
  tokens : Array Token
  /-- The columns of the blocks that are open, from the innermost one outwards. -/
  blocks : List Nat
  /-- The key that may have started within the innermost brackets. -/
  candidate : Option Candidate
  /-- Those around the brackets that are open, from the innermost ones outwards. -/
  outer : List (Option Candidate)
  /-- Whether a key or an item may start here. -/
  keyAllowed : Bool

namespace Progress

def start (text : List Char) : Progress := ⟨.start text, #[], [], none, [], true⟩

/-- Whether brackets are open, so that indentation counts for nothing. -/
def flow (p : Progress) : Bool := !p.outer.isEmpty

/-- Passes over blanks, line breaks and comments from `line` and `column` on. A tab is no indentation, and a
byte order mark may start a line. The answer tells also whether a key is allowed there. -/
def skipFrom (flow : Bool) : (comment keyAllowed : Bool) → List Char → Nat → Nat → Cursor × Bool
  | _, keyAllowed, [], line, column => (⟨[], line, column⟩, keyAllowed)
  | comment, keyAllowed, c :: rest, line, column =>
    if isBreak c then skipFrom flow false (keyAllowed || !flow) rest (line + 1) 0
    else if comment ∨ c = ' ' ∨ (c = '\t' ∧ (flow ∨ keyAllowed = false)) ∨ (c = '\ufeff' ∧ column = 0) then
      skipFrom flow comment keyAllowed rest line (column + 1)
    else if c = '#' then skipFrom flow true keyAllowed rest line (column + 1)
    else (⟨c :: rest, line, column⟩, keyAllowed)

def skipSpace (p : Progress) : Progress :=
  let (cursor, keyAllowed) :=
    skipFrom p.flow false p.keyAllowed p.cursor.rest p.cursor.line p.cursor.column
  { p with cursor, keyAllowed }

/-- A key stands on one line and within 1024 characters. -/
def isStale (p : Progress) (c : Candidate) : Bool :=
  decide (c.line < p.cursor.line) || decide (c.column + 1024 < p.cursor.column)

def refreshed? (p : Progress) : Option Candidate → Option (Option Candidate)
  | none => some none
  | some c => if p.isStale c then if c.required then none else some none else some (some c)

/-- Gives up the candidates that cannot be keys any more. -/
def refresh? (p : Progress) : Option Progress := do
  let candidate ← p.refreshed? p.candidate
  let outer ← p.outer.mapM p.refreshed?
  some { p with candidate, outer }

/-- Gives up the innermost candidate. -/
def dropCandidate? (p : Progress) : Option Progress :=
  if p.candidate.any Candidate.required then none else some { p with candidate := none }

/-- Takes this place for the start of a key, if one is allowed. -/
def offer? (p : Progress) : Option Progress :=
  if p.keyAllowed then do
    let required := !p.flow && p.blocks.head? == some p.cursor.column
    let p ← p.dropCandidate?
    some { p with candidate := some ⟨p.tokens.size, p.cursor.line, p.cursor.column, required⟩ }
  else some p

/-- Opens a block in a column to the right of the innermost one, with its token at a position. -/
def openBlock (p : Progress) (column position : Nat) (token : Token) : Progress :=
  if !p.flow && p.blocks.head?.all (· < column) then
    { p with blocks := column :: p.blocks, tokens := p.tokens.insertIdxIfInBounds position token }
  else p

/-- Closes the innermost blocks of which `isClosed` holds. -/
def closeBlocks (p : Progress) (isClosed : Nat → Bool) : Progress :=
  if p.flow then p
  else
    let closed := p.blocks.takeWhile isClosed
    { p with
      blocks := p.blocks.drop closed.length
      tokens := p.tokens ++ Array.replicate closed.length Token.blockEnd }

def emit (p : Progress) (token : Token) (length : Nat) (keyAllowed : Bool) : Progress :=
  { p with tokens := p.tokens.push token, cursor := p.cursor.advance length, keyAllowed }

def scalar? (p : Progress) (make : String → Token) (read : Cursor → Option Reading) : Option Progress := do
  let p ← p.offer?
  let reading ← read p.cursor
  some { p with
    tokens := p.tokens.push (make (String.ofList reading.text))
    cursor := reading.after
    keyAllowed := reading.broken }

/-- A plain scalar goes on in lines to the right of the innermost block. -/
def plain? (p : Progress) : Option Progress :=
  p.scalar? .plain (Yaml.plain? p.flow ((p.blocks.head?.map (· + 1)).getD 0))

def marker? (p : Progress) : Option Progress := do
  let token := if p.cursor.rest.head? = some '-' then Token.documentStart else .documentEnd
  let p ← (p.closeBlocks fun _ => true).dropCandidate?
  some (p.emit token 3 false)

def open? (p : Progress) (token : Token) : Option Progress := do
  let p ← p.offer?
  some ({ p with candidate := none, outer := p.candidate :: p.outer }.emit token 1 true)

def close? (p : Progress) (token : Token) : Option Progress := do
  let p ← p.dropCandidate?
  match p.outer with
  | [] => some (p.emit token 1 false)
  | candidate :: outer => some ({ p with candidate, outer }.emit token 1 false)

def comma? (p : Progress) : Option Progress := do
  let p ← p.dropCandidate?
  some (p.emit .comma 1 true)

/-- A dash or a question mark, which opens a block where none is open in its column. -/
def indicator? (p : Progress) (block token : Token) (keyAllowed : Bool) : Option Progress :=
  if p.flow ∨ p.keyAllowed then do
    let p ← (p.openBlock p.cursor.column p.tokens.size block).dropCandidate?
    some (p.emit token 1 keyAllowed)
  else none

/-- A colon: what the candidate marks is the key, or else the key is left out. -/
def colon? (p : Progress) : Option Progress :=
  match p.candidate with
  | some c =>
    let p := { p with tokens := p.tokens.insertIdxIfInBounds c.position .key, candidate := none }
    some ((p.openBlock c.column c.position .memberBlock).emit .value 1 false)
  | none =>
    if p.flow ∨ p.keyAllowed then
      some ((p.openBlock p.cursor.column p.tokens.size .memberBlock).emit .value 1 !p.flow)
    else none

def token? (p : Progress) : Option Progress :=
  match p.cursor.rest with
  | [] => none
  | c :: rest =>
    if p.cursor.atMarker then p.marker?
    else
      match c with
      | '[' => p.open? .openBracket
      | '\x7b' => p.open? .openBrace
      | ']' => p.close? .closeBracket
      | '\x7d' => p.close? .closeBrace
      | ',' => p.comma?
      | '\'' | '"' => p.scalar? .quoted (Yaml.quoted? c)
      | '-' => if atSpace rest then p.indicator? .itemBlock .dash true else p.plain?
      | '?' => if p.flow ∨ atSpace rest then p.indicator? .memberBlock .key !p.flow else p.plain?
      | ':' => if p.flow ∨ atSpace rest then p.colon? else p.plain?
      | _ => if isSpace c ∨ "#&*!|>%@`".toList.contains c then none else p.plain?

/-- All tokens, of which each takes at least one character. -/
def finish? : Nat → Progress → Option (Array Token)
  | 0, _ => none
  | fuel + 1, p => do
    let p ← p.skipSpace.refresh?
    let p := p.closeBlocks (p.cursor.column < ·)
    if p.cursor.rest.isEmpty then
      let p ← (p.closeBlocks fun _ => true).dropCandidate?
      some p.tokens
    else finish? fuel (← p.token?)

end Progress

def Token.ofText? (text : String) : Option (List Token) :=
  let text := text.toList
  if text.all isAdmissible then
    let text := unifyBreaks text
    ((Progress.start text).finish? (text.length + 1)).map Array.toList
  else none

end PivotTable.Yaml
