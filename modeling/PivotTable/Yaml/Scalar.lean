import PivotTable.Yaml.Basic
import PivotTable.Yaml.Cursor

/-!
# Scalars in a YAML text

A scalar goes on over several lines. Between its pieces lie gaps of blanks and line breaks: a gap on one line
stands for itself, any other for its line breaks, which fold. Plain scalars end where the text could mean
something else, scalars in quotes at the closing quote.
-/
namespace PivotTable.Yaml

structure Reading where
  text : List Char
  /-- Whether a line break was passed behind the last piece. -/
  broken : Bool
  /-- The place behind the scalar and the gap that follows it. -/
  after : Cursor

def Reading.behind (front : List Char) (r : Reading) : Reading := { r with text := front ++ r.text }

def Cursor.gap (s : Cursor) : List Char := s.rest.takeWhile isSpace

/-- What line breaks stand for. A line feed alone is a space, and in front of others nothing. -/
def folded : List Char → List Char
  | ['\n'] => [' ']
  | '\n' :: breaks => breaks
  | breaks => breaks

/-- What a gap stands for. -/
def gapText (gap : List Char) : List Char :=
  match gap.filter isBreak with
  | [] => gap
  | breaks => folded breaks

def tabsLeftOf (margin : Nat) : Nat → List Char → Bool
  | _, [] => false
  | column, c :: rest =>
    if isBreak c then tabsLeftOf margin 0 rest
    else (c == '\t' && column < margin) || tabsLeftOf margin (column + 1) rest

/-- The piece of a plain scalar up to the next space, colon or bracket that ends it. In brackets, a colon must
not touch certain marks. -/
def plainPiece? (flow : Bool) : List Char → Option (List Char)
  | [] => some []
  | c :: rest =>
    if c = ':' ∧ flow ∧ rest.head?.any fun c => c == '?' || isFlowIndicator c then none
    else if isSpace c ∨ (c = ':' ∧ atSpace rest) ∨ (flow ∧ isFlowIndicator c) then some []
    else (plainPiece? flow rest).map (c :: ·)

/-- A plain scalar from its next piece on, with the gap in front of that piece. Outside of brackets its lines
start at `margin` or to the right of it. -/
def plainFrom? (flow : Bool) (margin : Nat) : Nat → List Char → Cursor → Option Reading
  | 0, _, _ => none
  | fuel + 1, gap, s =>
    let broken := gap.any isBreak
    if s.atMarker ∨ s.rest.head? = some '#' then some ⟨[], broken, s⟩
    else do
      let piece ← plainPiece? flow s.rest
      if piece.isEmpty then some ⟨[], broken, s⟩
      else
        let text := gapText gap ++ piece
        let s := s.advance piece.length
        let gap := s.gap
        let after := s.advance gap.length
        if tabsLeftOf margin 0 (gap.dropWhile isBlank) then none
        else if gap.isEmpty ∨ (flow = false ∧ after.column < margin) then
          some ⟨text, gap.any isBreak, after⟩
        else (plainFrom? flow margin fuel gap after).map (Reading.behind text)

def plain? (flow : Bool) (margin : Nat) (s : Cursor) : Option Reading :=
  plainFrom? flow margin (s.rest.length + 1) [] s

/-- The escapes of a scalar in double quotes that stand for one fixed character. -/
def escapes : List (Char × Char) :=
  [('0', '\x00'), ('a', '\x07'), ('b', '\x08'), ('t', '\t'), ('\t', '\t'), ('n', '\n'), ('v', '\x0b'),
   ('f', '\x0c'), ('r', '\r'), ('e', '\x1b'), (' ', ' '), ('"', '"'), ('/', '/'), ('\\', '\\'),
   ('N', '\u0085'), ('_', '\u00a0'), ('L', '\u2028'), ('P', '\u2029')]

/-- The character that is written behind a backslash, and the length of what writes it. -/
def escape? : List Char → Option (Char × Nat)
  | [] => none
  | c :: rest =>
    let width := if c = 'x' then 2 else if c = 'u' then 4 else if c = 'U' then 8 else 0
    if width = 0 then (escapes.lookup c).map (·, 1)
    else if rest.length < width then none
    else do
      let n ← digits? 16 (rest.take width)
      if n.isValidChar then some (Char.ofNat n, width + 1) else none

/-- A scalar in quotes from a place inside it on. A backslash before a line break hides the break, but not
those that follow it; a quote in single quotes is written twice. -/
def quotedFrom? (quote : Char) : Nat → Cursor → Option Reading
  | 0, _ => none
  | fuel + 1, s =>
    match s.rest with
    | [] => none
    | c :: rest =>
      if s.atMarker then none
      else if c = quote then
        if quote = '\'' ∧ rest.head? = some '\'' then
          (quotedFrom? quote fuel (s.advance 2)).map (Reading.behind ['\''])
        else some ⟨[], false, s.next⟩
      else if isSpace c then
        (quotedFrom? quote fuel (s.advance s.gap.length)).map (Reading.behind (gapText s.gap))
      else if c = '\\' ∧ quote = '"' then
        if rest.head?.any isBreak then
          let s := s.advance 2
          (quotedFrom? quote fuel (s.advance s.gap.length)).map
            (Reading.behind (s.gap.filter isBreak))
        else do
          let (c, length) ← escape? rest
          (quotedFrom? quote fuel (s.advance (length + 1))).map (Reading.behind [c])
      else (quotedFrom? quote fuel s.next).map (Reading.behind [c])

def quoted? (quote : Char) (s : Cursor) : Option Reading :=
  quotedFrom? quote s.rest.length s.next

end PivotTable.Yaml
