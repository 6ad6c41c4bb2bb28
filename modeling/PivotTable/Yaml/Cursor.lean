/-!
# Places in a YAML text

The characters that a text may hold, those that separate its parts, and places by line and column. A text
is read after its line ends have been made alike, so a line break is a single character.
-/
namespace PivotTable.Yaml

/-- Characters that a text may hold; a single other one spoils all of it. -/
def isAdmissible (c : Char) : Bool :=
  let n := c.toNat
  "\t\n\r\u0085".toList.contains c || (0x20 ≤ n && n ≤ 0x7E) ||
    (0xA0 ≤ n && n != 0xFFFE && n != 0xFFFF)

/-- Writes a line feed for the line ends that fold; the separators of lines and paragraphs stay. -/
def unifyBreaks : List Char → List Char
  | [] => []
  | '\r' :: '\n' :: rest => '\n' :: unifyBreaks rest
  | c :: rest => (if c = '\r' ∨ c = '\u0085' then '\n' else c) :: unifyBreaks rest

def isBlank (c : Char) : Bool := c == ' ' || c == '\t'

def isBreak (c : Char) : Bool := c == '\n' || c == '\u2028' || c == '\u2029'

def isSpace (c : Char) : Bool := isBlank c || isBreak c

/-- Whether a space or the end of the text follows. -/
def atSpace (s : List Char) : Bool := s.head?.all isSpace

/-- The characters that separate nodes in brackets. -/
def isFlowIndicator (c : Char) : Bool :=
  c == ',' || c == '[' || c == ']' || c == '\x7b' || c == '\x7d'

/-- A place in a text: what follows it, its line and its column, both from zero on. -/
structure Cursor where
  rest : List Char
  line : Nat
  column : Nat

namespace Cursor

def start (text : List Char) : Cursor := ⟨text, 0, 0⟩

def next (s : Cursor) : Cursor :=
  match s.rest with
  | [] => s
  | c :: rest => if isBreak c then ⟨rest, s.line + 1, 0⟩ else ⟨rest, s.line, s.column + 1⟩

/-- The place `n` characters further on. -/
def advance (s : Cursor) : Nat → Cursor
  | 0 => s
  | n + 1 => s.next.advance n

theorem rest_next (s : Cursor) : s.next.rest = s.rest.drop 1 := by
  unfold next
  split
  · next h => rw [h, List.drop_nil]
  · next h => split <;> rw [h, List.drop_one, List.tail_cons]

/-- What follows a place further on is what follows this one, less the characters between. -/
@[simp] theorem rest_advance (s : Cursor) (n : Nat) : (s.advance n).rest = s.rest.drop n := by
  induction n generalizing s with
  | zero => rfl
  | succ n ih => rw [advance, ih, rest_next, List.drop_drop, Nat.add_comm]

/-- Whether three dashes or three points stand alone at the start of a line, which part documents. -/
def atMarker (s : Cursor) : Bool :=
  let word := s.rest.take 3
  s.column == 0 && (word == "---".toList || word == "...".toList) && atSpace (s.rest.drop 3)

end Cursor

end PivotTable.Yaml
