import PivotTable.Unicode.Category
import PivotTable.Unicode.Case
import PivotTable.Unicode.Decomposition

/-!
# Comparison keys

Labels are typed by hand, so "Mídia Paga", "midia-paga" and "MIDIA PAGA" have to compare equal. The
key of a text drops the marks of its canonical decomposition, then upper case, then everything that is
neither a letter nor a number. A sigma takes its final form where a word ends, and the end of a word
is looked for before the separators are dropped.
-/
namespace PivotTable.Text

/-- The canonical decomposition of a text without its marks. -/
def unmarked (s : List Char) : List Char :=
  (s.flatMap Unicode.decompose).filter fun c => !Unicode.isMark c

/-- Whether the first character that is not case-ignorable is cased. -/
def meetsCased (s : List Char) : Bool :=
  match s.dropWhile Unicode.isCaseIgnorable with
  | c :: _ => Unicode.isCased c
  | [] => false

/-- The lower-case form of `c` between the characters before it, nearest first, and those after it. -/
def lowerBetween (before : List Char) (c : Char) (after : List Char) : Char :=
  if c = 'Σ' then
    if meetsCased before && !meetsCased after then 'ς' else 'σ'
  else Unicode.lower c

/-- Lower case of a text that follows `before`, whose characters stand nearest first. -/
def lowered (before : List Char) : List Char → List Char
  | [] => []
  | c :: after => lowerBetween before c after :: lowered (c :: before) after

def isKeyChar (c : Char) : Bool := Unicode.isLetter c || Unicode.isNumber c

def keyChars (s : List Char) : List Char :=
  (lowered [] (unmarked s)).filter isKeyChar

def matchKey (s : String) : String := String.ofList (keyChars s.toList)

end PivotTable.Text
