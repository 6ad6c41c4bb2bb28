/-!
# Sorted tables of code points

Look-up by bisection in a table sorted by a key, and sets of code points given by the points at
which membership changes: a code point is a member when an odd number of them lie at or below it. The
smallest of these sets is that of white space, which is cut off at the ends of texts.
-/
namespace PivotTable.Unicode

/-- The number of entries of a sorted table whose key is at most `c`. -/
def rank {α : Type} (table : Array α) (key : α → Nat) (c : Nat) : Nat :=
  go (table.size.log2 + 1) 0 table.size
where
  go : Nat → Nat → Nat → Nat
    | 0, low, _ => low
    | fuel + 1, low, high =>
      if h : low < high ∧ (low + high) / 2 < table.size then
        have middle_lt := h.2
        if key table[(low + high) / 2] ≤ c then go fuel ((low + high) / 2 + 1) high
        else go fuel low ((low + high) / 2)
      else low

/-- The last entry of a sorted table whose key is at most `c`. -/
def floorEntry? {α : Type} (table : Array α) (key : α → Nat) (c : Nat) : Option α :=
  match rank table key c with
  | 0 => none
  | position + 1 => table[position]?

/-- A set of code points, given by the points at which membership changes. -/
structure CodeSet where
  bounds : Array Nat

def CodeSet.contains (s : CodeSet) (c : Char) : Bool :=
  rank s.bounds id c.toNat % 2 == 1

/-- Code points with the property `White_Space`. -/
def blanks : CodeSet where
  bounds := #[
    0x9, 0xE, 0x20, 0x21, 0x85, 0x86, 0xA0, 0xA1, 0x1680, 0x1681, 0x2000, 0x200B, 0x2028, 0x202A,
    0x202F, 0x2030, 0x205F, 0x2060, 0x3000, 0x3001]

def isBlank (c : Char) : Bool := blanks.contains c

end PivotTable.Unicode

namespace PivotTable

/-- The characters of a text between the blanks at its two ends. -/
def trimmed (s : String) : List Char :=
  ((s.toList.dropWhile Unicode.isBlank).reverse.dropWhile Unicode.isBlank).reverse

def isBlankText (s : String) : Bool := s.toList.all Unicode.isBlank

end PivotTable
