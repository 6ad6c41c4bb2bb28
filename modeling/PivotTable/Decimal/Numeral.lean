import PivotTable.Decimal.Shortest

/-!
# Numerals of doubles

A double is written with the fewest digits that read back. Numbers whose first digit stands for
`10 ^ k` with `-5 ≤ k ≤ 15` are positional and always have a fraction; all others have one digit before
the point, no empty fraction, and an exponent with its sign. More is accepted in text cells: an optional sign,
digits with an optional point at any place among them, and an optional exponent; what is read is the double
nearest to the decimal.
-/
namespace PivotTable

namespace Binary64

/-- The digits `ds`, the first of which stands for `10 ^ k`, in positional notation. -/
def positional (ds : List Char) (k : Int) : List Char :=
  if k < 0 then '0' :: '.' :: (List.replicate (-k - 1).toNat '0' ++ ds)
  else
    let whole := ds.take (k.toNat + 1)
    let fraction := ds.drop (k.toNat + 1)
    whole ++ List.replicate (k.toNat + 1 - whole.length) '0' ++
      '.' :: if fraction.isEmpty then ['0'] else fraction

/-- The digits `ds`, the first of which stands for `10 ^ k`, with an exponent. -/
def scientific (ds : List Char) (k : Int) : List Char :=
  ds.take 1 ++ (if ds.length ≤ 1 then [] else '.' :: ds.drop 1) ++
    'e' :: (if k < 0 then '-' else '+') :: Nat.toDigits 10 k.natAbs

def numeralChars (x : Binary64) : List Char :=
  let d := x.shortest
  let written := Nat.toDigits 10 d.digits
  let k := d.exponent + written.length - 1
  let ds := (written.reverse.dropWhile (· == '0')).reverse
  (if x.negative then ['-'] else []) ++
    if -5 ≤ k ∧ k ≤ 15 then positional ds k else scientific ds k

def numeral (x : Binary64) : String := String.ofList x.numeralChars

end Binary64

def Decimal.round? (negative : Bool) (d : Decimal) : Option Binary64 :=
  -- decimals beyond all doubles, or closer to zero than any, are settled by their digit count, so that no
  -- power of ten gets out of hand
  let size := d.exponent + (Nat.toDigits 10 d.digits).length
  if d.digits = 0 ∨ size < -330 then some (.zero negative)
  else if 310 < size then none
  else if d.exponent < 0 then Binary64.ofRatio? negative d.digits (Nat.pow 10 (-d.exponent).toNat)
  else Binary64.ofRatio? negative (d.digits * Nat.pow 10 d.exponent.toNat) 1

namespace Decimal

def takeSign : List Char → Bool × List Char
  | '-' :: rest => (true, rest)
  | '+' :: rest => (false, rest)
  | s => (false, s)

/-- An exponent that makes up the whole text; none at all counts as zero. -/
def exponentPart? : List Char → Option Int
  | [] => some 0
  | c :: rest =>
    let (negative, digits) := takeSign rest
    if (c = 'e' ∨ c = 'E') ∧ digits ≠ [] ∧ digits.all Char.isDigit then
      let n : Int := Nat.ofDigitChars 10 digits 0
      some (if negative then -n else n)
    else none

/-- Digits around an optional point, and the text after them. -/
def takeMantissa (s : List Char) : List Char × List Char × List Char :=
  let whole := s.takeWhile Char.isDigit
  match s.dropWhile Char.isDigit with
  | '.' :: rest => (whole, rest.takeWhile Char.isDigit, rest.dropWhile Char.isDigit)
  | rest => (whole, [], rest)

def read? (s : List Char) : Option Binary64 :=
  let (negative, s) := takeSign s
  let (whole, fraction, rest) := takeMantissa s
  if whole = [] ∧ fraction = [] then none
  else do
    let exponent ← exponentPart? rest
    round? negative ⟨Nat.ofDigitChars 10 (whole ++ fraction) 0, exponent - fraction.length⟩

end Decimal

end PivotTable
