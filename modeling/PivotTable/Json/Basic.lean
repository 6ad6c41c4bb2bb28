import PivotTable.Binary64

/-!
# JSON values

A value as the library works with it: numbers are integers of at most 64 bits or doubles, and the members
of an object stand in order, a key that is given again keeping its place and taking the later value.
-/
namespace PivotTable

/-- An integer in the range of signed and unsigned 64-bit words together, or a finite double. -/
inductive Number
  | integer (value : Int)
      (inRange : -9223372036854775808 ≤ value ∧ value ≤ 18446744073709551615)
  | real (value : Binary64)
deriving DecidableEq

inductive Json
  | null
  | bool (value : Bool)
  | num (value : Number)
  | str (value : String)
  | arr (items : List Json)
  | obj (members : List (String × Json))

abbrev Members := List (String × Json)

instance : Inhabited Json := ⟨.null⟩

namespace Json

mutual

def decEq : (a b : Json) → Decidable (a = b)
  | .null, .null => isTrue rfl
  | .bool a, .bool b => decidable_of_iff (a = b) (by simp)
  | .num a, .num b => decidable_of_iff (a = b) (by simp)
  | .str a, .str b => decidable_of_iff (a = b) (by simp)
  | .arr a, .arr b =>
    have := decEqItems a b
    decidable_of_iff (a = b) (by simp)
  | .obj a, .obj b =>
    have := decEqMembers a b
    decidable_of_iff (a = b) (by simp)
  | .null, .bool _ | .null, .num _ | .null, .str _ | .null, .arr _ | .null, .obj _
  | .bool _, .null | .bool _, .num _ | .bool _, .str _ | .bool _, .arr _ | .bool _, .obj _
  | .num _, .null | .num _, .bool _ | .num _, .str _ | .num _, .arr _ | .num _, .obj _
  | .str _, .null | .str _, .bool _ | .str _, .num _ | .str _, .arr _ | .str _, .obj _
  | .arr _, .null | .arr _, .bool _ | .arr _, .num _ | .arr _, .str _ | .arr _, .obj _
  | .obj _, .null | .obj _, .bool _ | .obj _, .num _ | .obj _, .str _ | .obj _, .arr _ =>
    isFalse nofun

def decEqItems : (a b : List Json) → Decidable (a = b)
  | [], [] => isTrue rfl
  | x :: a, y :: b =>
    have := decEq x y
    have := decEqItems a b
    decidable_of_iff (x = y ∧ a = b) (by simp)
  | [], _ :: _ | _ :: _, [] => isFalse nofun

def decEqMembers : (a b : List (String × Json)) → Decidable (a = b)
  | [], [] => isTrue rfl
  | (k, x) :: a, (l, y) :: b =>
    have := decEq x y
    have := decEqMembers a b
    decidable_of_iff ((k = l ∧ x = y) ∧ a = b) (by simp)
  | [], _ :: _ | _ :: _, [] => isFalse nofun

end

instance : DecidableEq Json := decEq

end Json

def Members.get? (members : Members) (key : String) : Option Json := members.lookup key

/-- The member gets this value where its key stands, or is added at the end. -/
def Members.put (key : String) (value : Json) : Members → Members
  | [] => [(key, value)]
  | (k, v) :: rest => if k = key then (k, value) :: rest else (k, v) :: Members.put key value rest

theorem Members.get?_put {members : Members} {key other : String} {value : Json} :
    (members.put key value).get? other = if other = key then some value else members.get? other := by
  induction members with
  | nil =>
    by_cases h : other = key
    · simp [put, get?, h]
    · simp [put, get?, h, List.lookup_cons, beq_false_of_ne h]
  | cons member rest ih =>
    obtain ⟨k, v⟩ := member
    simp only [get?] at ih ⊢
    by_cases hk : k = key
    · subst hk
      by_cases h : other = k
      · simp [put, h]
      · simp [put, h, List.lookup_cons, beq_false_of_ne h]
    · by_cases ho : other = k
      · subst ho
        simp [put, hk]
      · simp [put, hk, List.lookup_cons, beq_false_of_ne ho, ih]

/-- Members in which every key stands once: at its first place, with its last value. -/
def Members.ofList (members : List (String × Json)) : Members :=
  members.foldl (fun kept member => kept.put member.1 member.2) []

namespace Number

/-- An integer; the end of the range stands for any beyond it. -/
def ofInt (i : Int) : Number :=
  .integer (max (-9223372036854775808) (min i 18446744073709551615)) (by omega)

def ofNat (n : Nat) : Number := .ofInt n

def ofUInt64 (n : UInt64) : Number :=
  .integer n.toNat (by have := n.toNat_lt; omega)

theorem ofInt_eq_integer {i : Int}
    (h : -9223372036854775808 ≤ i ∧ i ≤ 18446744073709551615) : ofInt i = .integer i h := by
  simp only [ofInt, integer.injEq]
  omega

/-- The nearest double; every integer in range has one. -/
def toBinary64 : Number → Binary64
  | .integer i _ => (Binary64.ofRatio? (decide (i < 0)) i.natAbs 1).getD (.zero false)
  | .real x => x

def isZero : Number → Bool
  | .integer i _ => i == 0
  | .real x => x.isZero

end Number

namespace Json

def ofNat (n : Nat) : Json := .num (.ofNat n)
def ofInt (i : Int) : Json := .num (.ofInt i)
def ofStrings (texts : List String) : Json := .arr (texts.map .str)

def ofOption {α : Type} (encode : α → Json) : Option α → Json
  | none => .null
  | some a => encode a

def get? (key : String) : Json → Option Json
  | .obj members => Members.get? members key
  | _ => none

end Json

end PivotTable
