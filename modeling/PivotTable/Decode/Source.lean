import PivotTable.Decode.Error
import PivotTable.Json.Document

/-!
# Sources of decoding

What typed values are decoded from: JSON values, JSON texts as written, and other notations that offer the
same views. A decoder of a record or of a list looks at members and items one after the other, so the
first fault in the order of writing is the one reported.
-/
namespace PivotTable

class Source (V : Type) where
  described : V → Decoded String
  bool? : V → Option Bool
  text? : V → Option String
  items? : V → Option (List V)
  members? : V → Option (List (MemberKey × V))
  /-- The whole as it is written, which must denote a value. -/
  content : V → Decoded Document
  json : V → Decoded Json
  /-- Passes over the value; only a fault of form stops it. -/
  skip : V → Decoded Unit
  /-- Whether a record may be given as the list of its fields. -/
  positional : Bool

namespace Source

variable {V : Type} [Source V]

/-- The view of a value that is wanted, or the error that it is something else. -/
def expect {α : Type} (expected : String) (view : V → Option α) (value : V) : Decoded α :=
  match view value with
  | some a => .ok a
  | none => do throw (.invalidType (← described value) expected)

def bool (value : V) : Decoded Bool := expect "a boolean" bool? value
def text (value : V) : Decoded String := expect "a string" text? value
def items (value : V) : Decoded (List V) := expect "a sequence" items? value

def list {α : Type} (decode : V → Decoded α) (value : V) : Decoded (List α) := do
  (← items value).mapM decode

end Source

namespace Document

/-- A document with a fault of form is described by it. -/
def described : Document → Decoded String
  | .null => .ok Json.null.described
  | .bool b => .ok (Json.bool b).described
  | .num n => .ok (Json.num n).described
  | .str s => .ok (Json.str s).described
  | .list _ => .ok (Json.arr []).described
  | .map _ => .ok (Json.obj []).described
  | .flawed => .error .malformed
  | .broken => .error .malformed

def items? : Document → Option (List Document)
  | .list items => some items
  | _ => none

def members? : Document → Option (List (MemberKey × Document))
  | .map members => some members
  | _ => none

instance : Source Document where
  described := described
  bool?
    | .bool b => some b
    | _ => none
  text?
    | .str s => some s
    | _ => none
  items? := items?
  members? := members?
  content d := if d.toJson?.isSome then .ok d else .error .malformed
  json d :=
    match d.toJson? with
    | some value => .ok value
    | none => .error .malformed
  skip d := if d.isBroken then .error .malformed else .ok ()
  positional := true

end Document

instance : Source Json where
  described value := .ok value.described
  bool?
    | .bool b => some b
    | _ => none
  text?
    | .str s => some s
    | _ => none
  items?
    | .arr items => some items
    | _ => none
  members?
    | .obj members => some (members.map fun (key, value) => (.name key, value))
    | _ => none
  content value := .ok (.ofJson value)
  json value := .ok value
  skip _ := .ok ()
  positional := true

/-- A list is decoded if each of its items is. -/
theorem mapM_encoded {α : Type} {encode : α → Json} {decoder : Json → Decoded α} {items : List α}
    (h : ∀ a ∈ items, decoder (encode a) = .ok a) : (items.map encode).mapM decoder = .ok items := by
  induction items with
  | nil => rfl
  | cons a items ih =>
    obtain ⟨ha, hitems⟩ := List.forall_mem_cons.1 h
    simp [ha, ih hitems, bind, Except.bind, pure, Except.pure]

namespace Json

/-- An integer of a 64-bit word, signed or not, below a limit of its own; `expected` names its kind. -/
def word {α : Type} (expected : String) (view : Int → Option α) (value : Json) : Decoded α :=
  match value with
  | .num (.integer i _) =>
    match view i with
    | some a => .ok a
    | none => .error (.invalidValue value.described expected)
  | _ => .error (.invalidType value.described expected)

def natural (value : Json) : Decoded Nat :=
  value.word "usize" fun i => if 0 ≤ i then some i.toNat else none

def integer (value : Json) : Decoded Int :=
  value.word "i64" fun i => if i < 9223372036854775808 then some i else none

def optional {α : Type} (decode : Json → Decoded α) : Json → Decoded (Option α)
  | .null => .ok none
  | value => (decode value).map some

end Json

end PivotTable
