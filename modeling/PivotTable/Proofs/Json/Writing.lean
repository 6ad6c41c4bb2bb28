import PivotTable.Proofs.Decimal.Numeral
import PivotTable.Proofs.Json.Reading

/-!
# Texts tell values apart

The text of a value tells the value and what follows it, if that cannot prolong a number. The first character
tells the kind of value, strings are read back up to their closing quote, numbers reach as far as their
characters do, and lists and maps go item by item. Main statement: different values have different texts.
-/
namespace PivotTable.Json

open Decimal (isNumeric isNumeric_of_isDigit)

section

variable {v w : Json} {rest tail : List Char}

theorem joinPieces?_unit {n : Nat} (h : n < 0xD800) (pieces : List Piece) :
    joinPieces? (.unit n :: pieces) = (joinPieces? pieces).map (Char.ofNat n :: ·) := by
  have hlone : ¬(0xD800 ≤ n ∧ n < 0xDC00) ∧ ¬(0xDC00 ≤ n ∧ n < 0xE000) ∧
      ¬(0xD800 ≤ n ∧ n < 0xE000) := by
    omega
  cases pieces with
  | nil => simp [joinPieces?, hlone]
  | cons piece pieces => cases piece <;> simp [joinPieces?, hlone]

theorem hexWord?_digitChar : ∀ n < 0x20,
    hexWord? '0' '0' (Nat.digitChar (n / 16)) (Nat.digitChar (n % 16)) = some n := by decide

/-- An escaped character is read as one piece, which denotes the character. -/
theorem exists_piece (c : Char) : ∃ piece,
    (∀ rest, scanPieces? (escapedChar c ++ rest) =
      (scanPieces? rest).map fun scanned => (piece :: scanned.1, scanned.2)) ∧
    ∀ pieces, joinPieces? (piece :: pieces) = (joinPieces? pieces).map (c :: ·) := by
  by_cases hshort : c ∈ ['"', '\\', '\x08', '\x0c', '\n', '\r', '\t']
  · refine ⟨.char c, fun rest => ?_, fun pieces => rfl⟩
    simp only [List.mem_cons, List.not_mem_nil, or_false] at hshort
    rcases hshort with rfl | rfl | rfl | rfl | rfl | rfl | rfl
    all_goals cases hrest : scanPieces? rest <;> simp [escapedChar, scanPieces?, shortEscape?, hrest]
  · simp only [List.mem_cons, List.not_mem_nil, or_false, not_or] at hshort
    obtain ⟨hq, hb, h8, hc, hn, hr, ht⟩ := hshort
    by_cases hcontrol : c.toNat < 0x20
    · refine ⟨.unit c.toNat, fun rest => ?_, fun pieces => ?_⟩
      · have hword := hexWord?_digitChar c.toNat hcontrol
        cases hrest : scanPieces? rest <;>
          simp [escapedChar, hq, hb, h8, hc, hn, hr, ht, hcontrol, scanPieces?, hword, hrest]
      · rw [joinPieces?_unit (by omega), Char.ofNat_toNat]
    · refine ⟨.char c, fun rest => ?_, fun pieces => rfl⟩
      cases hrest : scanPieces? rest <;>
        simp [escapedChar, hq, hb, h8, hc, hn, hr, ht, hcontrol, scanPieces?, hrest]

theorem exists_pieces (s : List Char) : ∃ pieces, joinPieces? pieces = some s ∧
    ∀ rest, scanPieces? (s.flatMap escapedChar ++ '"' :: rest) = some (pieces, rest) := by
  induction s with
  | nil => exact ⟨[], rfl, fun _ => rfl⟩
  | cons c s ih =>
    obtain ⟨piece, hscan, hjoin⟩ := exists_piece c
    obtain ⟨pieces, hjoins, hscans⟩ := ih
    refine ⟨piece :: pieces, ?_, fun rest => ?_⟩
    · rw [hjoin, hjoins]
      rfl
    · rw [List.flatMap_cons, List.append_assoc, hscan, hscans]
      rfl

/-- Strings are read back up to their closing quote. -/
theorem scanString?_escaped (s : String) (rest : List Char) :
    scanString? (s.toList.flatMap escapedChar ++ '"' :: rest) = some (some s, rest) := by
  obtain ⟨pieces, hjoin, hscan⟩ := exists_pieces s.toList
  simp [scanString?, hscan, hjoin]

theorem stringChars_append_inj {s t : String}
    (h : stringChars s ++ rest = stringChars t ++ tail) : s = t ∧ rest = tail := by
  have hs := scanString?_escaped s rest
  have ht := scanString?_escaped t tail
  have hescaped : s.toList.flatMap escapedChar ++ '"' :: rest =
      t.toList.flatMap escapedChar ++ '"' :: tail := by
    simpa [stringChars] using h
  rw [hescaped, ht] at hs
  simpa [eq_comm] using hs

theorem sign_or_digit_of_mem_intChars {i : Int} {c : Char} (h : c ∈ intChars i) :
    c = '-' ∨ c.isDigit = true := by
  unfold intChars at h
  split at h
  · exact (List.mem_cons.1 h).imp id isDigit_of_mem_toDigits
  · exact .inr (isDigit_of_mem_toDigits h)

theorem isNumeric_of_mem_numberChars {n : Number} {c : Char} (h : c ∈ numberChars n) :
    isNumeric c = true := by
  cases n with
  | integer i hi =>
    rcases sign_or_digit_of_mem_intChars h with rfl | hdigit
    · rfl
    · exact isNumeric_of_isDigit hdigit
  | real x => exact Binary64.isNumeric_of_mem_numeralChars h

theorem numberChars_ne_nil (n : Number) : numberChars n ≠ [] := by
  cases n with
  | integer i hi =>
    rw [numberChars, intChars]
    split
    · exact List.cons_ne_nil _ _
    · exact Nat.toDigits_ne_nil
  | real x =>
    rcases x.point_or_exponent_mem_numeralChars with hmem | hmem <;> exact List.ne_nil_of_mem hmem

theorem intChars_ne_numeralChars (i : Int) (x : Binary64) : intChars i ≠ x.numeralChars := by
  intro h
  rcases x.point_or_exponent_mem_numeralChars with hmem | hmem
  all_goals
    rw [← h] at hmem
    exact absurd (sign_or_digit_of_mem_intChars hmem) (by decide)

/-- An integer is read back from its text, and no double has a text without a point or an exponent. -/
theorem numberChars_injective {m n : Number} (h : numberChars m = numberChars n) : m = n := by
  cases m with
  | integer i hi =>
    cases n with
    | integer j hj =>
      have hends : EndsNumber [] := by rintro c ⟨⟩
      have hscan := scanNumeral?_intChars hends i
      rw [show intChars i = intChars j from h, scanNumeral?_intChars hends j] at hscan
      have hnumeral := (Prod.mk.inj (Option.some.inj hscan)).1
      have hvalue := value?_integer hi
      rw [← hnumeral, value?_integer hj] at hvalue
      exact (Option.some.inj hvalue).symm
    | real y => exact absurd h (intChars_ne_numeralChars i y)
  | real x =>
    cases n with
    | integer j hj => exact absurd h.symm (intChars_ne_numeralChars j x)
    | real y => rw [Binary64.numeralChars_injective h]

/-- A text that begins with no character of numbers. -/
def Closes (rest : List Char) : Prop := ∀ c ∈ rest.head?, isNumeric c = false

theorem closes_cons {c : Char} (h : isNumeric c = false) : Closes (c :: rest) := by
  rintro d ⟨⟩
  exact h

theorem numberChars_append_inj {m n : Number} (hrest : Closes rest) (htail : Closes tail)
    (h : numberChars m ++ rest = numberChars n ++ tail) : m = n ∧ rest = tail := by
  obtain ⟨hm, hmrest⟩ := takeWhile_append_of_head (fun _ => isNumeric_of_mem_numberChars (n := m)) hrest
  obtain ⟨hn, hnrest⟩ := takeWhile_append_of_head (fun _ => isNumeric_of_mem_numberChars (n := n)) htail
  rw [h, hn] at hm
  rw [h, hnrest] at hmrest
  exact ⟨numberChars_injective hm.symm, hmrest.symm⟩

/-- The first character of a value; a zero stands for all characters that numbers begin with. -/
def opening : Json → Char
  | .null => 'n'
  | .bool true => 't'
  | .bool false => 'f'
  | .num _ => '0'
  | .str _ => '"'
  | .arr _ => '['
  | .obj _ => '\x7b'

theorem exists_chars_eq_cons (v : Json) :
    ∃ c cs, v.chars = c :: cs ∧ (if isNumeric c then '0' else c) = v.opening := by
  cases v with
  | null => exact ⟨_, _, by rw [chars], rfl⟩
  | bool b => cases b <;> exact ⟨_, _, by rw [chars], rfl⟩
  | num n =>
    obtain ⟨c, cs, hcs⟩ := List.exists_cons_of_ne_nil (numberChars_ne_nil n)
    have hc : isNumeric c = true := isNumeric_of_mem_numberChars (hcs ▸ List.mem_cons_self)
    exact ⟨c, cs, by rw [chars, hcs], by rw [if_pos hc]; rfl⟩
  | str s => exact ⟨_, _, by rw [chars, stringChars, List.cons_append], rfl⟩
  | arr items => exact ⟨_, _, by rw [chars, List.cons_append], rfl⟩
  | obj members => exact ⟨_, _, by rw [chars, List.cons_append], rfl⟩

theorem opening_eq (h : v.chars ++ rest = w.chars ++ tail) : v.opening = w.opening := by
  obtain ⟨c, cs, hc, hv⟩ := v.exists_chars_eq_cons
  obtain ⟨d, ds, hd, hw⟩ := w.exists_chars_eq_cons
  rw [hc, hd] at h
  rw [← hv, ← hw, (List.cons.inj h).1]

/-- No value begins like the end of a list. -/
theorem chars_append_ne (v : Json) : v.chars ++ rest ≠ ']' :: tail := by
  obtain ⟨c, cs, hc, hv⟩ := v.exists_chars_eq_cons
  rw [hc]
  intro h
  have hbracket : (if isNumeric ']' then '0' else ']') = ']' := rfl
  rw [(List.cons.inj h).1, hbracket] at hv
  rcases v with _ | (_ | _) | _ | _ | _ | _ <;> cases hv

/-- Two values of one kind; the words for truth values are told apart by their first characters. -/
inductive SameKind : Json → Json → Prop
  | null : SameKind .null .null
  | bool (b : Bool) : SameKind (.bool b) (.bool b)
  | num (m n : Number) : SameKind (.num m) (.num n)
  | str (s t : String) : SameKind (.str s) (.str t)
  | arr (items others : List Json) : SameKind (.arr items) (.arr others)
  | obj (members others : List (String × Json)) : SameKind (.obj members) (.obj others)

theorem sameKind (h : v.chars ++ rest = w.chars ++ tail) : SameKind v w := by
  have hopening := opening_eq h
  rcases v with _ | (_ | _) | m | s | items | members <;>
    rcases w with _ | (_ | _) | n | t | others | others <;>
    first
    | constructor
    | cases hopening

def afterItem : List Json → List Char
  | [] => []
  | items => ',' :: itemChars items

def afterMember : List (String × Json) → List Char
  | [] => []
  | members => ',' :: memberChars members

theorem itemChars_cons (v : Json) (items : List Json) :
    itemChars (v :: items) = v.chars ++ afterItem items := by
  cases items <;> simp [itemChars, afterItem]

theorem memberChars_cons (key : String) (v : Json) (members : List (String × Json)) :
    memberChars ((key, v) :: members) = stringChars key ++ ':' :: v.chars ++ afterMember members := by
  cases members <;> simp [memberChars, afterMember]

theorem closes_afterItem (items : List Json) (rest : List Char) :
    Closes (afterItem items ++ ']' :: rest) := by
  cases items <;> exact closes_cons rfl

theorem closes_afterMember (members : List (String × Json)) (rest : List Char) :
    Closes (afterMember members ++ '\x7d' :: rest) := by
  cases members <;> exact closes_cons rfl

end

mutual

/-- A text tells the value at its beginning and what follows the value. The induction is on the first of two
values; the second is of the same kind. -/
theorem chars_append_inj (v w : Json) {rest tail : List Char} (hrest : Closes rest) (htail : Closes tail)
    (h : v.chars ++ rest = w.chars ++ tail) : v = w ∧ rest = tail := by
  match v, w, sameKind h with
  | _, _, .null => exact ⟨rfl, List.append_cancel_left h⟩
  | _, _, .bool b => exact ⟨rfl, List.append_cancel_left h⟩
  | _, _, .num m n =>
    rw [chars, chars] at h
    obtain ⟨rfl, hends⟩ := numberChars_append_inj hrest htail h
    exact ⟨rfl, hends⟩
  | _, _, .str s t =>
    rw [chars, chars] at h
    obtain ⟨rfl, hends⟩ := stringChars_append_inj h
    exact ⟨rfl, hends⟩
  | _, _, .arr items others =>
    have hitems : itemChars items ++ ']' :: rest = itemChars others ++ ']' :: tail := by
      simpa [chars] using h
    obtain ⟨rfl, hends⟩ := itemChars_append_inj items others hitems
    exact ⟨rfl, hends⟩
  | _, _, .obj members others =>
    have hmembers : memberChars members ++ '\x7d' :: rest = memberChars others ++ '\x7d' :: tail := by
      simpa [chars] using h
    obtain ⟨rfl, hends⟩ := memberChars_append_inj members others hmembers
    exact ⟨rfl, hends⟩

theorem itemChars_append_inj (items others : List Json) {rest tail : List Char}
    (h : itemChars items ++ ']' :: rest = itemChars others ++ ']' :: tail) :
    items = others ∧ rest = tail := by
  match items, others with
  | [], [] => exact ⟨rfl, (List.cons.inj h).2⟩
  | [], w :: others =>
    rw [itemChars_cons, List.append_assoc] at h
    exact absurd h.symm w.chars_append_ne
  | v :: items, [] =>
    rw [itemChars_cons, List.append_assoc] at h
    exact absurd h v.chars_append_ne
  | v :: items, w :: others =>
    rw [itemChars_cons, itemChars_cons, List.append_assoc, List.append_assoc] at h
    obtain ⟨rfl, hafter⟩ := chars_append_inj v w (closes_afterItem items rest)
      (closes_afterItem others tail) h
    match items, others with
    | [], [] => exact ⟨rfl, (List.cons.inj hafter).2⟩
    | [], w :: others => cases (List.cons.inj hafter).1
    | v :: items, [] => cases (List.cons.inj hafter).1
    | v' :: items, w :: others =>
      obtain ⟨hitems, hends⟩ := itemChars_append_inj (v' :: items) (w :: others) (List.cons.inj hafter).2
      exact ⟨congrArg (v :: ·) hitems, hends⟩

theorem memberChars_append_inj (members others : List (String × Json)) {rest tail : List Char}
    (h : memberChars members ++ '\x7d' :: rest = memberChars others ++ '\x7d' :: tail) :
    members = others ∧ rest = tail := by
  match members, others with
  | [], [] => exact ⟨rfl, (List.cons.inj h).2⟩
  | [], (key, w) :: others =>
    rw [memberChars_cons, stringChars] at h
    cases (List.cons.inj h).1
  | (key, v) :: members, [] =>
    rw [memberChars_cons, stringChars] at h
    cases (List.cons.inj h).1
  | (key, v) :: members, (name, w) :: others =>
    have hmember : stringChars key ++ ':' :: (v.chars ++ (afterMember members ++ '\x7d' :: rest)) =
        stringChars name ++ ':' :: (w.chars ++ (afterMember others ++ '\x7d' :: tail)) := by
      simpa [memberChars_cons] using h
    obtain ⟨rfl, hvalue⟩ := stringChars_append_inj hmember
    obtain ⟨rfl, hafter⟩ := chars_append_inj v w (closes_afterMember members rest)
      (closes_afterMember others tail) (List.cons.inj hvalue).2
    match members, others with
    | [], [] => exact ⟨rfl, (List.cons.inj hafter).2⟩
    | [], w :: others => cases (List.cons.inj hafter).1
    | v :: members, [] => cases (List.cons.inj hafter).1
    | member :: members, other :: others =>
      obtain ⟨hmembers, hends⟩ :=
        memberChars_append_inj (member :: members) (other :: others) (List.cons.inj hafter).2
      exact ⟨congrArg ((key, v) :: ·) hmembers, hends⟩

end

/-- Different values have different texts. -/
theorem render_injective {v w : Json} (h : v.render = w.render) : v = w := by
  have hchars : v.chars ++ [] = w.chars ++ [] := by
    rw [List.append_nil, List.append_nil]
    exact String.ofList_injective h
  have hend : Closes [] := by rintro c ⟨⟩
  exact (chars_append_inj v w hend hend hchars).1

end PivotTable.Json
