import Mathlib.Data.List.Induction
import Mathlib.Data.List.Nodup
import PivotTable.Placement

/-!
# First appearances

Without its duplicates, a list holds each item where it first appeared. A set that is offered texts one
by one holds what it held and what it was offered, without duplicates. Main statement: after any run of
calls, list and table of a set tell the same, namely the first appearances of all that was offered to it,
and an insertion was answered by whether its text was new.
-/
namespace PivotTable

section

variable {α : Type} [BEq α] [LawfulBEq α]

theorem eraseDups_concat (items : List α) (a : α) :
    (items ++ [a]).eraseDups = if a ∈ items then items.eraseDups else items.eraseDups ++ [a] := by
  rw [List.eraseDups_append, List.removeAll]
  by_cases h : a ∈ items
  · simp [h]
  · simp [h, List.eraseDups_cons]

theorem nodup_eraseDups (items : List α) : items.eraseDups.Nodup := by
  induction items using List.reverseRecOn with
  | nil => exact List.nodup_nil
  | append_singleton items a ih =>
    rw [eraseDups_concat]
    split
    · exact ih
    · next hnew =>
      refine List.nodup_append.2 ⟨ih, List.nodup_singleton a, fun b hb c hc heq => hnew ?_⟩
      rw [← List.mem_singleton.1 hc, ← heq]
      exact List.mem_eraseDups.1 hb

theorem eraseDups_of_nodup {items : List α} (h : items.Nodup) : items.eraseDups = items := by
  induction items using List.reverseRecOn with
  | nil => rfl
  | append_singleton items a ih =>
    obtain ⟨hitems, -, hnew⟩ := List.nodup_append.1 h
    have ha : a ∉ items := fun hmem => hnew a hmem a (List.mem_singleton_self a) rfl
    rw [eraseDups_concat, if_neg ha, ih hitems]

/-- Duplicates may be erased at any time. -/
theorem eraseDups_eraseDups_append (front items : List α) :
    (front.eraseDups ++ items).eraseDups = (front ++ items).eraseDups := by
  induction items using List.reverseRecOn with
  | nil => rw [List.append_nil, List.append_nil, eraseDups_of_nodup (nodup_eraseDups front)]
  | append_singleton items a ih =>
    simp only [← List.append_assoc, eraseDups_concat, ih, List.mem_append, List.mem_eraseDups]

/-- Items without duplicates stand in the order of their first places. -/
theorem pairwise_idxOf_eraseDups (items : List α) :
    items.eraseDups.Pairwise fun a b => items.idxOf a < items.idxOf b := by
  induction items using List.reverseRecOn with
  | nil => exact List.Pairwise.nil
  | append_singleton items a ih =>
    have hkept {b : α} (hb : b ∈ items.eraseDups) : (items ++ [a]).idxOf b = items.idxOf b :=
      List.idxOf_append_of_mem (List.mem_eraseDups.1 hb)
    have hfront : items.eraseDups.Pairwise fun b c => (items ++ [a]).idxOf b < (items ++ [a]).idxOf c :=
      ih.imp_of_mem fun hb hc hlt => by rwa [hkept hb, hkept hc]
    rw [eraseDups_concat]
    split
    · exact hfront
    · next hnew =>
      refine List.pairwise_append.2 ⟨hfront, List.pairwise_singleton _ a, fun b hb c hc => ?_⟩
      rw [List.mem_singleton.1 hc, hkept hb, List.idxOf_append_of_notMem hnew]
      exact Nat.lt_of_lt_of_le (List.idxOf_lt_length_of_mem (List.mem_eraseDups.1 hb)) (Nat.le_add_right _ _)

end

theorem getElem?_of_idxOf? {items : List String} {a : String} {place : Nat}
    (h : items.idxOf? a = some place) : items[place]? = some a := by
  obtain ⟨hlt, ha, -⟩ := List.idxOf?_eq_some_iff.1 h
  rw [List.getElem?_eq_getElem hlt, ha]

theorem idxOf?_eq_some_iff_of_nodup {items : List String} (hnodup : items.Nodup) {a : String}
    {place : Nat} : items.idxOf? a = some place ↔ items[place]? = some a := by
  refine ⟨getElem?_of_idxOf?, fun h => ?_⟩
  obtain ⟨found, hfound⟩ := Option.isSome_iff_exists.1 (List.isSome_idxOf?.2 (List.mem_of_getElem? h))
  have hlt : place < items.length := (List.getElem?_eq_some_iff.1 h).1
  have hplaces := (List.getElem?_inj hlt hnodup).1 (h.trans (getElem?_of_idxOf? hfound).symm)
  rw [hfound, hplaces]

namespace OrderedSet

variable (s : OrderedSet)

theorem insertAll_append (front values : List String) :
    s.insertAll (front ++ values) = (s.insertAll front).insertAll values := List.foldl_append

theorem toList_insertAll (values : List String) :
    (s.insertAll values).toList = (s.toList ++ values).eraseDups := by
  induction values using List.reverseRecOn with
  | nil => rw [List.append_nil, eraseDups_of_nodup s.nodup]; rfl
  | append_singleton values value ih =>
    have hinsert : s.insertAll (values ++ [value]) = (s.insertAll values).insert value :=
      s.insertAll_append values [value]
    rw [hinsert, toList_insert, ih, ← List.append_assoc, eraseDups_concat]
    simp only [List.mem_eraseDups]

theorem insertNonempty_eq (value : String) :
    s.insertNonempty value = s.insertAll ([value].filter (· ≠ "")) := by
  unfold insertNonempty
  by_cases h : value = ""
  · simp [h, insertAll]
  · simp [h, insertAll, String.isEmpty_iff]

/-- The table finds a text exactly where the list has it. -/
theorem position?_eq_some_iff {value : String} {position : Nat} :
    s.position? value = some position ↔ s.toList[position]? = some value := by
  rw [position?_eq, idxOf?_eq_some_iff_of_nodup s.nodup]

/-- How a set is changed: texts are offered to it, one or a list of them. -/
inductive Call
  | insert (value : String)
  | extend (values : List String)

/-- The texts that a call offers. -/
def Call.offered : Call → List String
  | .insert value => [value]
  | .extend values => values

/-- The answer to a call, which is for an insertion whether the text is new, and the set after it. -/
def call : Call → Option Bool × OrderedSet
  | .insert value => ((s.offer value).map some id)
  | .extend values => (none, s.insertAll values)

def callAll (s : OrderedSet) : List Call → List (Option Bool) × OrderedSet
  | [] => ([], s)
  | c :: rest =>
    let (answer, s) := s.call c
    let (answers, s) := callAll s rest
    (answer :: answers, s)

theorem call_eq_insertAll (c : Call) : (s.call c).2 = s.insertAll c.offered := by
  cases c <;> rfl

theorem answer_insert (value : String) :
    (s.call (.insert value)).1 = some (decide (value ∉ s.toList)) := by
  simp only [call, offer, Prod.map_fst, ← contains_iff_mem, decide_not, Bool.decide_eq_true]

theorem callAll_cons (c : Call) (rest : List Call) :
    s.callAll (c :: rest) =
      ((s.call c).1 :: ((s.call c).2.callAll rest).1, ((s.call c).2.callAll rest).2) := rfl

theorem callAll_eq_insertAll (calls : List Call) :
    (s.callAll calls).2 = s.insertAll (calls.flatMap Call.offered) := by
  induction calls generalizing s with
  | nil => rfl
  | cons c rest ih => rw [callAll_cons, ih, call_eq_insertAll, List.flatMap_cons, insertAll_append]

theorem length_answers (calls : List Call) : (s.callAll calls).1.length = calls.length := by
  induction calls generalizing s with
  | nil => rfl
  | cons c rest ih => rw [callAll_cons, List.length_cons, List.length_cons, ih]

theorem answers_append (before after : List Call) :
    (s.callAll (before ++ after)).1 =
      (s.callAll before).1 ++ ((s.callAll before).2.callAll after).1 := by
  induction before generalizing s with
  | nil => rfl
  | cons c rest ih => rw [List.cons_append, callAll_cons, callAll_cons, ih, List.cons_append]

theorem textSet_ofStrings (values : List String) :
    CanonicalOrder.textSet (.ofStrings values) = .ok (ofList values) := by
  have hlist : Source.list Source.text (Json.ofStrings values) = .ok values :=
    mapM_encoded fun _ _ => rfl
  rw [CanonicalOrder.textSet, hlist]
  rfl

/-- However a set came about, what it holds are the first appearances of all the texts that were offered
to it, each found at its position and at no other, and a text was new when it was inserted exactly if it
had not been offered before. -/
theorem callAll_first_appearances (start : List String) (calls : List Call) :
    let (answers, s) := (ofList start).callAll calls
    let offered := start ++ calls.flatMap Call.offered
    CanonicalOrder.textSet (.ofStrings start) = .ok (ofList start) ∧
      (s.toList.Nodup ∧ s.toList = offered.eraseDups) ∧
      (∀ value position, s.position? value = some position ↔ s.toList[position]? = some value) ∧
      (∀ value, s.contains value = (s.position? value).isSome ∧
        (s.contains value = true ↔ value ∈ offered)) ∧
      ∀ before value after, calls = before ++ .insert value :: after →
        answers[before.length]? = some (some (decide (value ∉ start ++ before.flatMap Call.offered))) := by
  have hlist (calls : List Call) : ((ofList start).callAll calls).2.toList =
      (start ++ calls.flatMap Call.offered).eraseDups := by
    rw [callAll_eq_insertAll, ofList, ← insertAll_append, toList_insertAll]
    rfl
  refine ⟨textSet_ofStrings start, ⟨nodup _, hlist calls⟩, fun _ _ => position?_eq_some_iff _,
    fun value => ⟨rfl, ?_⟩, ?_⟩
  · rw [contains_iff_mem, hlist, List.mem_eraseDups]
  · rintro before value after rfl
    rw [answers_append, List.getElem?_append_right (Nat.le_of_eq (length_answers _ _)), length_answers,
      Nat.sub_self, callAll_cons, List.getElem?_cons_zero, answer_insert, hlist]
    simp only [List.mem_eraseDups]

end OrderedSet

end PivotTable
