import Mathlib.Data.List.Forall2
import PivotTable.Authored

/-!
# What authored fields hold

A field that is read holds what its decoder makes of its value. The entries of a list that are kept are those
that their decoder accepts, whatever the field is called and wherever they stand.
-/
namespace PivotTable

namespace Authored

variable {α : Type} {field : String}

section

variable {a : Authored} {fallback : α} {decoder : Json → Decoded (Reported α)}

theorem decode_of_blank (hread : a.read = .ok none) : a.decode field fallback decoder = pure fallback := by
  simp only [decode, hread, bind, Except.bind]
  rfl

theorem decode_of_malformed {e : DecodeError} (hread : a.read = .error e) :
    a.decode field fallback decoder = ⟨fallback, [.fieldUnreadable field e.message]⟩ := by
  simp only [decode, hread]
  rfl

theorem decode_of_refused {v : Json} {e : DecodeError} (hread : a.read = .ok (some v))
    (hdecoder : decoder v = .error e) :
    a.decode field fallback decoder = ⟨fallback, [.fieldUnreadable field e.message]⟩ := by
  simp only [decode, hread, bind, Except.bind, hdecoder]
  rfl

theorem decode_of_read {v : Json} {result : Reported α} (hread : a.read = .ok (some v))
    (hdecoder : decoder v = .ok result) : a.decode field fallback decoder = result := by
  simp only [decode, hread, bind, Except.bind, hdecoder]

/-- A field holds what its decoder makes of some value, or the fallback. -/
theorem value_decode (a : Authored) (field : String) (fallback : α)
    (decoder : Json → Decoded (Reported α)) :
    (a.decode field fallback decoder).value = fallback ∨
      ∃ v result, decoder v = .ok result ∧ (a.decode field fallback decoder).value = result.value := by
  cases hread : a.read with
  | error e =>
    left
    rw [decode_of_malformed hread]
  | ok content =>
    cases content with
    | none =>
      left
      rw [decode_of_blank hread]
      rfl
    | some v =>
      cases hdecoder : decoder v with
      | ok result => exact .inr ⟨v, result, hdecoder, by rw [decode_of_read hread hdecoder]⟩
      | error e =>
        left
        rw [decode_of_refused hread hdecoder]

end

/-- The items that a field lists; a field that is blank or cannot be read lists none. -/
def items (a : Authored) : List Json :=
  match a.read with
  | .ok (some (.arr items)) => items
  | _ => []

theorem value_list (a : Authored) (field : String) : (a.list field).value = a.items := by
  unfold list items
  cases hread : a.read with
  | error e => rw [decode_of_malformed hread]
  | ok content =>
    cases content with
    | none =>
      rw [decode_of_blank hread]
      rfl
    | some value =>
      cases value with
      | arr items =>
        rw [decode_of_read hread rfl]
        rfl
      | _ => rw [decode_of_refused hread rfl]

variable {decoder : Json → Except String α}

theorem value_acceptItems (field : String) (decoder : Json → Except String α) (index : Nat)
    (items : List Json) :
    (acceptItems field decoder index items).value.map Prod.snd =
      items.filterMap fun item => (decoder item).toOption := by
  induction items generalizing index with
  | nil => rfl
  | cons item rest ih =>
    rw [acceptItems, List.filterMap_cons]
    cases decoder item with
    | error reason => exact ih (index + 1)
    | ok a => exact congrArg (a :: ·) (ih (index + 1))

theorem value_entries (a : Authored) (field : String) (decoder : Json → Except String α) :
    (a.entries field decoder).value.map Prod.snd =
      a.items.filterMap fun item => (decoder item).toOption := by
  rw [entries, Reported.value_bind, value_list, value_acceptItems]

theorem exists_of_mem_acceptItems {index : Nat} {items : List Json} {a : Nat × α}
    (h : a ∈ (acceptItems field decoder index items).value) : ∃ item ∈ items, decoder item = .ok a.2 := by
  have hmem : a.2 ∈ (acceptItems field decoder index items).value.map Prod.snd := List.mem_map_of_mem h
  rw [value_acceptItems] at hmem
  obtain ⟨item, hitem, haccepted⟩ := List.mem_filterMap.1 hmem
  refine ⟨item, hitem, ?_⟩
  cases hdecoded : decoder item with
  | error reason => simp [hdecoded, Except.toOption] at haccepted
  | ok b =>
    rw [hdecoded] at haccepted
    exact congrArg Except.ok (Option.some.inj haccepted)

/-- Items that are all accepted are all kept, in order. -/
theorem acceptItems_of_forall₂ (field : String) {items : List Json} {made : List α}
    (h : List.Forall₂ (fun a item => decoder item = .ok a) made items) (index : Nat) :
    (acceptItems field decoder index items).value.map Prod.snd = made ∧
      (acceptItems field decoder index items).events = [] := by
  induction h generalizing index with
  | nil => exact ⟨rfl, rfl⟩
  | cons hitem _ ih =>
    obtain ⟨hvalue, hevents⟩ := ih (index + 1)
    simp [acceptItems, hitem, hvalue, hevents]

end Authored

end PivotTable
