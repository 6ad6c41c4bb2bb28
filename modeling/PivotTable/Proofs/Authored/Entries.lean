import PivotTable.Proofs.Authored
import PivotTable.Proofs.Event
import PivotTable.Proofs.Places

/-!
# Places of entries

A list that is decoded entry by entry accepts or reports each of its entries, under the place where the entry
stands. The places accepted and the places reported are increasing and make up all places together, and the
list without the reported entries is decoded to the same values, with nothing to report.
-/
namespace PivotTable

namespace Authored

variable {α γ : Type} {a : Authored} {field : String} {view : Event → Option γ}

theorem told_unreadable (fallback : α) (e : DecodeError)
    (hunreadable : ∀ e, view (.fieldUnreadable field e) = none) :
    Reported.told view ⟨fallback, [.fieldUnreadable field e.message]⟩ = [] := by
  simp [Reported.told, hunreadable]

theorem told_decode_eq_nil {fallback : α} {decoder : Json → Decoded (Reported α)}
    (hunreadable : ∀ e, view (.fieldUnreadable field e) = none)
    (hdecoder : ∀ v result, decoder v = .ok result → result.told view = []) (a : Authored) :
    (a.decode field fallback decoder).told view = [] := by
  cases hread : a.read with
  | error e => rw [decode_of_malformed hread, told_unreadable fallback e hunreadable]
  | ok content =>
    cases content with
    | none => rw [decode_of_blank hread, Reported.told_pure]
    | some v =>
      cases hv : decoder v with
      | ok result => rw [decode_of_read hread hv, hdecoder v result hv]
      | error e => rw [decode_of_refused hread hv, told_unreadable fallback e hunreadable]

theorem told_list_eq_nil (hunreadable : ∀ e, view (.fieldUnreadable field e) = none) (a : Authored) :
    (a.list field).told view = [] := by
  apply told_decode_eq_nil hunreadable
  intro v result hv
  cases v with
  | arr items =>
    obtain rfl := Except.ok.inj hv
    rfl
  | _ => cases hv

/-- A decoder of lists that refuses anything else finds the items of a field, or finds none. -/
theorem decode_items {fallback : α} {decoder : Json → Decoded (Reported α)} {f : List Json → Reported α}
    (hlist : ∀ items, decoder (.arr items) = .ok (f items))
    (hother : ∀ v, (∀ items, v ≠ .arr items) → ∃ e, decoder v = .error e) (hnone : f [] = pure fallback)
    (a : Authored) (field : String) :
    (a.decode field fallback decoder).value = (f a.items).value ∧
      ∀ {γ : Type} {view : Event → Option γ}, (∀ e, view (.fieldUnreadable field e) = none) →
        (a.decode field fallback decoder).told view = (f a.items).told view := by
  by_cases hitems : ∃ items, a.read = .ok (some (.arr items))
  · obtain ⟨items, hread⟩ := hitems
    have hfound : a.items = items := by simp only [Authored.items, hread]
    rw [decode_of_read hread (hlist items), hfound]
    exact ⟨rfl, fun _ => rfl⟩
  · have hfound : a.items = [] := by
      unfold Authored.items
      split
      · next items hread => exact absurd ⟨items, hread⟩ hitems
      · rfl
    rw [hfound, hnone]
    cases hread : a.read with
    | error e =>
      rw [decode_of_malformed hread]
      exact ⟨rfl, told_unreadable fallback e⟩
    | ok content =>
      cases content with
      | none =>
        rw [decode_of_blank hread]
        exact ⟨rfl, fun _ => rfl⟩
      | some v =>
        obtain ⟨e, he⟩ := hother v fun items hv => hitems ⟨items, hv ▸ hread⟩
        rw [decode_of_refused hread he]
        exact ⟨rfl, told_unreadable fallback e⟩

/-- Whether an entry is one that the decoder does not accept. -/
def refuses (decoder : Json → Except String α) (item : Json) : Bool := !(decoder item).isOk

section

variable {decoder : Json → Except String α} {item : Json}

theorem refuses_of_ok {a : α} (h : decoder item = .ok a) : refuses decoder item = false := by
  rw [refuses, h]
  rfl

theorem refuses_of_error {reason : String} (h : decoder item = .error reason) :
    refuses decoder item = true := by
  rw [refuses, h]
  rfl

theorem value_acceptItems_zipIdx (field : String) (decoder : Json → Except String α) (index : Nat)
    (items : List Json) :
    (acceptItems field decoder index items).value =
      (items.zipIdx index).filterMap fun item => (decoder item.1).toOption.map (item.2, ·) := by
  induction items generalizing index with
  | nil => rfl
  | cons item rest ih =>
    rw [acceptItems, List.zipIdx_cons, List.filterMap_cons]
    cases hitem : decoder item with
    | ok a => simp [Except.toOption, ih]
    | error reason => simp [Except.toOption, ih]

theorem told_acceptItems_eq_nil (hignored : ∀ index reason, view (.entryIgnored field index reason) = none)
    (decoder : Json → Except String α) (index : Nat) (items : List Json) :
    (acceptItems field decoder index items).told view = [] := by
  induction items generalizing index with
  | nil => rfl
  | cons item rest ih =>
    rw [acceptItems]
    cases decoder item with
    | ok a => simp [ih]
    | error reason => simp [Reported.told_report, hignored, ih]

theorem value_entries_eq (a : Authored) (field : String) (decoder : Json → Except String α) :
    (a.entries field decoder).value = (acceptItems field decoder 0 a.items).value := by
  rw [entries, Reported.value_bind, value_list]

theorem told_entries_eq (hunreadable : ∀ e, view (.fieldUnreadable field e) = none) (a : Authored)
    (decoder : Json → Except String α) :
    (a.entries field decoder).told view = (acceptItems field decoder 0 a.items).told view := by
  rw [entries, Reported.told_bind, told_list_eq_nil hunreadable, value_list, List.nil_append]

theorem ignored_acceptItems_zipIdx (field : String) (decoder : Json → Except String α) (index : Nat)
    (items : List Json) :
    (acceptItems field decoder index items).told Event.ignored? =
      ((items.zipIdx index).filter fun item => refuses decoder item.1).map fun item => (field, item.2) := by
  induction items generalizing index with
  | nil => rfl
  | cons item rest ih =>
    rw [acceptItems, List.zipIdx_cons, List.filter_cons]
    cases hitem : decoder item with
    | ok a => simp [refuses_of_ok hitem, ih]
    | error reason => simp [refuses_of_error hitem, ih, Reported.told_report, Event.ignored?]

/-- The entries that are reported are those that the decoder does not accept. -/
theorem ignored_entries (a : Authored) (field : String) (decoder : Json → Except String α) :
    (a.entries field decoder).told Event.ignored? =
      (placesWhere (refuses decoder) a.items).map (field, ·) := by
  rw [told_entries_eq fun _ => rfl, ignored_acceptItems_zipIdx, placesWhere, List.map_map]
  rfl

/-- What is accepted under a place is made of the entry at this place. -/
theorem getElem?_of_mem_entries {made : Nat × α} (h : made ∈ (a.entries field decoder).value) :
    ∃ item, a.items[made.1]? = some item ∧ decoder item = .ok made.2 := by
  rw [value_entries_eq, value_acceptItems_zipIdx] at h
  obtain ⟨⟨item, i⟩, hitem, hmade⟩ := List.mem_filterMap.1 h
  obtain ⟨accepted, haccepted, rfl⟩ := Option.map_eq_some_iff.1 hmade
  refine ⟨item, List.mk_mem_zipIdx_iff_getElem?.1 hitem, ?_⟩
  cases hdecoded : decoder item with
  | ok value =>
    rw [hdecoded] at haccepted
    exact congrArg Except.ok (Option.some.inj haccepted)
  | error reason =>
    rw [hdecoded] at haccepted
    cases haccepted

theorem map_fst_entries (a : Authored) (field : String) (decoder : Json → Except String α) :
    (a.entries field decoder).value.map Prod.fst =
      placesWhere (fun item => !refuses decoder item) a.items := by
  have hplace (item : Json × Nat) :
      ((decoder item.1).toOption.map (item.2, ·)).map Prod.fst =
        (Option.guard (fun item : Json × Nat => !refuses decoder item.1) item).map Prod.snd := by
    cases hdecoded : decoder item.1 with
    | ok value => simp [Except.toOption, Option.guard, refuses_of_ok hdecoded]
    | error reason => simp [Except.toOption, Option.guard, refuses_of_error hdecoded]
  rw [value_entries_eq, value_acceptItems_zipIdx, List.map_filterMap, placesWhere,
    ← List.filterMap_eq_filter, List.map_filterMap]
  simp only [hplace]

/-- The entries that are left when the reported ones have been taken out are all accepted. -/
theorem ignored_entries_leavingOut {kept : Authored}
    (h : kept.items = leavingOut (placesWhere (refuses decoder) a.items) a.items) :
    (kept.entries field decoder).told Event.ignored? = [] := by
  have hnone : placesWhere (refuses decoder) kept.items = [] := by
    rw [List.eq_nil_iff_forall_not_mem]
    intro i hi
    obtain ⟨item, hitem, hrefused⟩ := mem_placesWhere.1 hi
    have hmem := List.mem_of_getElem? hitem
    rw [h, leavingOut_placesWhere] at hmem
    simp [hrefused] at hmem
  rw [ignored_entries, hnone]
  rfl

theorem map_snd_entries_leavingOut {kept : Authored}
    (h : kept.items = leavingOut (placesWhere (refuses decoder) a.items) a.items) :
    (kept.entries field decoder).value.map Prod.snd = (a.entries field decoder).value.map Prod.snd := by
  rw [value_entries, value_entries, h, leavingOut_placesWhere, List.filterMap_filter]
  congr 1
  funext item
  cases hdecoded : decoder item with
  | ok value => simp [refuses_of_ok hdecoded]
  | error reason => simp [refuses_of_error hdecoded, Except.toOption]

end

end Authored

end PivotTable
