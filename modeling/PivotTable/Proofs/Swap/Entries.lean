import PivotTable.Proofs.Authored.Entries
import PivotTable.Swap.Authored

/-!
# Entries that write swaps

An entry writes a swap as a list of two indices or as an object that gives them under `from` and `to`. A list
of swaps is decoded to the swaps that its entries write, in order, and every entry that writes none is
reported once under its place.
-/
namespace PivotTable.Swap

/-- The forms in which an entry may write a swap. -/
inductive Writes : Json → Swap → Prop
  | pair {x y : Json} {i j : Int} (hfirst : index? x = some i) (hsecond : index? y = some j) :
      Writes (.arr [x, y]) ⟨i, j⟩
  | members {members : Members} {x y : Json} {i j : Int} (hfrom : members.lookup "from" = some x)
      (hto : members.lookup "to" = some y) (hfirst : index? x = some i) (hsecond : index? y = some j) :
      Writes (.obj members) ⟨i, j⟩

theorem ofEntry_eq_ok_iff_endpoints {entry : Json} {s : Swap} :
    ofEntry entry = .ok s ↔ ∃ x y, endpoints entry = .ok (x, y) ∧
      index? x = some s.first ∧ index? y = some s.second := by
  unfold ofEntry
  cases hends : endpoints entry with
  | error reason => simp [bind, Except.bind]
  | ok ends =>
    obtain ⟨x, y⟩ := ends
    cases hx : index? x with
    | none => simp [bind, Except.bind, hx]
    | some i =>
      cases hy : index? y with
      | none => simp [bind, Except.bind, hx, hy]
      | some j =>
        cases s
        simp [bind, Except.bind, hx, hy]

theorem endpoints_eq_ok_iff {entry x y : Json} :
    endpoints entry = .ok (x, y) ↔ entry = .arr [x, y] ∨
      ∃ members : Members, entry = .obj members ∧ members.lookup "from" = some x ∧
        members.lookup "to" = some y := by
  fun_cases endpoints entry with
  | case1 first second => simp
  | case2 items hother =>
    constructor
    · rintro ⟨⟩
    · rintro (h | ⟨members, h, -⟩)
      · exact absurd (Json.arr.inj h) (hother x y)
      · cases h
  | case3 members first second hfirst hsecond => simp [hfirst, hsecond]
  | case4 members hother =>
    constructor
    · rintro ⟨⟩
    · rintro (h | ⟨_, h, hx, hy⟩)
      · cases h
      · obtain rfl := Json.obj.inj h
        exact absurd hy (hother x y hx)
  | case5 entry hpair hlist hobject =>
    constructor
    · rintro ⟨⟩
    · rintro (rfl | ⟨members, rfl, -⟩)
      · exact absurd rfl (hlist _)
      · exact absurd rfl (hobject _)

theorem ofEntry_eq_ok_iff {entry : Json} {s : Swap} : ofEntry entry = .ok s ↔ Writes entry s := by
  rw [ofEntry_eq_ok_iff_endpoints]
  constructor
  · rintro ⟨x, y, hends, hfirst, hsecond⟩
    rcases endpoints_eq_ok_iff.1 hends with rfl | ⟨members, rfl, hfrom, hto⟩
    · exact .pair hfirst hsecond
    · exact .members hfrom hto hfirst hsecond
  · rintro (⟨hfirst, hsecond⟩ | ⟨hfrom, hto, hfirst, hsecond⟩)
    · exact ⟨_, _, rfl, hfirst, hsecond⟩
    · exact ⟨_, _, endpoints_eq_ok_iff.2 (.inr ⟨_, rfl, hfrom, hto⟩), hfirst, hsecond⟩

theorem refuses_ofEntry_iff {entry : Json} :
    Authored.refuses ofEntry entry = true ↔ ∀ s, ¬ Writes entry s := by
  cases hentry : ofEntry entry with
  | ok s =>
    rw [Authored.refuses_of_ok hentry]
    simp only [Bool.false_eq_true, false_iff, not_forall, not_not]
    exact ⟨s, ofEntry_eq_ok_iff.1 hentry⟩
  | error reason =>
    rw [Authored.refuses_of_error hentry]
    simp [← ofEntry_eq_ok_iff, hentry]

/-- The field is read as a list of entries. -/
theorem ofAuthored_entries (a : Authored) :
    (ofAuthored a).value = (a.entries "swaps" ofEntry).value.map Prod.snd ∧
      ∀ {γ : Type} {view : Event → Option γ}, (∀ e, view (.fieldUnreadable "swaps" e) = none) →
        (ofAuthored a).told view = (a.entries "swaps" ofEntry).told view := by
  let accept (items : List Json) : Reported (List Swap) := do
    let accepted ← Authored.acceptItems "swaps" ofEntry 0 items
    pure (accepted.map Prod.snd)
  have hother : ∀ v, (∀ items, v ≠ .arr items) → ∃ e, ofJson v = .error e := by
    intro v hv
    cases v with
    | arr items => exact absurd rfl (hv items)
    | _ => exact ⟨_, rfl⟩
  have hnone : accept [] = pure [] := rfl
  obtain ⟨hvalue, htold⟩ := Authored.decode_items (fun _ => rfl) hother hnone a "swaps"
  refine ⟨?_, fun {γ view} hunreadable => ?_⟩
  · rw [ofAuthored, hvalue, Authored.value_entries_eq]
    rfl
  · rw [ofAuthored, htold hunreadable, Authored.told_entries_eq hunreadable]
    exact (Reported.told_bind ..).trans (List.append_nil _)

theorem value_ofAuthored (a : Authored) :
    (ofAuthored a).value = a.items.filterMap fun entry => (ofEntry entry).toOption := by
  rw [(ofAuthored_entries a).1, Authored.value_entries]

theorem ignored_ofAuthored (a : Authored) :
    (ofAuthored a).told Event.ignored? =
      (placesWhere (Authored.refuses ofEntry) a.items).map ("swaps", ·) := by
  rw [(ofAuthored_entries a).2 fun _ => rfl, Authored.ignored_entries]

/-- Every entry that is not reported writes the swap that it is decoded to. -/
theorem forall₂_writes (entries : List Json) :
    List.Forall₂ Writes (entries.filter fun entry => !Authored.refuses ofEntry entry)
      (entries.filterMap fun entry => (ofEntry entry).toOption) := by
  induction entries with
  | nil => exact .nil
  | cons entry rest ih =>
    rw [List.filter_cons, List.filterMap_cons]
    cases hentry : ofEntry entry with
    | ok s =>
      rw [Authored.refuses_of_ok hentry]
      exact .cons (ofEntry_eq_ok_iff.1 hentry) ih
    | error reason =>
      rw [Authored.refuses_of_error hentry]
      exact ih

end PivotTable.Swap
