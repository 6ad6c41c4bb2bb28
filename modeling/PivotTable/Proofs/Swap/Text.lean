import PivotTable.Proofs.Authored
import PivotTable.Proofs.Json.Reading
import PivotTable.Swap.Authored

/-!
# The text of a list of swaps

Swaps are kept as a text, and the text of a list of swaps is decoded to that list, without a report, as long
as a signed 64-bit word holds every index. Indices that were decoded fit a word, whatever they were decoded
from.
-/
namespace PivotTable

namespace Swap

/-- The integer is one that a signed 64-bit word holds. -/
def IsIndex (i : Int) : Prop := -9223372036854775808 ≤ i ∧ i < 9223372036854775808

theorem IsIndex.inRange {i : Int} (h : IsIndex i) :
    -9223372036854775808 ≤ i ∧ i ≤ 18446744073709551615 := by
  obtain ⟨hlow, hhigh⟩ := h
  omega

theorem isIndex_of_lt {i : Nat} (h : i < 9223372036854775808) : IsIndex i := by
  constructor <;> omega

structure Fits (s : Swap) : Prop where
  first : IsIndex s.first
  second : IsIndex s.second

instance (i : Int) : Decidable (IsIndex i) :=
  inferInstanceAs (Decidable (-9223372036854775808 ≤ i ∧ i < 9223372036854775808))

instance (s : Swap) : Decidable s.Fits :=
  decidable_of_iff (IsIndex s.first ∧ IsIndex s.second) ⟨fun h => ⟨h.1, h.2⟩, fun h => ⟨h.1, h.2⟩⟩

theorem isIndex_of_index? {v : Json} {i : Int} (h : index? v = some i) : IsIndex i := by
  unfold index? at h
  split at h
  · next value inRange =>
    split at h
    · next hlt =>
      obtain rfl := Option.some.inj h
      exact ⟨inRange.1, hlt⟩
    · cases h
  · next x =>
    obtain ⟨value, -, h⟩ := Option.bind_eq_some_iff.1 h
    split at h
    · next hlt =>
      obtain rfl := Option.some.inj h
      constructor <;> omega
    · cases h
  · cases h

theorem fits_of_ofEntry {entry : Json} {s : Swap} (h : ofEntry entry = .ok s) : s.Fits := by
  unfold ofEntry at h
  cases hends : endpoints entry with
  | error reason =>
    rw [hends] at h
    cases h
  | ok ends =>
    simp only [hends, bind, Except.bind] at h
    split at h
    · next first second hfirst hsecond =>
      obtain rfl := Except.ok.inj h
      exact ⟨isIndex_of_index? hfirst, isIndex_of_index? hsecond⟩
    · cases h

theorem fits_of_mem_ofAuthored {a : Authored} {s : Swap} (h : s ∈ (ofAuthored a).value) : s.Fits := by
  rcases a.value_decode "swaps" [] ofJson with hvalue | ⟨v, result, hdecoder, hvalue⟩
  · rw [ofAuthored, hvalue] at h
    cases h
  · rw [ofAuthored, hvalue] at h
    unfold ofJson at hdecoder
    split at hdecoder
    · obtain rfl := Except.ok.inj hdecoder
      rw [Reported.value_bind, Reported.value_pure] at h
      obtain ⟨accepted, hmem, rfl⟩ := List.mem_map.1 h
      obtain ⟨entry, -, hentry⟩ := Authored.exists_of_mem_acceptItems hmem
      exact fits_of_ofEntry hentry
    · cases hdecoder

theorem index?_ofInt {i : Int} (h : IsIndex i) : index? (.ofInt i) = some i := by
  rw [Json.ofInt, Number.ofInt_eq_integer h.inRange, index?, if_pos h.2]

theorem ofEntry_toJson {s : Swap} (h : s.Fits) : ofEntry s.toJson = .ok s := by
  have hfirst := index?_ofInt h.first
  have hsecond := index?_ofInt h.second
  simp only [ofEntry, toJson, endpoints, bind, Except.bind, hfirst, hsecond]

theorem scans_ofInt {i : Int} (h : IsIndex i) (depth : Nat) : Json.Scans depth (.ofInt i) := by
  rw [Json.ofInt, Number.ofInt_eq_integer h.inRange]
  exact Json.scans_integer depth _

theorem scans_toJson {s : Swap} (h : s.Fits) : Json.Scans 1 s.toJson := by
  apply Json.scans_arr (by decide)
  simp only [List.forall_mem_cons]
  exact ⟨scans_ofInt h.first 2, scans_ofInt h.second 2, by simp⟩

variable {swaps : List Swap}

theorem read?_listText (h : ∀ s ∈ swaps, s.Fits) :
    Json.read? (listText swaps) = some (listToJson swaps) := by
  apply Json.read?_render
  apply Json.scans_arr (by decide)
  intro v hv
  obtain ⟨s, hs, rfl⟩ := List.mem_map.1 hv
  exact scans_toJson (h s hs)

theorem isBlankText_render_arr (items : List Json) : isBlankText (Json.arr items).render = false := by
  have hbracket : Unicode.isBlank '[' = false := by decide
  simp [isBlankText, Json.render, Json.chars, hbracket]

theorem ofAuthored_of_read {a : Authored} {entries : List Json} (hread : a.read = .ok (some (.arr entries)))
    (h : List.Forall₂ (fun s entry => ofEntry entry = .ok s) swaps entries) : ofAuthored a = pure swaps := by
  obtain ⟨hvalue, hevents⟩ := Authored.acceptItems_of_forall₂ "swaps" h 0
  rw [ofAuthored, Authored.decode_of_read hread rfl]
  exact (Reported.mk.injEq ..).mpr ⟨hvalue, (List.append_nil _).trans hevents⟩

/-- The text of a list of swaps is decoded to that list, and nothing is reported. -/
theorem ofAuthored_listText (h : ∀ s ∈ swaps, s.Fits) :
    ofAuthored (.text (listText swaps)) = pure swaps := by
  have hread : Authored.read (.text (listText swaps)) = .ok (some (listToJson swaps)) := by
    rw [Authored.read, read?_listText h, listText, listToJson, isBlankText_render_arr]
    rfl
  apply ofAuthored_of_read hread
  rw [List.forall₂_map_right_iff, List.forall₂_same]
  exact fun s hs => ofEntry_toJson (h s hs)

end Swap

end PivotTable
