import PivotTable.Proofs.Json.Maps
import PivotTable.Proofs.Swap.Entries
import PivotTable.Proofs.Swap.Text

/-!
# Lists of swaps by hand

A swap is written as the list of its two indices, or as an object that names them. A list in which every swap
is written in either way, given as a value or as a text, is decoded to the swaps.
-/
namespace PivotTable.Swap

/-- The entries that a swap may be written as: the list of its indices, and the objects that name them. -/
def spellings (s : Swap) : List Json :=
  [s.toJson, .obj [("from", .ofInt s.first), ("to", .ofInt s.second)],
    .obj [("to", .ofInt s.second), ("from", .ofInt s.first)]]

variable {s : Swap} {entry : Json}

theorem ofEntry_of_mem_spellings (hfits : s.Fits) (h : entry ∈ s.spellings) : ofEntry entry = .ok s := by
  have hfirst := index?_ofInt hfits.first
  have hsecond := index?_ofInt hfits.second
  simp only [spellings, List.mem_cons, List.not_mem_nil, or_false] at h
  rcases h with rfl | rfl | rfl
  · exact ofEntry_toJson hfits
  all_goals exact ofEntry_eq_ok_iff.2 (.members rfl rfl hfirst hsecond)

theorem scans_of_mem_spellings (hfits : s.Fits) (h : entry ∈ s.spellings) : Json.Scans 1 entry := by
  have hfirst : Json.Scans 2 (.ofInt s.first) := scans_ofInt hfits.first 2
  have hsecond : Json.Scans 2 (.ofInt s.second) := scans_ofInt hfits.second 2
  simp only [spellings, List.mem_cons, List.not_mem_nil, or_false] at h
  rcases h with rfl | rfl | rfl
  · exact scans_toJson hfits
  all_goals
    apply Json.scans_obj (by decide)
    · simp
    · simp [hfirst, hsecond]

/-- A list in which every swap is written in either way is read back from its text. -/
theorem read?_render_spelled {swaps : List Swap} {entries : List Json}
    (h : List.Forall₂ (fun s entry => s.Fits ∧ entry ∈ s.spellings) swaps entries) :
    Json.read? (Json.arr entries).render = some (.arr entries) := by
  have hentries : ∀ entry ∈ entries, Json.Scans 1 entry := by
    induction h with
    | nil => exact List.forall_mem_nil _
    | cons hentry _ ih =>
      exact List.forall_mem_cons.2 ⟨scans_of_mem_spellings hentry.1 hentry.2, ih⟩
  exact Json.read?_render (Json.scans_arr (by decide) hentries)

/-- Swaps of any indices that a signed 64-bit word holds are decoded from their text and from their list, and
from any list or text of one that writes some of them as objects. -/
theorem ofAuthored_spelled (swaps : List Swap) (entries : List Json) (hfits : ∀ s ∈ swaps, s.Fits)
    (hspelled : List.Forall₂ (fun s entry => entry ∈ s.spellings) swaps entries) :
    ofAuthored (.text (listText swaps)) = pure swaps ∧
      ofAuthored (.json (listToJson swaps)) = pure swaps ∧
      ofAuthored (.json (.arr entries)) = pure swaps ∧
      ofAuthored (.text (Json.arr entries).render) = pure swaps := by
  have hentries : List.Forall₂ (fun s entry => s.Fits ∧ entry ∈ s.spellings) swaps entries :=
    (List.forall₂_and_left ..).2 ⟨hfits, hspelled⟩
  have hdecoded : List.Forall₂ (fun s entry => ofEntry entry = .ok s) swaps entries :=
    hentries.imp fun _ _ hentry => ofEntry_of_mem_spellings hentry.1 hentry.2
  have hpairs : List.Forall₂ (fun s entry => ofEntry entry = .ok s) swaps (swaps.map toJson) := by
    rw [List.forall₂_map_right_iff, List.forall₂_same]
    exact fun s hs => ofEntry_toJson (hfits s hs)
  have hread : Authored.read (.text (Json.arr entries).render) = .ok (some (.arr entries)) := by
    rw [Authored.read, read?_render_spelled hentries, isBlankText_render_arr]
    rfl
  exact ⟨ofAuthored_listText hfits, ofAuthored_of_read rfl hpairs, ofAuthored_of_read rfl hdecoded,
    ofAuthored_of_read hread hdecoded⟩

theorem ofAuthored_spelled_extremes :
    let swaps : List Swap := [⟨-9223372036854775808, 9223372036854775807⟩, ⟨9223372036854775807, -1⟩]
    let entries : List Json := [.arr [.ofInt (-9223372036854775808), .ofInt 9223372036854775807],
      .obj [("to", .ofInt (-1)), ("from", .ofInt 9223372036854775807)]]
    ofAuthored (.text (listText swaps)) = pure swaps ∧
      ofAuthored (.json (listToJson swaps)) = pure swaps ∧
      ofAuthored (.json (.arr entries)) = pure swaps ∧
      ofAuthored (.text (Json.arr entries).render) = pure swaps := by
  intro swaps entries
  have hspelled : List.Forall₂ (fun s entry => entry ∈ spellings s) swaps entries :=
    .cons (by simp [spellings, toJson]) (.cons (by simp [spellings]) .nil)
  exact ofAuthored_spelled swaps entries (by decide) hspelled

end PivotTable.Swap
