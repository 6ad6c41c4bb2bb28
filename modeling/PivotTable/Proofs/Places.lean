import Mathlib.Data.List.Basic

/-!
# Places of a list

Where the items of a list stand that have a property, and what is left of the list without some places.
-/
namespace PivotTable

variable {α : Type}

/-- The places of the items for which `p` holds. -/
def placesWhere (p : α → Bool) (items : List α) : List Nat :=
  (items.zipIdx.filter fun item => p item.1).map Prod.snd

/-- The items but for those at some places. -/
def leavingOut (places : List Nat) (items : List α) : List α :=
  (items.zipIdx.filter fun item => !places.contains item.2).map Prod.fst

theorem mem_placesWhere {p : α → Bool} {items : List α} {i : Nat} :
    i ∈ placesWhere p items ↔ ∃ item, items[i]? = some item ∧ p item = true := by
  simp only [placesWhere, List.mem_map, List.mem_filter, Prod.exists, List.mk_mem_zipIdx_iff_getElem?]
  constructor
  · rintro ⟨item, j, ⟨hitem, hp⟩, rfl⟩
    exact ⟨item, hitem, hp⟩
  · rintro ⟨item, hitem, hp⟩
    exact ⟨item, i, ⟨hitem, hp⟩, rfl⟩

theorem pairwise_placesWhere (p : α → Bool) (items : List α) :
    (placesWhere p items).Pairwise (· < ·) := by
  have hall : (items.zipIdx.map Prod.snd).Pairwise (· < ·) := by
    rw [List.zipIdx_map_snd]
    exact List.pairwise_lt_range'
  exact hall.sublist (List.filter_sublist.map Prod.snd)

theorem placesWhere_concat (p : α → Bool) (items : List α) (a : α) :
    placesWhere p (items ++ [a]) = placesWhere p items ++ if p a then [items.length] else [] := by
  rw [placesWhere, List.zipIdx_append, List.filter_append, List.map_append, placesWhere]
  cases h : p a <;> simp [h]

theorem lt_length_of_mem_placesWhere {p : α → Bool} {items : List α} {i : Nat}
    (h : i ∈ placesWhere p items) : i < items.length := by
  obtain ⟨item, hitem, -⟩ := mem_placesWhere.1 h
  exact (List.getElem?_eq_some_iff.1 hitem).1

/-- An item either has a property or lacks it. -/
theorem placesWhere_append_perm (p : α → Bool) (items : List α) :
    (placesWhere p items ++ placesWhere (fun item => !p item) items).Perm (List.range items.length) := by
  have hsplit := (List.filter_append_perm (fun item : α × Nat => p item.1) items.zipIdx).map Prod.snd
  rwa [List.map_append, List.zipIdx_map_snd, ← List.range_eq_range'] at hsplit

theorem leavingOut_placesWhere (p : α → Bool) (items : List α) :
    leavingOut (placesWhere p items) items = items.filter fun item => !p item := by
  have hplace : ∀ item ∈ items.zipIdx, (!(placesWhere p items).contains item.2) = !p item.1 := by
    rintro ⟨item, i⟩ hitem
    have hi : items[i]? = some item := List.mk_mem_zipIdx_iff_getElem?.1 hitem
    have hmem : i ∈ placesWhere p items ↔ p item = true := by simp [mem_placesWhere, hi]
    rw [Bool.eq_iff_iff, Bool.not_eq_true', Bool.not_eq_true', List.contains_eq_mem,
      decide_eq_false_iff_not, hmem, Bool.not_eq_true]
  rw [leavingOut, List.filter_congr hplace]
  change ((items.zipIdx.filter ((fun item => !p item) ∘ Prod.fst)).map Prod.fst) = _
  rw [← List.filter_map, List.zipIdx_map_fst]

end PivotTable
