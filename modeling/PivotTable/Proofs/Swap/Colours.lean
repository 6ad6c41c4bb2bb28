import Mathlib.Data.Finset.Card
import PivotTable.Proofs.Swap.Delta

/-!
# Swaps within colours

Every position has a colour: its group, or the cycle that it lies on. A batch whose pairs stay within one
colour leaves the colours of a list in place, and if two orders agree in the colours of their items, then
the delta between them stays within colours, too. The number of colours bounds the length of a batch from
both sides: a delta that keeps many colours in place is short, and a short batch leaves many in place.
-/
namespace PivotTable

namespace Swap

/-- The pair does not join two positions of different colours. -/
def Within {κ : Type} (colours : List κ) (s : Swap) : Prop :=
  ∀ i j, s.positions? colours.length = some (i, j) → colours[i]? = colours[j]?

section

variable {α κ μ : Type} {colours : List κ} {s : Swap} {swaps delta : List Swap}

theorem within_ofPositions {i j : Nat} (h : colours[i]? = colours[j]?) :
    (ofPositions i j).Within colours := by
  intro a b hpos
  obtain ⟨⟨ha, -⟩, hb, -⟩ := positions?_eq_some_iff.1 hpos
  obtain rfl : i = a := Int.ofNat.inj ha
  obtain rfl : j = b := Int.ofNat.inj hb
  exact h

theorem Within.map (f : κ → μ) (h : s.Within colours) : s.Within (colours.map f) := by
  intro i j hpos
  rw [List.length_map] at hpos
  rw [List.getElem?_map, List.getElem?_map, h i j hpos]

theorem within_map_iff {f : κ → μ} (hf : Function.Injective f) :
    s.Within (colours.map f) ↔ s.Within colours := by
  refine ⟨?_, Within.map f⟩
  intro h i j hpos
  have hmapped := h i j (by rwa [List.length_map])
  rw [List.getElem?_map, List.getElem?_map] at hmapped
  exact Option.map_injective hf hmapped

theorem map_range_getElem? (items : List α) :
    (List.range items.length).map (items[·]?) = items.map some := by
  apply List.ext_getElem
  · simp
  · intro p hp hq
    rw [List.length_map] at hq
    rw [List.getElem_map, List.getElem_range, List.getElem_map, List.getElem?_eq_getElem hq]

theorem map_exchangeAll_of_within {f : α → κ} {items : List α}
    (h : ∀ s ∈ swaps, s.Within (items.map f)) : (exchangeAll swaps items).map f = items.map f := by
  rw [map_exchangeAll]
  exact exchangeAll_eq_self h

end

section

variable {α κ : Type} {f : α → κ} {current target : List α} {delta : List Swap}

/-- An item of the same colour takes the place of the one that is wanted in front. -/
theorem map_behind {k : Nat} {c wanted : α} (h : current[k]? = some wanted) (hf : f c = f wanted) :
    (current.set k c).map f = current.map f := by
  obtain ⟨hk, rfl⟩ := List.getElem?_eq_some_iff.1 h
  have hlength : k < (current.map f).length := by rwa [List.length_map]
  have hplace : f c = (current.map f)[k] := by rw [hf, List.getElem_map]
  rw [List.map_set, hplace, List.set_getElem_self]

variable [DecidableEq α]

/-- Each step of the walk exchanges two places of one colour, and so the rest of the walk starts from orders
that agree in colours as well. -/
theorem within_deltaFrom {front : List κ} (hcolours : current.map f = target.map f)
    (h : deltaFrom front.length current target = some delta) :
    ∀ s ∈ delta, s.Within (front ++ target.map f) := by
  induction target generalizing current front delta with
  | nil =>
    rw [deltaFrom] at h
    obtain rfl := Option.some.inj h
    exact List.forall_mem_nil _
  | cons t target ih =>
    cases current with
    | nil => simp at hcolours
    | cons c current =>
      obtain ⟨hc, hrest⟩ := List.cons.inj hcolours
      have hcount : front.length + 1 = (front ++ [f t]).length := by simp
      rw [List.map_cons, List.append_cons]
      obtain ⟨-, h⟩ | ⟨-, k, rest, hk, hdelta, rfl⟩ := deltaFrom_cons_cases h
      · rw [hcount] at h
        exact ih hrest h
      · rw [hcount] at hdelta
        have hplace := getElem?_of_source? hk
        refine List.forall_mem_cons.2 ⟨within_ofPositions ?_, ?_⟩
        · have hback : (target.map f)[k]? = some (f t) := by
            rw [← hrest, List.getElem?_map, hplace, Option.map_some]
          rw [hcount, List.getElem?_append_right (Nat.le_add_right _ _), Nat.add_sub_cancel_left, hback]
          simp
        · exact ih ((map_behind hplace hc).trans hrest) hdelta

theorem within_delta? (hcolours : current.map f = target.map f) (h : delta? current target = some delta) :
    ∀ s ∈ delta, s.Within (target.map f) := by
  have hwalk := (delta?_eq_some_iff.1 h).2
  change deltaFrom ([] : List κ).length _ _ = some delta at hwalk
  exact within_deltaFrom hcolours hwalk

/-- The delta to a rearrangement of positions stays within their colours if and only if every position has the
colour of the one that comes to stand there. -/
theorem forall_within_iff {colours : List κ} {places : List Nat}
    (h : delta? (List.range colours.length) places = some delta) :
    (∀ s ∈ delta, s.Within colours) ↔
      places.map (colours[·]?) = (List.range colours.length).map (colours[·]?) := by
  constructor
  · intro hwithin
    rw [← exchangeAll_delta? h]
    apply map_exchangeAll_of_within
    rw [map_range_getElem?]
    exact fun s hs => (hwithin s hs).map some
  · intro hcolours s hs
    have hplaces := within_delta? hcolours.symm h s hs
    rw [hcolours, map_range_getElem?] at hplaces
    exact (within_map_iff (Option.some_injective κ)).1 hplaces

/-- A place that is put right by an exchange has a colour that comes again behind it. -/
theorem length_deltaFrom_add_card_le [DecidableEq κ] {i : Nat} (hcolours : current.map f = target.map f)
    (h : deltaFrom i current target = some delta) :
    delta.length + (target.map f).toFinset.card ≤ target.length := by
  induction target generalizing i current delta with
  | nil =>
    rw [deltaFrom] at h
    obtain rfl := Option.some.inj h
    exact Nat.le_refl 0
  | cons t target ih =>
    cases current with
    | nil => simp at hcolours
    | cons c current =>
      obtain ⟨hc, hrest⟩ := List.cons.inj hcolours
      rw [List.map_cons, List.toFinset_cons, List.length_cons]
      obtain ⟨-, h⟩ | ⟨-, k, rest, hk, hdelta, rfl⟩ := deltaFrom_cons_cases h
      · have hbehind := ih hrest h
        have hcard := Finset.card_insert_le (f t) (target.map f).toFinset
        omega
      · have hplace := getElem?_of_source? hk
        have hbehind := ih ((map_behind hplace hc).trans hrest) hdelta
        have hagain : f t ∈ (target.map f).toFinset := by
          rw [List.mem_toFinset, ← hrest]
          exact List.mem_map_of_mem (List.mem_of_getElem? hplace)
        rw [Finset.insert_eq_self.2 hagain, List.length_cons]
        omega

end

/-- Gives one colour in place of another. -/
def recolour {κ : Type} [DecidableEq κ] (old new colour : κ) : κ := if colour = old then new else colour

theorem card_le_card_recolour_add_one {κ : Type} [DecidableEq κ] (old new : κ) (colours : List κ) :
    colours.toFinset.card ≤ (colours.map (recolour old new)).toFinset.card + 1 := by
  have hsubset : colours.toFinset ⊆ insert old (colours.map (recolour old new)).toFinset := by
    intro colour hcolour
    rw [Finset.mem_insert]
    by_cases h : colour = old
    · exact .inl h
    · right
      rw [List.mem_toFinset] at hcolour ⊢
      exact List.mem_map.2 ⟨colour, hcolour, if_neg h⟩
  exact (Finset.card_le_card hsubset).trans (Finset.card_insert_le _ _)

theorem card_map_some {κ : Type} [DecidableEq κ] (colours : List κ) :
    (colours.map some).toFinset.card = colours.toFinset.card := by
  have himage : (colours.map some).toFinset = colours.toFinset.image some := by
    ext colour
    simp
  rw [himage, Finset.card_image_of_injective _ (Option.some_injective κ)]

/-- Any batch leaves the colours of positions in place for some colouring, in which each of its pairs has
cost one colour at most. -/
theorem exists_colours (swaps : List Swap) (size : Nat) :
    ∃ colours : List Nat, colours.length = size ∧ (∀ s ∈ swaps, s.Within colours) ∧
      size ≤ swaps.length + colours.toFinset.card := by
  induction swaps with
  | nil =>
    refine ⟨List.range size, List.length_range, List.forall_mem_nil _, ?_⟩
    rw [List.toFinset_card_of_nodup List.nodup_range, List.length_range]
    exact Nat.le_add_left _ _
  | cons s rest ih =>
    obtain ⟨colours, hlength, hrest, hcard⟩ := ih
    cases hpos : s.positions? size with
    | none =>
      refine ⟨colours, hlength, List.forall_mem_cons.2 ⟨?_, hrest⟩, ?_⟩
      · intro i j hij
        rw [hlength, hpos] at hij
        cases hij
      · rw [List.length_cons]
        omega
    | some p =>
      obtain ⟨i, j⟩ := p
      obtain ⟨⟨-, hi⟩, -, hj⟩ := positions?_eq_some_iff.1 hpos
      -- the two positions of the pair are given one colour
      have hfirst : colours[i]? = some colours[i] := List.getElem?_eq_getElem (by omega)
      have hsecond : colours[j]? = some colours[j] := List.getElem?_eq_getElem (by omega)
      refine ⟨colours.map (recolour colours[j] colours[i]), ?_, List.forall_mem_cons.2 ⟨?_, ?_⟩, ?_⟩
      · rw [List.length_map, hlength]
      · intro a b hab
        rw [List.length_map, hlength, hpos] at hab
        obtain ⟨rfl, rfl⟩ := Prod.mk.inj (Option.some.inj hab)
        rw [List.getElem?_map, List.getElem?_map, hfirst, hsecond]
        simp [recolour]
      · exact fun s hs => (hrest s hs).map _
      · have hlost := card_le_card_recolour_add_one colours[j] colours[i] colours
        rw [List.length_cons]
        omega

end Swap

/-- The groups were indexed from a list of this many slots, which need not be the present one. -/
def Grouping.Covers (size : Nat) (g : Grouping) : Prop :=
  ∃ showSegments separator slots, slots.length = size ∧ g = ofSlots showSegments separator slots

namespace Grouping

variable {g : Grouping} {size i j : Nat}

theorem Covers.length_slotGroups (h : g.Covers size) : g.slotGroups.length = size := by
  obtain ⟨showSegments, separator, slots, rfl, rfl⟩ := h
  exact slotCount_ofSlots showSegments separator slots

theorem Covers.exists_key (h : g.Covers size) (hi : i < size) : ∃ key, g.keyOf? i = some key := by
  obtain ⟨showSegments, separator, slots, rfl, rfl⟩ := h
  exact ⟨_, keyOf?_ofSlots (List.getElem?_eq_getElem hi)⟩

theorem covers_ofSlots (showSegments : Bool) (separator : String) (slots : List Slot) :
    (ofSlots showSegments separator slots).Covers slots.length :=
  ⟨showSegments, separator, slots, rfl, rfl⟩

theorem getElem?_eq_of_sameGroup (h : g.sameGroup i j = true) : g.slotGroups[i]? = g.slotGroups[j]? := by
  unfold sameGroup at h
  split at h
  · next x y hx hy => rw [hx, hy, beq_iff_eq.1 h]
  · cases h

theorem sameGroup_iff (hi : i < g.slotGroups.length) :
    g.sameGroup i j = true ↔ g.slotGroups[i]? = g.slotGroups[j]? := by
  refine ⟨getElem?_eq_of_sameGroup, fun h => ?_⟩
  rw [sameGroup, ← h, List.getElem?_eq_getElem hi]
  exact beq_self_eq_true _

end Grouping

namespace Swap

/-- For groups that cover the list, a pair is in order if and only if it stays within the group. -/
theorem respects_iff_within {g : Grouping} {size : Nat} (hg : g.Covers size) {s : Swap} :
    s.Respects g ↔ s.Within g.slotGroups := by
  have hviolation {i j : Nat} (hpos : s.positions? g.slotGroups.length = some (i, j)) (index : Nat) :
      s.violation? g index = none ↔ g.slotGroups[i]? = g.slotGroups[j]? := by
    obtain ⟨⟨-, hi⟩, -, hj⟩ := positions?_eq_some_iff.1 hpos
    obtain ⟨first, hfirst⟩ := hg.exists_key (hg.length_slotGroups ▸ hi)
    obtain ⟨second, hsecond⟩ := hg.exists_key (hg.length_slotGroups ▸ hj)
    rw [← Grouping.sameGroup_iff hi]
    change (s.positions? g.slotGroups.length).bind _ = none ↔ _
    simp [hpos, hfirst, hsecond]
  constructor
  · intro h i j hpos
    exact (hviolation hpos 0).1 (h 0)
  · intro h index
    cases hpos : s.positions? g.slotGroups.length with
    | none =>
      change (s.positions? g.slotGroups.length).bind _ = none
      rw [hpos]
      rfl
    | some p => exact (hviolation hpos index).2 (h p.1 p.2 hpos)

theorem violations_eq_nil_iff_within {g : Grouping} {size : Nat} (hg : g.Covers size) {swaps : List Swap} :
    violations swaps g = [] ↔ ∀ s ∈ swaps, s.Within g.slotGroups := by
  rw [violations_eq_nil_iff]
  exact forall₂_congr fun s _ => respects_iff_within hg

end Swap

end PivotTable
