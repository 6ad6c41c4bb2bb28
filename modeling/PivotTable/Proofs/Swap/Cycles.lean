import Mathlib.Data.List.FinRange
import Mathlib.Data.List.NodupEquivFin
import Mathlib.GroupTheory.Perm.Cycle.Basic
import Mathlib.SetTheory.Cardinal.Finite
import PivotTable.Proofs.Swap.Colours

/-!
# Deltas are as short as possible

Two orders of the same distinct items differ by a permutation of positions. Colours that both orders agree
in are constant on its cycles, and the cycles themselves are such colours, so no batch between the orders is
shorter than the number of positions less the number of cycles. Main statement: a delta has just this
length.
-/
namespace PivotTable

/-- The cycles of a permutation of positions; a position that keeps its place is a cycle of its own. -/
abbrev Cycles {n : Nat} (σ : Equiv.Perm (Fin n)) : Type := Quotient (Equiv.Perm.SameCycle.setoid σ)

noncomputable def cycleCount {n : Nat} (σ : Equiv.Perm (Fin n)) : Nat := Nat.card (Cycles σ)

namespace Swap

section

variable {α κ : Type} {current target : List α}

/-- The permutation takes the position of each item to the position of that item in the other order. -/
def Rearranges (current target : List α) (σ : Equiv.Perm (Fin current.length)) : Prop :=
  ∀ i, target[(σ i : Nat)]? = some current[i]

theorem map_eq_map_iff {f : α → κ} {σ : Equiv.Perm (Fin current.length)}
    (hlength : target.length = current.length) (hσ : Rearranges current target σ) :
    target.map f = current.map f ↔ ∀ i, f current[σ i] = f current[i] := by
  have htarget (i : Fin current.length) : (target.map f)[(σ i : Nat)]? = some (f current[i]) := by
    rw [List.getElem?_map, hσ i, Option.map_some]
  have hcurrent (i : Fin current.length) : (current.map f)[(σ i : Nat)]? = some (f current[σ i]) := by
    rw [List.getElem?_map, List.getElem?_eq_getElem (σ i).isLt, Option.map_some]
    rfl
  constructor
  · intro h i
    have hi := htarget i
    rw [h, hcurrent] at hi
    exact Option.some.inj hi
  · intro h
    apply List.ext_getElem?
    intro p
    by_cases hp : p < current.length
    · obtain ⟨i, hi⟩ := σ.surjective ⟨p, hp⟩
      have hplace : (σ i : Nat) = p := congrArg Fin.val hi
      rw [← hplace, htarget, hcurrent, h]
    · rw [List.getElem?_eq_none (by rw [List.length_map]; omega),
        List.getElem?_eq_none (by rw [List.length_map]; omega)]

theorem eq_of_sameCycle {n : Nat} {σ : Equiv.Perm (Fin n)} (colour : Fin n → κ)
    (h : ∀ i, colour (σ i) = colour i) {i j : Fin n} (hij : σ.SameCycle i j) : colour i = colour j := by
  obtain ⟨steps, rfl⟩ := hij.exists_nat_pow_eq
  induction steps with
  | zero => rfl
  | succ steps ih =>
    rw [pow_succ', Equiv.Perm.mul_apply, h]
    exact ih ⟨steps, rfl⟩

theorem card_le_cycleCount [DecidableEq κ] {f : α → κ} {σ : Equiv.Perm (Fin current.length)}
    (h : ∀ i, f current[σ i] = f current[i]) : (current.map f).toFinset.card ≤ cycleCount σ := by
  have : Fintype (Cycles σ) := Fintype.ofFinite _
  let colour : Cycles σ → κ :=
    Quotient.lift (fun i => f current[i]) fun i j hij => eq_of_sameCycle (fun i => f current[i]) h hij
  have hsubset : (current.map f).toFinset ⊆ Finset.univ.image colour := by
    intro x hx
    obtain ⟨item, hitem, rfl⟩ := List.mem_map.1 (List.mem_toFinset.1 hx)
    obtain ⟨p, hp, rfl⟩ := List.getElem_of_mem hitem
    exact Finset.mem_image.2 ⟨Quotient.mk _ ⟨p, hp⟩, Finset.mem_univ _, rfl⟩
  calc (current.map f).toFinset.card
      ≤ (Finset.univ.image colour).card := Finset.card_le_card hsubset
    _ ≤ Fintype.card (Cycles σ) := Finset.card_image_le
    _ = cycleCount σ := Nat.card_eq_fintype_card.symm

end

section

variable {α κ : Type} [DecidableEq α] {current target : List α}

def colourOf? (current : List α) (colours : List κ) (item : α) : Option κ :=
  colours[current.idxOf item]?

theorem colourOf?_getElem (hnodup : current.Nodup) (colours : List κ) (i : Fin current.length) :
    colourOf? current colours current[i] = colours[i]? := by
  have hplace : current.idxOf current[i] = i := hnodup.idxOf_getElem i i.isLt
  rw [colourOf?, hplace]
  rfl

theorem map_colourOf? (hnodup : current.Nodup) {colours : List κ}
    (hlength : colours.length = current.length) :
    current.map (colourOf? current colours) = colours.map some := by
  apply List.ext_getElem
  · rw [List.length_map, List.length_map, hlength]
  · intro p hp hq
    rw [List.length_map] at hp
    rw [List.getElem_map, List.getElem_map]
    exact (colourOf?_getElem hnodup colours ⟨p, hp⟩).trans (List.getElem?_eq_getElem (by omega))

theorem exists_rearranges (hnodup : current.Nodup) (hperm : target.Perm current) :
    ∃ σ, Rearranges current target σ := by
  have htarget : target.Nodup := hperm.nodup_iff.2 hnodup
  let items : {x // x ∈ current} ≃ {x // x ∈ target} :=
    Equiv.subtypeEquivRight fun x => hperm.mem_iff.symm
  let places : Fin current.length ≃ Fin target.length :=
    (hnodup.getEquiv current).trans (items.trans (htarget.getEquiv target).symm)
  refine ⟨places.trans (finCongr hperm.length_eq), fun i => ?_⟩
  have hplace : htarget.getEquiv target (places i) = items (hnodup.getEquiv current i) :=
    Equiv.apply_symm_apply _ _
  have hitem : target[places i] = current[i] := congrArg Subtype.val hplace
  rw [← hitem]
  exact List.getElem?_eq_getElem (places i).isLt

variable {σ : Equiv.Perm (Fin current.length)}

/-- Every batch between the two orders leaves as many colours in place as its length allows, and there are
no more of these than cycles. -/
theorem length_le_add_cycleCount (hnodup : current.Nodup) (hσ : Rearranges current target σ)
    {swaps : List Swap} (h : exchangeAll swaps current = target) :
    current.length ≤ swaps.length + cycleCount σ := by
  obtain ⟨colours, hlength, hwithin, hcard⟩ := exists_colours swaps current.length
  have hplaces := map_colourOf? hnodup hlength
  have hkept : target.map (colourOf? current colours) = current.map (colourOf? current colours) := by
    rw [← h]
    apply map_exchangeAll_of_within
    rw [hplaces]
    exact fun s hs => (hwithin s hs).map some
  have htarget : target.length = current.length := by
    rw [← h, length_exchangeAll]
  have hcycles := card_le_cycleCount ((map_eq_map_iff htarget hσ).1 hkept)
  rw [hplaces, card_map_some] at hcycles
  omega

/-- The cycles are colours that both orders agree in, so a delta has few enough swaps to keep them. -/
theorem length_deltaFrom_add_cycleCount_le (hnodup : current.Nodup) (hlength : target.length = current.length)
    (hσ : Rearranges current target σ) {i : Nat} {delta : List Swap}
    (h : deltaFrom i current target = some delta) : delta.length + cycleCount σ ≤ current.length := by
  classical
  have : Fintype (Cycles σ) := Fintype.ofFinite _
  let cycleOf : Fin current.length → Cycles σ := Quotient.mk _
  let colours : List (Cycles σ) := (List.finRange current.length).map cycleOf
  have hcolours : colours.length = current.length := by
    rw [List.length_map, List.length_finRange]
  have hcolour (i : Fin current.length) : colourOf? current colours current[i] = some (cycleOf i) := by
    rw [colourOf?_getElem hnodup]
    simp [colours]
  have hkept : target.map (colourOf? current colours) = current.map (colourOf? current colours) := by
    refine (map_eq_map_iff hlength hσ).2 fun i => ?_
    have hsame : cycleOf (σ i) = cycleOf i := Quotient.sound ⟨-1, by simp⟩
    rw [hcolour, hcolour, hsame]
  have hall : colours.toFinset = Finset.univ := by
    refine Finset.eq_univ_of_forall fun cycle => ?_
    obtain ⟨i, rfl⟩ := Quotient.exists_rep cycle
    exact List.mem_toFinset.2 (List.mem_map_of_mem (List.mem_finRange i))
  have hcount : (target.map (colourOf? current colours)).toFinset.card = cycleCount σ := by
    rw [hkept, map_colourOf? hnodup hcolours, card_map_some, hall, Finset.card_univ]
    exact Nat.card_eq_fintype_card.symm
  have hle := length_deltaFrom_add_card_le hkept.symm h
  rwa [hcount, hlength] at hle

end

end Swap

namespace Plan

/-- Between two orders of the same distinct items the delta has as many swaps as there are positions less
cycles, and no other batch between them has fewer. -/
theorem deltaBetween_minimal {α : Type} [DecidableEq α] {current target : List α}
    (hnodup : current.Nodup) (hperm : target.Perm current) :
    ∃ delta, deltaBetween current target = .ok delta ∧
      (∃ σ, Swap.Rearranges current target σ) ∧
      (∀ σ, Swap.Rearranges current target σ → delta.length + cycleCount σ = current.length) ∧
      ∀ swaps, Swap.exchangeAll swaps current = target → delta.length ≤ swaps.length := by
  obtain ⟨σ, hσ⟩ := Swap.exists_rearranges hnodup hperm
  obtain ⟨delta, hdelta⟩ := Swap.exists_delta?_iff.2 hperm.symm
  obtain ⟨-, hwalk⟩ := Swap.delta?_eq_some_iff.1 hdelta
  have hcount (τ) (hτ : Swap.Rearranges current target τ) :
      delta.length + cycleCount τ = current.length :=
    Nat.le_antisymm (Swap.length_deltaFrom_add_cycleCount_le hnodup hperm.length_eq hτ hwalk)
      (Swap.length_le_add_cycleCount hnodup hτ (Swap.exchangeAll_delta? hdelta))
  refine ⟨delta, ?_, ⟨σ, hσ⟩, hcount, ?_⟩
  · rw [deltaBetween, hdelta]
  · intro swaps h
    have hlower := Swap.length_le_add_cycleCount hnodup hσ h
    have hexact := hcount σ hσ
    omega

theorem deltaBetween_minimal_fourAndOne :
    (["a", "b", "c", "d", "e"].Nodup ∧ ["c", "a", "e", "d", "b"].Perm ["a", "b", "c", "d", "e"]) ∧
      deltaBetween ["a", "b", "c", "d", "e"] ["c", "a", "e", "d", "b"] =
        .ok [.ofPositions 0 2, .ofPositions 1 2, .ofPositions 2 4] ∧
      ∀ swaps, Swap.exchangeAll swaps ["a", "b", "c", "d", "e"] = ["c", "a", "e", "d", "b"] →
        3 ≤ swaps.length := by
  have hnodup : ["a", "b", "c", "d", "e"].Nodup := by decide
  have hperm : ["c", "a", "e", "d", "b"].Perm ["a", "b", "c", "d", "e"] := by decide
  have hdelta : deltaBetween ["a", "b", "c", "d", "e"] ["c", "a", "e", "d", "b"] =
      .ok [.ofPositions 0 2, .ofPositions 1 2, .ofPositions 2 4] := by decide
  obtain ⟨delta, hfound, -, -, hminimal⟩ := deltaBetween_minimal hnodup hperm
  rw [hdelta] at hfound
  obtain rfl := Except.ok.inj hfound
  exact ⟨⟨hnodup, hperm⟩, hdelta, hminimal⟩

end Plan

end PivotTable
