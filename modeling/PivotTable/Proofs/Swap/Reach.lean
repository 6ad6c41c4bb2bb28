import PivotTable.Proofs.Swap.Colours
import PivotTable.Proofs.Swap.Mending

/-!
# Orders within reach

Swaps within groups reach an order if and only if every group keeps its labels. The planner repairs the order
by labels alone, always from the first wrong place that holds the label wanted, and its repairs are judged by
the groups only then; so a label that stands in two groups may be taken from the wrong one. Beside the walk
over the labels runs the walk over the labels with their groups, which stays within groups; unless the order
is tangled, both take the same swaps. Main statement: an order is granted exactly if its repairs stay within
groups, which they do for every order within reach that is not tangled.
-/
namespace PivotTable

def Grouping.Contains (g : Grouping) (swaps : List Swap) : Prop :=
  ∀ s ∈ swaps, ∃ i j, s = Swap.ofPositions i j ∧ g.sameGroup i j = true

/-- Some batch within groups leads from the one order to the other. -/
def Grouping.Reaches {α : Type} (g : Grouping) (current target : List α) : Prop :=
  ∃ swaps, g.Contains swaps ∧ Swap.exchangeAll swaps current = target

namespace Swap

/-- Four wrong places: the item of `i` is wanted neither at `j`, in another group, nor at `k`, in its own, and
it is wanted at `l`, in that other group. A search for it may find it at `j` before it comes to `k`. -/
def Tangled {α κ : Type} (colours : List κ) (current target : List α) : Prop :=
  ∃ i j k l : Nat, (i < j ∧ j < k ∧ i < l) ∧
    (colours[j]? ≠ colours[i]? ∧ colours[k]? = colours[i]? ∧ colours[l]? = colours[j]?) ∧
    (target[j]? ≠ target[i]? ∧ target[k]? ≠ target[i]? ∧ target[l]? = target[i]?) ∧
    ∀ p ∈ [i, j, k, l], current[p]? ≠ target[p]?

section

variable {α κ : Type} {current target : List α} {colours : List κ}

theorem Tangled.cons {next : List α} (h : Tangled colours next target)
    (hwrong : ∀ p : Nat, next[p]? ≠ target[p]? → current[p]? ≠ target[p]?) (colour : κ) (c t : α) :
    Tangled (colour :: colours) (c :: current) (t :: target) := by
  obtain ⟨i, j, k, l, ⟨hij, hjk, hil⟩, hcolours, hwanted, hplaces⟩ := h
  refine ⟨i + 1, j + 1, k + 1, l + 1,
    ⟨Nat.succ_lt_succ hij, Nat.succ_lt_succ hjk, Nat.succ_lt_succ hil⟩, hcolours, hwanted, ?_⟩
  simp only [List.forall_mem_cons, List.getElem?_cons_succ] at hplaces ⊢
  obtain ⟨hi, hj, hk, hl, -⟩ := hplaces
  exact ⟨hwrong i hi, hwrong j hj, hwrong k hk, hwrong l hl, List.forall_mem_nil _⟩

theorem fst_zip_colours {items : List α} (h : items.length = colours.length) :
    (items.zip colours).map Prod.fst = items :=
  List.map_fst_zip (Nat.le_of_eq h)

theorem snd_zip_colours {items : List α} (h : items.length = colours.length) :
    (items.zip colours).map Prod.snd = colours :=
  List.map_snd_zip (Nat.le_of_eq h.symm)

theorem exchangeAll_zip {swaps : List Swap} (hlength : current.length = colours.length)
    (h : ∀ s ∈ swaps, s.Within colours) :
    exchangeAll swaps (current.zip colours) = (exchangeAll swaps current).zip colours := by
  apply List.zip_of_prod
  · rw [map_exchangeAll, fst_zip_colours hlength]
  · rw [map_exchangeAll_of_within (by rwa [snd_zip_colours hlength]), snd_zip_colours hlength]

theorem zip_set {k : Nat} {colour : κ} (c : α) (hlength : current.length = colours.length)
    (hcolour : colours[k]? = some colour) :
    (current.zip colours).set k (c, colour) = (current.set k c).zip colours := by
  obtain ⟨hk, rfl⟩ := List.getElem?_eq_some_iff.1 hcolour
  apply List.zip_of_prod
  · rw [List.map_set, fst_zip_colours hlength]
  · rw [List.map_set, snd_zip_colours hlength, List.set_getElem_self]

theorem not_tangled_of_nodup (h : target.Nodup) (colours : List κ) (current : List α) :
    ¬ Tangled colours current target := by
  rintro ⟨i, j, k, l, ⟨hij, -, hil⟩, -, ⟨hj, -, hl⟩, -⟩
  have hi : i < target.length := by
    apply Decidable.byContradiction
    intro hi
    rw [List.getElem?_eq_none (by omega), List.getElem?_eq_none (by omega)] at hj
    exact hj rfl
  exact Nat.ne_of_lt hil ((List.getElem?_inj hi h).1 hl.symm)

end

section

variable {α κ : Type} [DecidableEq α] [DecidableEq κ] {current target : List α} {colours : List κ}

/-- Unless the order is tangled, the first wrong place that holds the item wanted in front has the colour of
the front, as some wrong place of that colour holds it. -/
theorem colour_of_first_wrong {c t : α} {colour : κ} {k m : Nat} (hcurrent : current.length = colours.length)
    (htarget : target.length = colours.length) (hc : c ≠ t)
    (hperm : ((c, colour) :: current.zip colours).Perm ((t, colour) :: target.zip colours))
    (hfree : ¬ Tangled (colour :: colours) (c :: current) (t :: target))
    (hk : current[k]? = some t) (hwrong : target[k]? ≠ some t)
    (hfirst : ∀ j < k, current[j]? = some t → target[j]? = some t)
    (hm : current[m]? = some t) (hmwrong : target[m]? ≠ some t) (hmcolour : colours[m]? = some colour) :
    colours[k]? = some colour := by
  apply Decidable.byContradiction
  intro hother
  obtain ⟨hklt, -⟩ := List.getElem?_eq_some_iff.1 hk
  have hkcolour : colours[k]? = some colours[k] := List.getElem?_eq_getElem (by omega)
  have hkm : k < m := by
    apply Decidable.byContradiction
    intro hle
    rcases Nat.lt_or_eq_of_le (Nat.le_of_not_lt hle) with hlt | rfl
    · exact hmwrong (hfirst m hlt hm)
    · exact hother hmcolour
  -- the other colour has the item in a wrong place, so it wants it in another
  have hne : colour ≠ colours[k] := fun h => hother (hkcolour.trans (congrArg some h.symm))
  have hcount : (current.zip colours).count (t, colours[k]) = (target.zip colours).count (t, colours[k]) := by
    have hboth := hperm.count_eq (t, colours[k])
    rwa [List.count_cons_of_ne fun h => hne (Prod.mk.inj h).2,
      List.count_cons_of_ne fun h => hne (Prod.mk.inj h).2] at hboth
  have hlength : (current.zip colours).length = (target.zip colours).length := by
    rw [List.length_zip, List.length_zip, hcurrent, htarget]
  have hkwrong : (target.zip colours)[k]? ≠ some (t, colours[k]) :=
    fun h => hwrong (List.getElem?_zip_eq_some.1 h).1
  obtain ⟨l, hl, hlwrong⟩ :=
    exists_wanted hlength hcount (List.getElem?_zip_eq_some.2 ⟨hk, hkcolour⟩) hkwrong
  obtain ⟨hltarget, hlcolour⟩ := List.getElem?_zip_eq_some.1 hl
  refine hfree ⟨0, k + 1, m + 1, l + 1, ⟨Nat.succ_pos k, Nat.succ_lt_succ hkm, Nat.succ_pos l⟩,
    ⟨hother, hmcolour, hlcolour.trans hkcolour.symm⟩, ⟨hwrong, hmwrong, hltarget⟩, ?_⟩
  simp only [List.forall_mem_cons, List.getElem?_cons_zero, List.getElem?_cons_succ]
  refine ⟨fun h => hc (Option.some.inj h), ?_, ?_, ?_, List.forall_mem_nil _⟩
  · rw [hk]
    exact hwrong.symm
  · rw [hm]
    exact hmwrong.symm
  · rw [hltarget]
    exact fun h => hlwrong (List.getElem?_zip_eq_some.2 ⟨h, hlcolour⟩)

theorem exists_source?_zip {c t : α} {colour : κ} (hcurrent : current.length = colours.length)
    (htarget : target.length = colours.length) (hc : c ≠ t)
    (hperm : ((c, colour) :: current.zip colours).Perm ((t, colour) :: target.zip colours))
    (hfree : ¬ Tangled (colour :: colours) (c :: current) (t :: target)) :
    ∃ k, source? t current target = some k ∧ colours[k]? = some colour ∧ target[k]? ≠ some t ∧
      source? (t, colour) (current.zip colours) (target.zip colours) = some k := by
  have hpair : (c, colour) ≠ (t, colour) := fun h => hc (Prod.mk.inj h).1
  have hlabels : (c :: current).Perm (t :: target) := by
    have hmapped := hperm.map Prod.fst
    rwa [List.map_cons, List.map_cons, fst_zip_colours hcurrent, fst_zip_colours htarget] at hmapped
  obtain ⟨k, hk, hwrong, hfirst⟩ := exists_first_wrong hlabels hc
  obtain ⟨m, hm, hmwrong, -⟩ := exists_first_wrong hperm hpair
  obtain ⟨hmitem, hmcolour⟩ := List.getElem?_zip_eq_some.1 hm
  have hmtarget : target[m]? ≠ some t := fun h => hmwrong (List.getElem?_zip_eq_some.2 ⟨h, hmcolour⟩)
  have hkcolour := colour_of_first_wrong hcurrent htarget hc hperm hfree hk hwrong hfirst hmitem hmtarget
    hmcolour
  refine ⟨k, source?_eq_some_of_first (hcurrent.trans htarget.symm) hk hwrong hfirst, hkcolour, hwrong, ?_⟩
  apply source?_eq_some_of_first
  · rw [List.length_zip, List.length_zip, hcurrent, htarget]
  · exact List.getElem?_zip_eq_some.2 ⟨hk, hkcolour⟩
  · exact fun h => hwrong (List.getElem?_zip_eq_some.1 h).1
  · intro j hj hitem
    obtain ⟨hitem, hjcolour⟩ := List.getElem?_zip_eq_some.1 hitem
    exact List.getElem?_zip_eq_some.2 ⟨hfirst j hj hitem, hjcolour⟩

theorem deltaFrom_zip {i : Nat} (hcurrent : current.length = colours.length)
    (htarget : target.length = colours.length)
    (hperm : (current.zip colours).Perm (target.zip colours)) (hfree : ¬ Tangled colours current target) :
    deltaFrom i current target = deltaFrom i (current.zip colours) (target.zip colours) := by
  induction target generalizing i current colours with
  | nil =>
    rw [List.zip_nil_left, deltaFrom, deltaFrom]
  | cons t target ih =>
    cases colours with
    | nil => simp at htarget
    | cons colour colours =>
      cases current with
      | nil => simp at hcurrent
      | cons c current =>
        have hbehind := Nat.succ.inj hcurrent
        have hwanted := Nat.succ.inj htarget
        rw [List.zip_cons_cons, List.zip_cons_cons] at hperm ⊢
        rw [deltaFrom, deltaFrom]
        by_cases hc : c = t
        · subst hc
          rw [if_pos rfl, if_pos rfl]
          exact ih hbehind hwanted hperm.cons_inv fun h => hfree (h.cons (fun _ hp => hp) colour c c)
        · have hpair : (c, colour) ≠ (t, colour) := fun h => hc (Prod.mk.inj h).1
          obtain ⟨k, hk, hcolour, hwrong, hzip⟩ := exists_source?_zip hbehind hwanted hc hperm hfree
          -- the walk only changes a place that was wrong before
          have hplaces (p : Nat) (hp : (current.set k c)[p]? ≠ target[p]?) : current[p]? ≠ target[p]? := by
            by_cases heq : k = p
            · rw [← heq, getElem?_of_source? hk]
              exact hwrong.symm
            · rwa [List.getElem?_set_ne heq] at hp
          have hset := zip_set c hbehind hcolour
          have hnext := perm_behind (getElem?_of_source? hzip) hperm
          rw [hset] at hnext
          rw [if_neg hc, if_neg hpair, hk, hzip, Option.bind_eq_bind, Option.bind_some,
            Option.bind_eq_bind, Option.bind_some, hset,
            ih (List.length_set.trans hbehind) hwanted hnext fun h => hfree (h.cons hplaces colour c t)]

theorem within_delta?_zip {delta : List Swap} (hcurrent : current.length = colours.length)
    (htarget : target.length = colours.length)
    (h : delta? (current.zip colours) (target.zip colours) = some delta) :
    ∀ s ∈ delta, s.Within colours := by
  have hagree := (snd_zip_colours hcurrent).trans (snd_zip_colours htarget).symm
  have hwithin := within_delta? hagree h
  rwa [snd_zip_colours htarget] at hwithin

theorem within_delta?_of_not_tangled {delta : List Swap} (hcurrent : current.length = colours.length)
    (htarget : target.length = colours.length)
    (hperm : (current.zip colours).Perm (target.zip colours)) (hfree : ¬ Tangled colours current target)
    (h : delta? current target = some delta) : ∀ s ∈ delta, s.Within colours := by
  have hwalk := (delta?_eq_some_iff.1 h).2
  rw [deltaFrom_zip hcurrent htarget hperm hfree] at hwalk
  exact within_delta?_zip hcurrent htarget (delta?_eq_some_iff.2 ⟨hperm, hwalk⟩)

end

end Swap

namespace Grouping

variable {α : Type} {g : Grouping} {current target : List α}

theorem contains_of_delta? [DecidableEq α] {delta : List Swap}
    (hlength : current.length = g.slotGroups.length) (h : Swap.delta? current target = some delta)
    (hwithin : ∀ s ∈ delta, s.Within g.slotGroups) : g.Contains delta := by
  intro s hs
  obtain ⟨i, j, rfl, hi, hj⟩ := Swap.mem_delta? h hs
  rw [hlength] at hi hj
  refine ⟨i, j, rfl, (sameGroup_iff hi).2 ?_⟩
  exact hwithin _ hs i j (Swap.positions?_eq_some_iff.2 ⟨⟨rfl, hi⟩, rfl, hj⟩)

theorem Contains.within {swaps : List Swap} (h : g.Contains swaps) : ∀ s ∈ swaps, s.Within g.slotGroups := by
  intro s hs
  obtain ⟨i, j, rfl, hgroup⟩ := h s hs
  exact Swap.within_ofPositions (getElem?_eq_of_sameGroup hgroup)

/-- Swaps within groups reach an order if and only if no item has to change its group. -/
theorem reaches_iff [DecidableEq α] (hcurrent : current.length = g.slotGroups.length)
    (htarget : target.length = g.slotGroups.length) :
    g.Reaches current target ↔ (current.zip g.slotGroups).Perm (target.zip g.slotGroups) := by
  constructor
  · rintro ⟨swaps, hcontains, rfl⟩
    rw [← Swap.exchangeAll_zip hcurrent hcontains.within]
    exact (Swap.exchangeAll_perm _ _).symm
  · intro hperm
    obtain ⟨delta, hdelta⟩ := Swap.exists_delta?_iff.2 hperm
    refine ⟨delta, contains_of_delta? ?_ hdelta (Swap.within_delta?_zip hcurrent htarget hdelta), ?_⟩
    · rw [List.length_zip, hcurrent, Nat.min_self]
    · have hmapped := congrArg (List.map Prod.fst) (Swap.exchangeAll_delta? hdelta)
      rwa [Swap.map_exchangeAll, Swap.fst_zip_colours hcurrent, Swap.fst_zip_colours htarget] at hmapped

end Grouping

namespace Plan

variable {slots : List Slot} {g : Grouping} {metrics : List String} {delta : List Swap}

theorem order_eq_ofDelta {groups : Option Grouping}
    (h : Swap.delta? (slots.map Slot.metric) metrics = some delta) :
    order slots groups metrics = ofDelta slots groups delta := by
  simp only [order, deltaBetween, h]
  rfl

theorem order_cases (hg : g.Covers slots.length)
    (h : Swap.delta? (slots.map Slot.metric) metrics = some delta) :
    ((∀ s ∈ delta, s.Within g.slotGroups) ∧
        order slots (some g) metrics = .ok ⟨delta, Swap.exchangeAll delta slots⟩) ∨
      ((¬ ∀ s ∈ delta, s.Within g.slotGroups) ∧
        ∃ violations, order slots (some g) metrics = .error (.crossGroup violations)) := by
  have hlegal : Swap.Legal delta (some g) ↔ ∀ s ∈ delta, s.Within g.slotGroups :=
    Swap.legal_some.trans (Swap.violations_eq_nil_iff_within hg)
  rw [order_eq_ofDelta h, ← hlegal]
  by_cases hallowed : Swap.Legal delta (some g)
  · exact .inl ⟨hallowed, ofDelta_of_legal hallowed⟩
  · have hrefused : ∃ violations, violations ≠ [] ∧
        ofDelta slots (some g) delta = .error (.crossGroup violations) :=
      ofDelta_of_not_legal hallowed
    exact .inr ⟨hallowed, hrefused.imp fun _ h => h.2⟩

theorem exists_order_iff (hg : g.Covers slots.length)
    (h : Swap.delta? (slots.map Slot.metric) metrics = some delta) :
    (∃ plan, order slots (some g) metrics = .ok plan) ↔ ∀ s ∈ delta, s.Within g.slotGroups := by
  obtain ⟨hwithin, hgranted⟩ | ⟨hcross, violations, hrefused⟩ := order_cases hg h
  · exact iff_of_true ⟨_, hgranted⟩ hwithin
  · refine iff_of_false ?_ hcross
    rintro ⟨plan, hplan⟩
    cases hrefused.symm.trans hplan

/-- A planned order is one within reach, and it is granted exactly if the repairs that lead to it stay within
groups. An order within reach is granted unless it is tangled, so whenever its metrics are distinct. -/
theorem order_granted_iff (showSegments : Bool) (separator : String) {slots : List Slot}
    {metrics : List String} (hperm : metrics.Perm (slots.map Slot.metric)) :
    let g := Grouping.ofSlots showSegments separator slots
    let current := slots.map Slot.metric
    (∀ plan, order slots (some g) metrics = .ok plan →
        g.Reaches current metrics ∧ plan.slots.map Slot.metric = metrics) ∧
      (∀ e, order slots (some g) metrics = .error e → ∃ violations, e = .crossGroup violations) ∧
      ((∃ plan, order slots (some g) metrics = .ok plan) ↔
        ∃ swaps, g.Contains swaps ∧ Swap.Repairs metrics swaps current) ∧
      (g.Reaches current metrics → ¬ Swap.Tangled g.slotGroups current metrics →
        ∃ plan, order slots (some g) metrics = .ok plan) ∧
      (metrics.Nodup → g.Reaches current metrics → ∃ plan, order slots (some g) metrics = .ok plan) := by
  intro g current
  have hg : g.Covers slots.length := Grouping.covers_ofSlots showSegments separator slots
  have hcurrent : current.length = g.slotGroups.length := by
    rw [List.length_map, hg.length_slotGroups]
  have htarget : metrics.length = g.slotGroups.length := hperm.length_eq.trans hcurrent
  obtain ⟨delta, hdelta⟩ := Swap.exists_delta?_iff.2 hperm.symm
  have hgranted := exists_order_iff hg hdelta
  have huntangled (hreach : g.Reaches current metrics) (hfree : ¬ Swap.Tangled g.slotGroups current metrics) :
      ∃ plan, order slots (some g) metrics = .ok plan := by
    have hzip := (Grouping.reaches_iff hcurrent htarget).1 hreach
    exact hgranted.2 (Swap.within_delta?_of_not_tangled hcurrent htarget hzip hfree hdelta)
  refine ⟨?_, ?_, ⟨?_, ?_⟩, huntangled, fun hnodup hreach => ?_⟩
  · intro plan hplan
    have hwithin := hgranted.1 ⟨plan, hplan⟩
    have hreached := Swap.exchangeAll_delta? hdelta
    obtain ⟨-, hfound⟩ | ⟨hcross, -⟩ := order_cases hg hdelta
    · obtain rfl := Except.ok.inj (hfound.symm.trans hplan)
      exact ⟨⟨delta, Grouping.contains_of_delta? hcurrent hdelta hwithin, hreached⟩,
        by rw [Swap.map_exchangeAll, hreached]⟩
    · exact absurd hwithin hcross
  · intro e he
    obtain ⟨-, hfound⟩ | ⟨-, violations, hrefused⟩ := order_cases hg hdelta
    · cases hfound.symm.trans he
    · exact ⟨violations, Except.error.inj (he.symm.trans hrefused)⟩
  · intro hplan
    exact ⟨delta, Grouping.contains_of_delta? hcurrent hdelta (hgranted.1 hplan), Swap.repairs_iff.2 hdelta⟩
  · rintro ⟨swaps, hcontains, hrepairs⟩
    obtain rfl := Option.some.inj (hdelta.symm.trans (Swap.repairs_iff.1 hrepairs))
    exact hgranted.2 hcontains.within
  · exact huntangled hreach (Swap.not_tangled_of_nodup hnodup g.slotGroups current)

theorem order_granted_iff_interleaved :
    let slots : List Slot := [.placed ⟨"A", "", "", ""⟩ "a", .placed ⟨"B", "", "", ""⟩ "a",
      .placed ⟨"A", "", "", ""⟩ "b", .placed ⟨"B", "", "", ""⟩ "b"]
    let g := Grouping.ofSlots true " / " slots
    let metrics := ["b", "b", "a", "a"]
    let swaps : List Swap := [.ofPositions 0 2, .ofPositions 1 3]
    metrics.Perm (slots.map Slot.metric) ∧
      (g.Contains swaps ∧ Swap.Repairs metrics swaps (slots.map Slot.metric)) ∧
      ∃ plan, order slots (some g) metrics = .ok plan ∧ plan.slots.map Slot.metric = metrics := by
  intro slots g metrics swaps
  have hperm : metrics.Perm (slots.map Slot.metric) := by decide
  have hcontains : g.Contains swaps :=
    List.forall_mem_cons.2 ⟨⟨0, 2, rfl, by decide⟩, List.forall_mem_singleton.2 ⟨1, 3, rfl, by decide⟩⟩
  have hfirst : Swap.Mends metrics (slots.map Slot.metric) 0 2 :=
    ⟨by decide, by decide, by decide, by decide, "b", rfl, by decide⟩
  have hsecond : Swap.Mends metrics ["b", "a", "a", "b"] 1 3 :=
    ⟨by decide, by decide, by decide, by decide, "b", rfl, by decide⟩
  have hrepairs : Swap.Repairs metrics swaps (slots.map Slot.metric) :=
    .repair rfl hfirst (.repair rfl hsecond .done)
  obtain ⟨hgranted, -, hexactly, -⟩ := order_granted_iff true " / " hperm
  obtain ⟨plan, hplan⟩ := hexactly.2 ⟨swaps, hcontains, hrepairs⟩
  exact ⟨hperm, ⟨hcontains, hrepairs⟩, plan, hplan, (hgranted plan hplan).2⟩

/-- Two swaps within groups reach the order, but the item for the first place is taken from the place next to
it, which is in another group. -/
theorem order_refused_within_reach :
    let slots : List Slot := [.placed ⟨"A", "", "", ""⟩ "a", .placed ⟨"B", "", "", ""⟩ "b",
      .placed ⟨"B", "", "", ""⟩ "a", .placed ⟨"A", "", "", ""⟩ "b"]
    let g := Grouping.ofSlots true " / " slots
    ["b", "a", "b", "a"].Perm (slots.map Slot.metric) ∧
      g.Reaches (slots.map Slot.metric) ["b", "a", "b", "a"] ∧
      ¬ ∃ plan, order slots (some g) ["b", "a", "b", "a"] = .ok plan := by
  intro slots g
  refine ⟨by decide, ⟨[.ofPositions 0 3, .ofPositions 1 2], ?_, by decide⟩, ?_⟩
  · refine List.forall_mem_cons.2 ⟨⟨0, 3, rfl, by decide⟩, ?_⟩
    exact List.forall_mem_singleton.2 ⟨1, 2, rfl, by decide⟩
  · rintro ⟨plan, hplan⟩
    have hrefused : order slots (some g) ["b", "a", "b", "a"] =
        .error (.crossGroup [⟨0, .ofPositions 0 1, "A", "B"⟩, ⟨1, .ofPositions 2 3, "B", "A"⟩]) := by
      rfl
    rw [hrefused] at hplan
    cases hplan

end Plan

end PivotTable
