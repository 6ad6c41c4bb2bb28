import PivotTable.Proofs.Swap.Delta

/-!
# Deltas undo nothing

A position is misplaced if it holds another item than the one wanted there. Every swap of a delta joins two
positions that are misplaced when its turn comes, and puts the first of them right, so positions that are right
stay as they are, also where items repeat. A delta is thus a run of repairs, and there is only one such run.
Main statement: every swap of a delta mends the order it meets, the delta is worked off from the front, and it
has fewer swaps than there are misplaced positions.
-/
namespace PivotTable

namespace Swap

theorem getElem?_exchange_of_ne {α : Type} {i j p : Nat} (hi : p ≠ i) (hj : p ≠ j) (items : List α) :
    ((ofPositions i j).exchange items)[p]? = items[p]? := by
  cases hpos : (ofPositions i j).positions? items.length with
  | none => rw [exchange_eq_self hpos]
  | some q =>
    obtain ⟨⟨hfirst, hq⟩, hsecond, hq'⟩ := positions?_eq_some_iff.1 hpos
    obtain rfl : i = q.1 := Int.ofNat.inj hfirst
    obtain rfl : j = q.2 := Int.ofNat.inj hsecond
    rw [exchange_eq_exchangeAt hpos]
    exact (exchanged_exchangeAt hq hq').others p hi hj

theorem getElem?_eq_of_take_eq {α : Type} {a b : List α} {n p : Nat} (h : a.take n = b.take n) (hp : p < n) :
    a[p]? = b[p]? := by
  rw [← List.getElem?_take_of_lt hp, h, List.getElem?_take_of_lt hp]

variable {α : Type} [DecidableEq α] {current target done items : List α}

def misplaced (current target : List α) : Nat := (current.zip target).countP fun (c, t) => c ≠ t

theorem misplaced_cons (c t : α) (current target : List α) :
    misplaced (c :: current) (t :: target) = misplaced current target + if c = t then 0 else 1 := by
  rw [misplaced, misplaced, List.zip_cons_cons, List.countP_cons]
  by_cases h : c = t <;> simp [h]

theorem misplaced_pos {k : Nat} {c : α} (hlength : current.length = target.length) (hk : current[k]? = some c)
    (hwrong : target[k]? ≠ some c) : 0 < misplaced current target := by
  obtain ⟨hlt, rfl⟩ := List.getElem?_eq_some_iff.1 hk
  rw [List.getElem?_eq_getElem (by omega)] at hwrong
  have hzip : k < (current.zip target).length := by
    rw [List.length_zip]
    omega
  exact List.countP_pos_iff.2 ⟨(current[k], target[k]), List.mem_iff_getElem.2 ⟨k, hzip, List.getElem_zip⟩,
    decide_eq_true fun h => hwrong (congrArg some h.symm)⟩

theorem misplaced_set_le {k : Nat} {c : α} (x : α) (hk : current[k]? = some c) (hwrong : target[k]? ≠ some c) :
    misplaced (current.set k x) target ≤ misplaced current target := by
  induction current generalizing k target with
  | nil => exact Nat.le_refl _
  | cons head current ih =>
    cases target with
    | nil => simp [misplaced]
    | cons t target =>
      cases k with
      | zero =>
        obtain rfl := Option.some.inj hk
        have hne : head ≠ t := fun h => hwrong (congrArg some h.symm)
        rw [List.set_cons_zero, misplaced_cons, misplaced_cons, if_neg hne]
        split <;> omega
      | succ k =>
        rw [List.set_cons_succ, misplaced_cons, misplaced_cons]
        exact Nat.add_le_add_right (ih hk hwrong) _

/-- A swap of two misplaced positions, the second of them the first wrong place behind the other that holds
the item wanted there. -/
structure Mends (target items : List α) (i j : Nat) : Prop where
  ordered : i < j
  inside : j < target.length
  first : items[i]? ≠ target[i]?
  second : items[j]? ≠ target[j]?
  found : ∃ wanted, target[i]? = some wanted ∧
    firstWrong? wanted (items.drop (i + 1)) (target.drop (i + 1)) = some (j - (i + 1))

/-- The first wrong position is mended, and so on until the target is reached. -/
inductive Repairs (target : List α) : List Swap → List α → Prop
  | done : Repairs target [] target
  | repair {items : List α} {i j : Nat} {swaps : List Swap} (front : items.take i = target.take i)
      (mends : Mends target items i j) (rest : Repairs target swaps ((ofPositions i j).exchange items)) :
      Repairs target (ofPositions i j :: swaps) items

-- as the right places are too few, the item wanted in front is taken from a wrong one
theorem deltaFrom_cons_cases_of_perm {i : Nat} {c t : α} {delta : List Swap}
    (hperm : (c :: current).Perm (t :: target)) (h : deltaFrom i (c :: current) (t :: target) = some delta) :
    (c = t ∧ current.Perm target ∧ deltaFrom (i + 1) current target = some delta) ∨
      (c ≠ t ∧ ∃ k rest, firstWrong? t current target = some k ∧ current[k]? = some t ∧ target[k]? ≠ some t ∧
        (current.set k c).Perm target ∧ deltaFrom (i + 1) (current.set k c) target = some rest ∧
        delta = ofPositions i (i + 1 + k) :: rest) := by
  obtain ⟨rfl, hpassed⟩ | ⟨hc, k, rest, hk, hrest, rfl⟩ := deltaFrom_cons_cases h
  · exact .inl ⟨rfl, hperm.cons_inv, hpassed⟩
  · obtain ⟨place, hplace, hwrong, hfirst⟩ := exists_first_wrong hperm hc
    have hfound := firstWrong?_eq_some_of_first (Nat.succ.inj hperm.length_eq) hplace hwrong hfirst
    obtain rfl := Option.some.inj (hk.symm.trans (source?_of_firstWrong? hfound))
    exact .inr ⟨hc, k, rest, hfound, hplace, hwrong, perm_behind hplace hperm, hrest, rfl⟩

theorem mends_front {c t : α} {k : Nat} (hlength : current.length = target.length) (hc : c ≠ t)
    (hfound : firstWrong? t current target = some k) (hk : current[k]? = some t) (hwrong : target[k]? ≠ some t) :
    Mends (done ++ t :: target) (done ++ c :: current) done.length (done.length + 1 + k) := by
  obtain ⟨hlt, -⟩ := List.getElem?_eq_some_iff.1 hk
  have hfront (x : α) (rest : List α) : (done ++ x :: rest)[done.length]? = some x := by simp
  have hback (x : α) (rest : List α) : (done ++ x :: rest)[done.length + 1 + k]? = rest[k]? := by
    rw [List.getElem?_append_right (by omega), Nat.add_assoc, Nat.add_sub_cancel_left, Nat.add_comm 1 k,
      List.getElem?_cons_succ]
  have hdrop (x : α) (rest : List α) : (done ++ x :: rest).drop (done.length + 1) = rest := by
    rw [List.append_cons, List.drop_left' (by simp)]
  refine ⟨by omega, ?_, ?_, ?_, t, hfront t target, ?_⟩
  · rw [List.length_append, List.length_cons]
    omega
  · rw [hfront, hfront]
    exact fun h => hc (Option.some.inj h)
  · rw [hback, hback, hk]
    exact fun h => hwrong h.symm
  · rw [hdrop, hdrop, Nat.add_sub_cancel_left]
    exact hfound

theorem repairs_deltaFrom {delta : List Swap} (hperm : current.Perm target)
    (h : deltaFrom done.length current target = some delta) :
    Repairs (done ++ target) delta (done ++ current) := by
  induction target generalizing current done delta with
  | nil =>
    obtain rfl := hperm.eq_nil
    rw [deltaFrom] at h
    obtain rfl := Option.some.inj h
    exact .done
  | cons t target ih =>
    cases current with
    | nil => exact absurd hperm.length_eq (by simp)
    | cons c current =>
      have hcount : done.length + 1 = (done ++ [t]).length := by simp
      obtain ⟨rfl, hbehind, hpassed⟩ | ⟨hc, k, rest, hfound, hplace, hwrong, hbehind, hrest, rfl⟩ :=
        deltaFrom_cons_cases_of_perm hperm h
      · rw [hcount] at hpassed
        rw [List.append_cons done c target, List.append_cons done c current]
        exact ih hbehind hpassed
      · have hfront : (done ++ c :: current).take done.length = (done ++ t :: target).take done.length := by
          rw [List.take_left, List.take_left]
        refine .repair hfront (mends_front (Nat.succ.inj hperm.length_eq) hc hfound hplace hwrong) ?_
        rw [exchange_front hplace, List.append_cons done t target, List.append_cons done t (current.set k c)]
        rw [hcount] at hrest
        exact ih hbehind hrest

theorem repairs_delta? {delta : List Swap} (h : delta? current target = some delta) :
    Repairs target delta current := by
  obtain ⟨hperm, hwalk⟩ := delta?_eq_some_iff.1 h
  have hrepairs : Repairs ([] ++ target) delta ([] ++ current) := repairs_deltaFrom hperm hwalk
  rwa [List.nil_append, List.nil_append] at hrepairs

theorem Mends.spares {i j p : Nat} (h : Mends target items i j) (hright : items[p]? = target[p]?) :
    p ≠ i ∧ p ≠ j ∧ ((ofPositions i j).exchange items)[p]? = target[p]? := by
  have hi : p ≠ i := fun hp => h.first (hp ▸ hright)
  have hj : p ≠ j := fun hp => h.second (hp ▸ hright)
  exact ⟨hi, hj, (getElem?_exchange_of_ne hi hj items).trans hright⟩

namespace Repairs

variable {delta front rest : List Swap} {s : Swap} {p : Nat}

theorem mends (h : Repairs target (front ++ s :: rest) items) :
    ∃ i j, s = ofPositions i j ∧ Mends target (exchangeAll front items) i j := by
  induction front generalizing items with
  | nil =>
    cases h with
    | repair _ step => exact ⟨_, _, rfl, step⟩
  | cons head front ih =>
    cases h with
    | repair _ _ hrest => exact ih hrest

theorem spares (h : Repairs target delta items) (hright : items[p]? = target[p]?) :
    ∀ s ∈ delta, s.first ≠ p ∧ s.second ≠ p := by
  induction h with
  | done => exact List.forall_mem_nil _
  | @repair items i j swaps _ step _ ih =>
    obtain ⟨hi, hj, hstays⟩ := step.spares hright
    refine List.forall_mem_cons.2 ⟨⟨?_, ?_⟩, ih hstays⟩
    · exact fun h => hi (Int.ofNat.inj h).symm
    · exact fun h => hj (Int.ofNat.inj h).symm

theorem keeps (h : Repairs target (front ++ rest) items) (hright : items[p]? = target[p]?) :
    (exchangeAll front items)[p]? = target[p]? := by
  induction front generalizing items with
  | nil => exact hright
  | cons head front ih =>
    cases h with
    | repair _ step hrest =>
      obtain ⟨-, -, hstays⟩ := step.spares hright
      exact ih hrest hstays

theorem exchangeAll_eq (h : Repairs target delta items) : exchangeAll delta items = target := by
  induction h with
  | done => rfl
  | repair _ _ _ ih => exact ih

theorem unique {other : List Swap} (h : Repairs target delta items) (hother : Repairs target other items) :
    delta = other := by
  induction h generalizing other with
  | done =>
    cases hother with
    | done => rfl
    | repair _ step => exact absurd rfl step.first
  | @repair items i j swaps front step _ ih =>
    cases hother with
    | done => exact absurd rfl step.first
    | @repair _ i' j' swaps' front' step' hrest =>
      -- the order that has been reached tells which two positions come next
      obtain rfl : i = i' := by
        rcases Nat.lt_trichotomy i i' with hlt | heq | hgt
        · exact absurd (getElem?_eq_of_take_eq front' hlt) step.first
        · exact heq
        · exact absurd (getElem?_eq_of_take_eq front hgt) step'.first
      obtain ⟨wanted, hwanted, hfound⟩ := step.found
      obtain ⟨wanted', hwanted', hfound'⟩ := step'.found
      obtain rfl := Option.some.inj (hwanted.symm.trans hwanted')
      have hplaces := Option.some.inj (hfound.symm.trans hfound')
      have hbehind := step.ordered
      have hbehind' := step'.ordered
      obtain rfl : j = j' := by omega
      rw [ih hrest]

end Repairs

theorem repairs_iff {delta : List Swap} : Repairs target delta current ↔ delta? current target = some delta := by
  refine ⟨fun h => ?_, repairs_delta?⟩
  have hperm : current.Perm target := by
    rw [← h.exchangeAll_eq]
    exact (exchangeAll_perm delta current).symm
  obtain ⟨found, hfound⟩ := exists_delta?_iff.2 hperm
  rw [h.unique (repairs_delta? hfound), hfound]

theorem pairwise_first_deltaFrom {i : Nat} {delta : List Swap} (h : deltaFrom i current target = some delta) :
    (∀ s ∈ delta, (i : Int) ≤ s.first) ∧ (delta.map Swap.first).Pairwise (· < ·) := by
  induction target generalizing i current delta with
  | nil =>
    rw [deltaFrom] at h
    obtain rfl := Option.some.inj h
    exact ⟨List.forall_mem_nil _, List.Pairwise.nil⟩
  | cons t target ih =>
    cases current with
    | nil => simp [deltaFrom] at h
    | cons c current =>
      obtain ⟨-, h⟩ | ⟨-, k, rest, -, hrest, rfl⟩ := deltaFrom_cons_cases h
      · obtain ⟨hbound, hordered⟩ := ih h
        exact ⟨fun s hs => by have := hbound s hs; omega, hordered⟩
      · obtain ⟨hbound, hordered⟩ := ih hrest
        refine ⟨List.forall_mem_cons.2 ⟨Int.le_refl _, fun s hs => ?_⟩, ?_⟩
        · have hs' := hbound s hs
          omega
        · rw [List.map_cons, List.pairwise_cons]
          refine ⟨List.forall_mem_map.2 fun s hs => ?_, hordered⟩
          have hs' := hbound s hs
          change (i : Int) < s.first
          omega

theorem length_deltaFrom_le {i : Nat} {delta : List Swap} (hperm : current.Perm target)
    (h : deltaFrom i current target = some delta) : delta.length ≤ misplaced current target - 1 := by
  induction target generalizing i current delta with
  | nil =>
    rw [deltaFrom] at h
    obtain rfl := Option.some.inj h
    exact Nat.zero_le _
  | cons t target ih =>
    cases current with
    | nil => exact absurd hperm.length_eq (by simp)
    | cons c current =>
      obtain ⟨rfl, hbehind, hpassed⟩ | ⟨hc, k, rest, -, hplace, hwrong, hbehind, hrest, rfl⟩ :=
        deltaFrom_cons_cases_of_perm hperm h
      · rw [misplaced_cons, if_pos rfl, Nat.add_zero]
        exact ih hbehind hpassed
      · -- a swap puts its first position right, and the last one both, as there is never a single wrong one
        have hpos := misplaced_pos (Nat.succ.inj hperm.length_eq) hplace hwrong
        have hle := misplaced_set_le c hplace hwrong
        have hlength := ih hbehind hrest
        rw [misplaced_cons, if_neg hc, List.length_cons]
        omega

end Swap

/-- A delta undoes nothing: each of its swaps mends the order it meets, from the front on, so positions that
are right are left alone, and there are fewer swaps than misplaced positions. -/
theorem Plan.deltaBetween_mends {α : Type} [DecidableEq α] {current target : List α}
    (hperm : target.Perm current) :
    ∃ delta, deltaBetween current target = .ok delta ∧
      (∀ front s rest, delta = front ++ s :: rest →
        ∃ i j, s = .ofPositions i j ∧ Swap.Mends target (Swap.exchangeAll front current) i j) ∧
      (delta.map Swap.first).Pairwise (· < ·) ∧
      (∀ p : Nat, current[p]? = target[p]? →
        (∀ s ∈ delta, s.first ≠ p ∧ s.second ≠ p) ∧
          ∀ front rest, delta = front ++ rest → (Swap.exchangeAll front current)[p]? = target[p]?) ∧
      delta.length ≤ Swap.misplaced current target - 1 := by
  obtain ⟨delta, hdelta⟩ := Swap.exists_delta?_iff.2 hperm.symm
  have hwalk := (Swap.delta?_eq_some_iff.1 hdelta).2
  have hrepairs := Swap.repairs_delta? hdelta
  refine ⟨delta, ?_, ?_, (Swap.pairwise_first_deltaFrom hwalk).2, ?_, Swap.length_deltaFrom_le hperm.symm hwalk⟩
  · rw [deltaBetween, hdelta]
  · rintro front s rest rfl
    exact hrepairs.mends
  · intro p hright
    refine ⟨hrepairs.spares hright, ?_⟩
    rintro front rest rfl
    exact hrepairs.keeps hright

/-- The `x` in front is right and stays there, though the second position wants an `x`, too. -/
theorem Plan.deltaBetween_mends_repeated :
    ["x", "x", "z", "y"].Perm ["x", "y", "x", "z"] ∧
      deltaBetween ["x", "y", "x", "z"] ["x", "x", "z", "y"] = .ok [.ofPositions 1 2, .ofPositions 2 3] ∧
      (∀ s ∈ [Swap.ofPositions 1 2, .ofPositions 2 3], s.first ≠ 0 ∧ s.second ≠ 0) ∧
      2 ≤ Swap.misplaced ["x", "y", "x", "z"] ["x", "x", "z", "y"] - 1 := by
  have hperm : ["x", "x", "z", "y"].Perm ["x", "y", "x", "z"] := by decide
  have hdelta : deltaBetween ["x", "y", "x", "z"] ["x", "x", "z", "y"] =
      .ok [.ofPositions 1 2, .ofPositions 2 3] := by decide
  obtain ⟨delta, hfound, -, -, hright, hlength⟩ := deltaBetween_mends hperm
  rw [hdelta] at hfound
  obtain rfl := Except.ok.inj hfound
  exact ⟨hperm, hdelta, (hright 0 rfl).1, hlength⟩

end PivotTable
