import PivotTable.Proofs.Swap.Exchange

/-!
# What a plan promises

A plan is accepted under the same condition as a batch, its slots are those that its swaps lead to, and its
swaps stay within the list. `Plan.Carries` says all three for both kinds of request.
-/
namespace PivotTable

namespace Swap

/-- A batch that is not rejected: there are no groups, or it joins none of them. -/
def Legal (swaps : List Swap) (groups : Option Grouping) : Prop :=
  ∀ g ∈ groups, violations swaps g = []

theorem legal_iff {swaps : List Swap} {groups : Option Grouping} :
    Legal swaps groups ↔ (groups.map (violations swaps)).getD [] = [] := by
  cases groups <;> simp [Legal]

theorem legal_append {a b : List Swap} {groups : Option Grouping} :
    Legal (a ++ b) groups ↔ Legal a groups ∧ Legal b groups := by
  cases groups <;> simp [Legal, violations_append_eq_nil_iff]

theorem legal_some {swaps : List Swap} {g : Grouping} :
    Legal swaps (some g) ↔ violations swaps g = [] :=
  legal_iff

theorem legal_nil (groups : Option Grouping) : Legal [] groups := fun _ _ => rfl

variable {slots : List Slot} {swaps : List Swap} {groups : Option Grouping}

theorem apply_of_legal (h : Legal swaps groups) :
    apply slots swaps groups =
      ⟨exchangeAll swaps slots, swaps.length - (outside swaps slots.length).length,
        outside swaps slots.length, []⟩ :=
  if_pos (List.isEmpty_iff.2 (legal_iff.1 h))

theorem apply_of_not_legal (h : ¬ Legal swaps groups) :
    apply slots swaps groups = ⟨slots, 0, [], (groups.map (violations swaps)).getD []⟩ :=
  if_neg (mt (fun hempty => legal_iff.2 (List.isEmpty_iff.1 hempty)) h)

theorem slots_apply_of_legal (h : Legal swaps groups) :
    (apply slots swaps groups).slots = exchangeAll swaps slots := by
  rw [apply_of_legal h]

theorem slots_apply_of_not_legal (h : ¬ Legal swaps groups) :
    (apply slots swaps groups).slots = slots := by
  rw [apply_of_not_legal h]

theorem violations_apply_eq_nil_iff :
    (apply slots swaps groups).violations = [] ↔ Legal swaps groups := by
  by_cases h : Legal swaps groups
  · rw [apply_of_legal h]
    exact iff_of_true rfl h
  · rw [apply_of_not_legal h]
    exact legal_iff.symm

section

variable {α : Type} [DecidableEq α] {current target : List α}

/-- Either search ends at a place that holds the item. -/
theorem getElem?_of_source? {wanted : α} {k : Nat} (h : source? wanted current target = some k) :
    current[k]? = some wanted := by
  rw [source?, Option.orElse_eq_orElse, Option.orElse_eq_or, Option.or_eq_some_iff] at h
  rcases h with h | ⟨-, h⟩
  · obtain ⟨hk, hfound, -⟩ := List.findIdx?_eq_some_iff_getElem.1 h
    have hlength : k < current.length := by
      rw [List.length_zip] at hk
      omega
    simp only [List.getElem_zip, decide_eq_true_eq] at hfound
    rw [List.getElem?_eq_getElem hlength, hfound.1]
  · obtain ⟨hk, hfound, -⟩ := List.findIdx?_eq_some_iff_getElem.1 h
    rw [List.getElem?_eq_getElem hk, of_decide_eq_true hfound]

/-- The walk passes a place that is right, and exchanges a wrong one with a place behind it. -/
theorem deltaFrom_cons_cases {i : Nat} {c t : α} {delta : List Swap}
    (h : deltaFrom i (c :: current) (t :: target) = some delta) :
    (c = t ∧ deltaFrom (i + 1) current target = some delta) ∨
      (c ≠ t ∧ ∃ k rest, source? t current target = some k ∧
        deltaFrom (i + 1) (current.set k c) target = some rest ∧
        delta = ofPositions i (i + 1 + k) :: rest) := by
  rw [deltaFrom] at h
  by_cases hc : c = t
  · rw [if_pos hc] at h
    exact .inl ⟨hc, h⟩
  · rw [if_neg hc] at h
    obtain ⟨k, hk, h⟩ := Option.bind_eq_some_iff.1 h
    obtain ⟨rest, hrest, h⟩ := Option.bind_eq_some_iff.1 h
    exact .inr ⟨hc, k, rest, hk, hrest, (Option.some.inj h).symm⟩

/-- The swaps point into the list, which starts at position `i`. -/
theorem mem_deltaFrom {i : Nat} {delta : List Swap}
    (h : deltaFrom i current target = some delta) {s : Swap} (hs : s ∈ delta) :
    ∃ a b, s = ofPositions a b ∧ a < i + current.length ∧ b < i + current.length := by
  induction target generalizing i current delta with
  | nil =>
    simp only [deltaFrom, Option.some.injEq] at h
    subst h
    cases hs
  | cons t target ih =>
    cases current with
    | nil => simp [deltaFrom] at h
    | cons c current =>
      rw [List.length_cons]
      obtain ⟨-, h⟩ | ⟨-, k, rest, hk, hrest, rfl⟩ := deltaFrom_cons_cases h
      · obtain ⟨a, b, rfl, ha, hb⟩ := ih h hs
        exact ⟨a, b, rfl, by omega, by omega⟩
      · -- one place is exchanged behind the first, and the rest is a list of the same length
        obtain ⟨hlt, -⟩ := List.getElem?_eq_some_iff.1 (getElem?_of_source? hk)
        rcases List.mem_cons.1 hs with rfl | hs
        · exact ⟨i, i + 1 + k, rfl, by omega, by omega⟩
        · obtain ⟨a, b, rfl, ha, hb⟩ := ih hrest hs
          rw [List.length_set] at ha hb
          exact ⟨a, b, rfl, by omega, by omega⟩

end

end Swap

namespace Plan

/-- The plan leads from these slots to its own by swaps that the groups allow. -/
structure Carries (slots : List Slot) (groups : Option Grouping) (plan : Plan) : Prop where
  reached : plan.slots = Swap.exchangeAll plan.delta slots
  legal : Swap.Legal plan.delta groups
  inside : ∀ s ∈ plan.delta, ∃ i j, s = Swap.ofPositions i j ∧ i < slots.length ∧ j < slots.length

variable {slots : List Slot} {groups : Option Grouping} {plan : Plan}

theorem ofDelta_of_legal {delta : List Swap} (h : Swap.Legal delta groups) :
    ofDelta slots groups delta = .ok ⟨delta, Swap.exchangeAll delta slots⟩ :=
  if_pos (List.isEmpty_iff.2 (Swap.legal_iff.1 h))

theorem ofDelta_of_not_legal {delta : List Swap} (h : ¬ Swap.Legal delta groups) :
    ∃ violations, violations ≠ [] ∧ ofDelta slots groups delta = .error (.crossGroup violations) :=
  ⟨_, mt Swap.legal_iff.2 h, if_neg (mt (fun hempty => Swap.legal_iff.2 (List.isEmpty_iff.1 hempty)) h)⟩

theorem carries_of_delta {α : Type} [DecidableEq α] {current target : List α}
    (hlength : current.length = slots.length)
    (h : (deltaBetween current target >>= ofDelta slots groups) = .ok plan) :
    Carries slots groups plan := by
  unfold deltaBetween Swap.delta? at h
  split at h
  · next delta hdelta =>
    split at hdelta
    · change ofDelta slots groups delta = .ok plan at h
      simp only [ofDelta] at h
      split at h
      · next hlegal =>
        obtain rfl := Except.ok.inj h
        refine ⟨rfl, Swap.legal_iff.2 (List.isEmpty_iff.1 hlegal), ?_⟩
        intro s hs
        have hmem := Swap.mem_deltaFrom hdelta hs
        rwa [Nat.zero_add, hlength] at hmem
      · cases h
    · cases hdelta
  · cases h

theorem carries_of_move {origin destination : Nat}
    (h : move slots groups origin destination = .ok plan) : Carries slots groups plan := by
  simp only [move] at h
  split at h
  · cases h
  · split at h
    · cases h
    · exact carries_of_delta List.length_range h

theorem carries_of_order {metrics : List String} (h : order slots groups metrics = .ok plan) :
    Carries slots groups plan :=
  carries_of_delta (List.length_map _) h

end Plan

end PivotTable
