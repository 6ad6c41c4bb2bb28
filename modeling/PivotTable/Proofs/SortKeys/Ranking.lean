import PivotTable.Proofs.SortKeys

/-!
# Order by rank

A value has a rank if it is a text of its column, and no two values have one rank. So the comparison of a column
is a total order, and a sorted list is the listed values by their ranks and then all others by their texts. A
column that sort keys do not know lists nothing.
-/
namespace PivotTable

theorem isLE_compare_string {a b : String} : (Ord.compare a b).isLE = true ↔ a ≤ b :=
  isLE_compareOfLessAndEq String.le_antisymm String.not_le String.le_total

/-- Where nothing stands before a kept item unless it is kept, the kept items come first. -/
theorem filter_append_filter_not {α : Type} {keep : α → Bool} {items : List α}
    (h : items.Pairwise fun a b => keep b = true → keep a = true) :
    items.filter keep ++ items.filter (fun a => !keep a) = items := by
  induction items with
  | nil => rfl
  | cons a rest ih =>
    obtain ⟨hfirst, hrest⟩ := List.pairwise_cons.1 h
    cases ha : keep a with
    | true =>
      rw [List.filter_cons_of_pos ha, List.filter_cons_of_neg (by simp [ha]), List.cons_append, ih hrest]
    | false =>
      have hnone : rest.filter keep = [] := by
        rw [List.filter_eq_nil_iff]
        intro b hb hkeep
        rw [hfirst b hb hkeep] at ha
        cases ha
      have hall := ih hrest
      rw [hnone, List.nil_append] at hall
      rw [List.filter_cons_of_neg (by simp [ha]), List.filter_cons_of_pos (by simp [ha]), hnone, hall,
        List.nil_append]

namespace SortKeys

/-- The values that have a rank in a column, by their ranks. -/
def listed (k : SortKeys) (column : String) : List String :=
  ((k.order? column).map OrderedSet.toList).getD []

variable (k : SortKeys) (column : String)

theorem rank?_eq_idxOf? (value : String) : k.rank? column value = (k.listed column).idxOf? value := by
  rw [rank?_eq, listed]
  cases (k.order? column).map OrderedSet.toList <;> rfl

theorem isSome_rank? {value : String} :
    (k.rank? column value).isSome = true ↔ value ∈ k.listed column := by
  rw [rank?_eq_idxOf?, List.isSome_idxOf?]

variable {k column}

theorem eq_of_rank?_eq {a b : String} {place : Nat} (ha : k.rank? column a = some place)
    (hb : k.rank? column b = some place) : a = b := by
  rw [rank?_eq_idxOf?] at ha hb
  exact Option.some.inj ((getElem?_of_idxOf? ha).symm.trans (getElem?_of_idxOf? hb))

variable (k column)

instance : Std.OrientedCmp (k.compare column) where
  eq_swap {a b} := by
    cases ha : k.rank? column a <;> cases hb : k.rank? column b <;> simp only [compare, ha, hb]
    · exact Std.OrientedOrd.eq_swap
    · rfl
    · rfl
    · exact Std.OrientedOrd.eq_swap

/-- A value with no rank has only values with no rank behind it. -/
instance : Std.TransCmp (k.compare column) where
  isLE_trans {a b c} hab hbc := by
    cases hc : k.rank? column c with
    | none =>
      cases ha : k.rank? column a with
      | some i => simp only [compare, ha, hc, Ordering.isLE]
      | none =>
        cases hb : k.rank? column b with
        | some j => simp [compare, ha, hb] at hab
        | none =>
          simp only [compare, ha, hb, hc] at hab hbc ⊢
          exact Std.TransOrd.isLE_trans hab hbc
    | some l =>
      cases hb : k.rank? column b with
      | none => simp [compare, hb, hc] at hbc
      | some j =>
        cases ha : k.rank? column a with
        | none => simp [compare, ha, hb] at hab
        | some i =>
          simp only [compare, ha, hb, hc] at hab hbc ⊢
          exact Std.TransOrd.isLE_trans hab hbc

instance : Std.LawfulEqCmp (k.compare column) where
  compare_self {a} := by
    cases ha : k.rank? column a <;> simp [compare, ha]
  eq_of_compare {a b} h := by
    cases ha : k.rank? column a <;> cases hb : k.rank? column b <;> simp only [compare, ha, hb] at h
    · exact Std.LawfulEqCmp.eq_of_compare h
    · cases h
    · cases h
    · obtain rfl := Std.LawfulEqCmp.eq_of_compare h
      exact eq_of_rank?_eq ha hb

theorem compare_total (a b : String) :
    (k.compare column a b).isLE = true ∨ (k.compare column b a).isLE = true := by
  have hswap : k.compare column b a = (k.compare column a b).swap := Std.OrientedCmp.eq_swap
  rw [hswap]
  cases k.compare column a b <;> simp

variable {k column}

theorem listed_of_compare {a b : String} (h : (k.compare column a b).isLE = true)
    (hb : b ∈ k.listed column) : a ∈ k.listed column := by
  rw [← isSome_rank?] at hb ⊢
  obtain ⟨j, hj⟩ := Option.isSome_iff_exists.1 hb
  cases ha : k.rank? column a with
  | none => simp [compare, ha, hj] at h
  | some i => rfl

/-- `a` and `b` have ranks, and the rank of `b` is not the smaller one. -/
def RankLE (k : SortKeys) (column a b : String) : Prop :=
  ∃ i j, k.rank? column a = some i ∧ k.rank? column b = some j ∧ i ≤ j

theorem rankLE_of_compare {a b : String} (h : (k.compare column a b).isLE = true)
    (ha : a ∈ k.listed column) (hb : b ∈ k.listed column) : k.RankLE column a b := by
  obtain ⟨i, hi⟩ := Option.isSome_iff_exists.1 ((isSome_rank? k column).2 ha)
  obtain ⟨j, hj⟩ := Option.isSome_iff_exists.1 ((isSome_rank? k column).2 hb)
  simp only [compare, hi, hj] at h
  exact ⟨i, j, hi, hj, Nat.isLE_compare.1 h⟩

theorem le_of_compare {a b : String} (h : (k.compare column a b).isLE = true)
    (ha : a ∉ k.listed column) (hb : b ∉ k.listed column) : a ≤ b := by
  rw [← isSome_rank?, Option.not_isSome_iff_eq_none] at ha hb
  simp only [compare, ha, hb] at h
  exact isLE_compare_string.1 h

variable (k column)

theorem pairwise_sort (values : List String) :
    (k.sort column values).Pairwise fun a b => (k.compare column a b).isLE = true := by
  unfold sort
  apply List.pairwise_mergeSort
  · intro a b c hab hbc
    exact Std.TransCmp.isLE_trans hab hbc
  · intro a b
    rw [Bool.or_eq_true]
    exact k.compare_total column a b

theorem sort_split (values : List String) :
    ∃ known others, k.sort column values = known ++ others ∧
      (∀ v ∈ known, v ∈ k.listed column) ∧ known.Pairwise (k.RankLE column) ∧
      (∀ v ∈ others, v ∉ k.listed column) ∧ others.Pairwise (· ≤ ·) := by
  have hsorted := k.pairwise_sort column values
  let keep v := decide (v ∈ k.listed column)
  have hknown : ∀ v ∈ (k.sort column values).filter keep, v ∈ k.listed column := fun v hv =>
    of_decide_eq_true (List.mem_filter.1 hv).2
  have hothers : ∀ v ∈ (k.sort column values).filter (fun v => !keep v), v ∉ k.listed column := by
    intro v hv
    simpa [keep] using (List.mem_filter.1 hv).2
  refine ⟨(k.sort column values).filter keep, (k.sort column values).filter (fun v => !keep v), ?_,
    hknown, ?_, hothers, ?_⟩
  · refine (filter_append_filter_not (hsorted.imp fun {a b} hab hb => ?_)).symm
    exact decide_eq_true (listed_of_compare hab (of_decide_eq_true hb))
  · refine (hsorted.filter keep).imp_of_mem fun {a b} ha hb hab => ?_
    exact rankLE_of_compare hab (hknown a ha) (hknown b hb)
  · refine (hsorted.filter fun v => !keep v).imp_of_mem fun {a b} ha hb hab => ?_
    exact le_of_compare hab (hothers a ha) (hothers b hb)

/-- The comparison of a column is a total order of all texts, and sorting by it puts the listed values first, by
their ranks, and then all others, by their texts. -/
theorem sort_ranked :
    (∀ a b, k.compare column a b = .eq ↔ a = b) ∧
      (∀ a b, k.compare column b a = (k.compare column a b).swap) ∧
      (∀ a b, (k.compare column a b).isLE = true ∨ (k.compare column b a).isLE = true) ∧
      (∀ a b c, (k.compare column a b).isLE = true → (k.compare column b c).isLE = true →
        (k.compare column a c).isLE = true) ∧
      ∀ values, (k.sort column values).Perm values ∧
        ∃ known others, k.sort column values = known ++ others ∧
          (∀ v ∈ known, v ∈ k.listed column) ∧ known.Pairwise (k.RankLE column) ∧
          (∀ v ∈ others, v ∉ k.listed column) ∧ others.Pairwise (· ≤ ·) := by
  refine ⟨fun a b => ?_, fun a b => ?_, k.compare_total column, fun a b c hab hbc => ?_, fun values => ?_⟩
  · exact Std.LawfulEqCmp.compare_eq_iff_eq
  · exact Std.OrientedCmp.eq_swap
  · exact Std.TransCmp.isLE_trans hab hbc
  · exact ⟨List.mergeSort_perm _ _, k.sort_split column values⟩

theorem sort_ranked_unknown_last :
    let fact (group : String) : Fact := ⟨.empty, ⟨group, "", "", ""⟩, "spend", "spend", none⟩
    let k := ofFacts [fact "B", fact "A", fact "B"] .empty false
    let values := ["zeta", "A", "alpha", "B"]
    k.listed "level1" = ["B", "A"] ∧ (k.compare "level1" "B" "alpha").isLE = true ∧
      (k.sort "level1" values).Perm values ∧ k.compare "channel" "a" "b" = .lt ∧
      ∃ known others, k.sort "level1" values = known ++ others ∧
        (∀ v ∈ known, v ∈ k.listed "level1") ∧ known.Pairwise (k.RankLE "level1") ∧
        (∀ v ∈ others, v ∉ k.listed "level1") ∧ others.Pairwise (· ≤ ·) := by
  intro fact k values
  obtain ⟨-, -, -, htrans, hsort⟩ := k.sort_ranked "level1"
  obtain ⟨hperm, hsplit⟩ := hsort values
  have hlisted : k.listed "level1" = ["B", "A"] := by decide +kernel
  have hknown : (k.compare "level1" "B" "A").isLE = true := by decide +kernel
  have hunknown : (k.compare "level1" "A" "alpha").isLE = true := by decide +kernel
  exact ⟨hlisted, htrans _ _ _ hknown hunknown, hperm, by decide +kernel, hsplit⟩

end SortKeys

end PivotTable
