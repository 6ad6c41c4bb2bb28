import PivotTable.Proofs.Swap.Plan
import PivotTable.Table

/-!
# Layouts and plans of a table

The swaps that a table keeps are those that take effect: all of them, or none if they are rejected. Its
layout is what they make of the slots as placed, and the swaps of a plan come behind them. So the slots of
layouts and plans alike are reached from the slots as placed by a batch that the groups allow.
-/
namespace PivotTable.Table

/-- The configured swaps as far as they take effect. -/
def kept (t : Table) : List Swap := if t.layout.value.isRejected then [] else t.swaps

variable {t : Table} {request : ReorderRequest} {payload : Payload}

theorem violations_layout_eq_nil_iff :
    t.layout.value.violations = [] ↔ Swap.Legal t.swaps t.guard? :=
  Swap.violations_apply_eq_nil_iff

theorem kept_of_legal (h : Swap.Legal t.swaps t.guard?) : t.kept = t.swaps := by
  rw [kept, Layout.isRejected, violations_layout_eq_nil_iff.2 h]
  rfl

theorem kept_of_not_legal (h : ¬ Swap.Legal t.swaps t.guard?) : t.kept = [] := by
  have hrejected : t.layout.value.isRejected = true := by
    rw [← violations_layout_eq_nil_iff] at h
    simpa [Layout.isRejected] using h
  rw [kept, if_pos hrejected]

theorem legal_kept (t : Table) : Swap.Legal t.kept t.guard? := by
  by_cases h : Swap.Legal t.swaps t.guard?
  · rw [kept_of_legal h]
    exact h
  · rw [kept_of_not_legal h]
    exact Swap.legal_nil _

theorem slots_layout (t : Table) :
    t.layout.value.slots = Swap.exchangeAll t.kept t.placement.slots := by
  by_cases h : Swap.Legal t.swaps t.guard?
  · rw [kept_of_legal h]
    exact Swap.slots_apply_of_legal h
  · rw [kept_of_not_legal h]
    exact Swap.slots_apply_of_not_legal h

/-- Everything there is to know of an answer to a reorder. -/
structure Answers (t : Table) (payload : Payload) : Prop where
  swaps : payload.swaps = t.kept ++ payload.delta
  legal : Swap.Legal payload.swaps t.guard?
  slots : payload.slots = Swap.exchangeAll payload.swaps t.placement.slots
  inside : ∀ s ∈ payload.delta, ∃ i j, s = Swap.ofPositions i j ∧
    i < t.placement.slots.length ∧ j < t.placement.slots.length

theorem carries_of_planOn {layout : Layout} {plan : Plan} (h : t.planOn layout request = .ok plan) :
    plan.Carries layout.slots t.guard? := by
  cases request with
  | move origin destination => exact Plan.carries_of_move h
  | order metrics => exact Plan.carries_of_order h

theorem answers_of_plan (h : (t.plan request).value = .ok payload) : t.Answers payload := by
  change (t.planOn t.layout.value request).map (t.payload t.layout.value) = .ok payload at h
  cases hplan : t.planOn t.layout.value request with
  | error e =>
    rw [hplan] at h
    cases h
  | ok plan =>
    rw [hplan] at h
    obtain rfl := Except.ok.inj h
    have hcarries := carries_of_planOn hplan
    have hswaps : (t.payload t.layout.value plan).swaps = t.kept ++ plan.delta := rfl
    refine ⟨hswaps, ?_, ?_, ?_⟩
    · rw [hswaps]
      exact Swap.legal_append.2 ⟨t.legal_kept, hcarries.legal⟩
    · rw [hswaps, Swap.exchangeAll_append, ← slots_layout]
      exact hcarries.reached
    · have hlength : t.layout.value.slots.length = t.placement.slots.length := by
        rw [slots_layout, Swap.length_exchangeAll]
      rw [← hlength]
      exact hcarries.inside

end PivotTable.Table
