import PivotTable.Outline.Encode
import PivotTable.Proofs.Placement.Size
import PivotTable.Proofs.Rule.Entries
import PivotTable.Table

/-!
# Reports of mismatched sizes

Main statement: whatever the counts of an outline add up to, its declared size, its orphans and the mismatch of
its placement are those of the exact total, and a table reports the mismatch once while it is made, if its
outline has any group, and never again.
-/
namespace PivotTable

theorem Pipeline.told_run_eq_nil {γ : Type} {view : Event → Option γ}
    (hcompleted : ∀ stage rowsIn rowsOut, view (.stageCompleted stage rowsIn rowsOut) = none) (p : Pipeline)
    (facts : List Fact) : (run p facts).told view = [] := by
  induction p generalizing facts with
  | nil => rfl
  | cons stage rest ih => simp [run, Reported.told_report, hcompleted, ih]

namespace Table

theorem told_mismatch_layout (t : Table) : t.layout.told Event.mismatch? = [] := by
  have hskipped (indices : List Nat) (size : Nat) :
      (indices.filterMap fun index =>
        t.swaps[index]?.map fun s => Event.swapSkipped index s.first s.second size).filterMap
          Event.mismatch? = [] := by
    rw [List.filterMap_filterMap, List.filterMap_eq_nil_iff]
    intro index _
    cases t.swaps[index]? <;> rfl
  rw [layout, Reported.told_bind, Reported.told_pure, List.append_nil, Reported.told_reportAll,
    SwapOutcome.events, List.filterMap_append, hskipped, List.append_nil]
  split <;> rfl

theorem told_mismatch_process (t : Table) (rows : List Row) :
    (t.process rows).told Event.mismatch? = [] := by
  have hrun (facts : List Fact) : (t.pipeline.run facts).told Event.mismatch? = [] :=
    Pipeline.told_run_eq_nil (fun _ _ _ => rfl) t.pipeline facts
  simp only [process, Reported.told_bind, Reported.told_pure, told_mismatch_layout, hrun, List.append_nil]

theorem told_mismatch_plan (t : Table) (request : ReorderRequest) :
    (t.plan request).told Event.mismatch? = [] := by
  simp only [plan, Reported.told_bind, Reported.told_pure, told_mismatch_layout, List.append_nil]

theorem told_mismatch_ofConfig (c : Config) :
    (ofConfig c).told Event.mismatch? =
      (mismatch (Outline.ofAuthored c.hierarchy).value
        (Placement.ofOutline (Outline.ofAuthored c.hierarchy).value c.labels c.showSegments).declared
        c.metrics.length).filterMap Event.mismatch? := by
  have houtline : (Outline.ofAuthored c.hierarchy).told Event.mismatch? = [] := by
    apply Authored.told_decode_eq_nil fun _ => rfl
    intro v result hv
    cases hjson : Outline.ofJson v with
    | ok o =>
      rw [hjson] at hv
      obtain rfl := Except.ok.inj hv
      rfl
    | error e =>
      rw [hjson] at hv
      cases hv
  have hswaps : (Swap.ofAuthored c.swaps).told Event.mismatch? = [] := by
    rw [(Swap.ofAuthored_entries c.swaps).2 fun _ => rfl, Authored.told_entries_eq fun _ => rfl,
      Authored.told_acceptItems_eq_nil fun _ _ => rfl]
  have hrules (field : String) (a : Authored) : (Rule.ofAuthored field a).told Event.mismatch? = [] :=
    Rule.told_ofAuthored_eq_nil (fun _ => rfl) (fun _ _ => rfl) (fun _ => rfl) a
  have hexclusions : (ExclusionSet.ofAuthored c.exclusions).told Event.mismatch? = [] := by
    rw [ExclusionSet.ofAuthored, Reported.told_bind, Authored.told_entries_eq fun _ => rfl,
      Authored.told_acceptItems_eq_nil fun _ _ => rfl]
    rfl
  simp only [ofConfig, RuleSet.ofAuthored, Reported.told_bind, Reported.told_pure, houtline, hswaps, hrules,
    hexclusions, Reported.told_reportAll, List.nil_append, List.append_nil]

/-- A total that is no number of metrics is reported, cut off at the limit. -/
theorem filterMap_mismatch (o : Outline) {metrics : List String} (showSegments : Bool)
    (hmetrics : metrics.length < Outline.countLimit) :
    (mismatch o (Placement.ofOutline o metrics showSegments).declared metrics.length).filterMap
        Event.mismatch? =
      if o.groups ≠ [] ∧ Leaf.total (o.leaves true) ≠ metrics.length then
        [(min (Leaf.total (o.leaves true)) Outline.countLimit, metrics.length)]
      else [] := by
  have hdeclared : (Placement.ofOutline o metrics showSegments).declared =
      min (Leaf.total (o.leaves true)) Outline.countLimit := by
    rw [Placement.declared_ofOutline (Nat.le_of_lt hmetrics), o.total_leaves]
  have hreported : (!o.isEmpty &&
      (Placement.ofOutline o metrics showSegments).declared != metrics.length) = true ↔
        o.groups ≠ [] ∧ Leaf.total (o.leaves true) ≠ metrics.length := by
    rw [Bool.and_eq_true, bne_iff_ne, Ne, Placement.declared_eq_length_iff o showSegments hmetrics,
      Outline.isEmpty, Bool.not_eq_true', ← Bool.not_eq_true, List.isEmpty_iff]
  simp only [mismatch, hreported]
  split
  · rw [hdeclared]
    rfl
  · rfl

end Table

namespace Placement

/-- What a placement says about its size is said of the exact total of all counts, whether segments are shown
or hidden, for every number of metrics below the limit of counts. A table that has the outline tells of a
mismatch once, and not at all if there is none or the outline has no group. -/
theorem size_exact (o : Outline) (metrics : List String) (showSegments : Bool)
    (hmetrics : metrics.length < Outline.countLimit) :
    let total := Leaf.total (o.leaves true)
    let placement := ofOutline o metrics showSegments
    placement.declared = min total Outline.countLimit ∧
      placement.slots.map Slot.orphan =
        List.replicate (min total metrics.length) false ++
          List.replicate (metrics.length - total) true ∧
      (placement.isMismatched = true ↔ total ≠ metrics.length) ∧
      ∀ c : Config, (Outline.ofAuthored c.hierarchy).value = o → c.labels = metrics →
        c.showSegments = showSegments →
        let table := Table.ofConfig c
        table.value.placement = placement ∧
          table.told Event.mismatch? =
            (if o.groups ≠ [] ∧ total ≠ metrics.length then
              [(min total Outline.countLimit, metrics.length)]
            else []) ∧
          table.value.layout.told Event.mismatch? = [] ∧
          (∀ rows, (table.value.process rows).told Event.mismatch? = []) ∧
          ∀ request, (table.value.plan request).told Event.mismatch? = [] := by
  intro total placement
  refine ⟨?_, map_orphan_slots (Nat.le_of_lt hmetrics) o showSegments,
    isMismatched_iff o showSegments hmetrics, ?_⟩
  · rw [declared_ofOutline (Nat.le_of_lt hmetrics), o.total_leaves]
  · rintro c rfl rfl rfl
    have hlength : c.metrics.length = c.labels.length := (List.length_map _).symm
    refine ⟨rfl, ?_, Table.told_mismatch_layout _, Table.told_mismatch_process _,
      Table.told_mismatch_plan _⟩
    rw [Table.told_mismatch_ofConfig, hlength, Table.filterMap_mismatch _ c.showSegments hmetrics]

/-- One count is the limit itself, and a subsegment is counted on top of it. -/
theorem size_exact_beyond_limit :
    let o : Outline := ⟨[⟨"G", none,
      [⟨"S", some 2, [⟨"X", some 18446744073709551615, []⟩, ⟨"Y", some 5, [⟨"y", some 1⟩]⟩]⟩]⟩]⟩
    let c : Config :=
      { Config.empty with
        metrics := [.labelled "a", .labelled "b"]
        hierarchy := .json o.toJson
        showSegments := false }
    ["a", "b"].length < Outline.countLimit ∧ (Outline.ofAuthored c.hierarchy).value = o ∧
      Leaf.total (o.leaves true) = 18446744073709551616 ∧
      (ofOutline o ["a", "b"] false).declared = 18446744073709551615 ∧
      (ofOutline o ["a", "b"] false).isMismatched = true ∧
      (Table.ofConfig c).told Event.mismatch? = [(18446744073709551615, 2)] := by
  intro o c
  have houtline : (Outline.ofAuthored c.hierarchy).value = o := by decide +kernel
  have htotal : Leaf.total (o.leaves true) = 18446744073709551616 := by decide +kernel
  obtain ⟨hdeclared, -, hmismatched, htable⟩ := size_exact o ["a", "b"] false (by decide)
  obtain ⟨-, htold, -⟩ := htable c houtline rfl rfl
  rw [htotal] at hdeclared hmismatched htold
  exact ⟨by decide, houtline, htotal, hdeclared, hmismatched.2 (by decide), htold⟩

end Placement

end PivotTable
