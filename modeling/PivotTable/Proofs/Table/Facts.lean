import PivotTable.Proofs.Pipeline
import PivotTable.Proofs.Table.Plan

/-!
# The facts of a table

Every row of the source gives its facts alone, and every slot its fact in a row alone, whatever else is in
the table. Main statements: the facts are what becomes of each slot in each row, in the order of the rows and
of the layout; and since swaps permute the layout and no more, they permute the facts of each row.
-/
namespace PivotTable

theorem Fact.ofRow_perm {a b : List Slot} (h : a.Perm b) (row : Row) :
    (ofRow a row).Perm (ofRow b row) := by
  have hrest : row.without (a.map Slot.metric) = row.without (b.map Slot.metric) :=
    row.without_congr fun column => (h.map Slot.metric).mem_iff
  rw [ofRow, ofRow, hrest]
  exact h.map _

namespace Table

def factsOf (t : Table) (row : Row) : List Fact :=
  (Fact.ofRow t.layout.value.slots row).filterMap t.pipeline.pass

theorem facts_process_eq_flatMap (t : Table) (rows : List Row) :
    (t.process rows).value.facts = rows.flatMap t.factsOf := by
  change (Pipeline.run t.pipeline (Fact.ofRows rows t.layout.value.slots)).value.1 = _
  rw [Pipeline.facts_run, Fact.ofRows, List.filterMap_flatMap]
  rfl

theorem facts_process_singleton (t : Table) (row : Row) :
    (t.process [row]).value.facts = t.factsOf row := by
  rw [facts_process_eq_flatMap, List.flatMap_singleton]

theorem factsOf_eq_filterMap {t : Table} {rules : RuleSet} {exclusions : ExclusionSet}
    (hpipeline : t.pipeline = .standard rules exclusions) (hrules : rules.WritesAllowed) (row : Row) :
    t.factsOf row =
      t.layout.value.slots.filterMap (Slot.resolve rules exclusions t.layout.value.slots row) := by
  have hresolve (slots : List Slot) : (Pipeline.standard rules exclusions).pass ∘
      Fact.ofSlot row (row.without (slots.map Slot.metric)) = Slot.resolve rules exclusions slots row :=
    funext fun s => Pipeline.pass_standard_ofSlot hrules exclusions slots row s
  rw [factsOf, hpipeline, Fact.ofRow, List.filterMap_map, hresolve]

theorem slots_layout_perm (t : Table) : t.layout.value.slots.Perm t.placement.slots := by
  rw [slots_layout]
  exact Swap.exchangeAll_perm _ _

theorem factsOf_perm {t u : Table} (hplacement : t.placement = u.placement)
    (hpipeline : t.pipeline = u.pipeline) (row : Row) : (t.factsOf row).Perm (u.factsOf row) := by
  have hslots : t.layout.value.slots.Perm u.layout.value.slots := by
    refine t.slots_layout_perm.trans ?_
    rw [hplacement]
    exact u.slots_layout_perm.symm
  rw [factsOf, factsOf, hpipeline]
  exact (Fact.ofRow_perm hslots row).filterMap _

/-- The rows of the source and the slots of the layout give their facts one by one. -/
theorem facts_process (c : Config) (rows : List Row) :
    let t := (ofConfig c).value
    let slots := t.layout.value.slots
    let rules := (RuleSet.ofAuthored c.platformRules c.relocationRules c.platformColumn).value
    let exclusions := (ExclusionSet.ofAuthored c.exclusions).value
    ((t.process rows).value.facts = rows.flatMap fun row =>
        slots.filterMap (Slot.resolve rules exclusions slots row)) ∧
      ∀ a b, (t.process (a ++ b)).value.facts =
        (t.process a).value.facts ++ (t.process b).value.facts := by
  intro t slots rules exclusions
  constructor
  · have hrules : rules.WritesAllowed := RuleSet.writesAllowed_ofAuthored _ _ _
    have hfacts : t.factsOf = fun row =>
        slots.filterMap (Slot.resolve rules exclusions slots row) :=
      funext (factsOf_eq_filterMap rfl hrules)
    rw [facts_process_eq_flatMap, hfacts]
  · intro a b
    simp only [facts_process_eq_flatMap, List.flatMap_append]

/-- Two metrics of a group and one without a header; rules move the first row to another group, and exclude
one metric of it and all of the second row. -/
def campaign : Config :=
  { Config.empty with
    metrics := [.labelled "spend", .labelled "clicks", .labelled "reach"]
    hierarchy := .json (.arr [.obj [("title", .str "Media"), ("count", .ofNat 2)]])
    relocationRules := .json (.arr [.obj [("when", .obj [("region", .str "north")]),
      ("set", .obj [("level1", .str "Abroad"), ("area", .str "N")])]])
    exclusions := .json (.arr [.str "South",
      .obj [("key", .str "metric"), ("values", .arr [.str "clicks"])]]) }

def campaignRows : List Row :=
  [.ofMembers [("spend", .ofNat 10), ("region", .str "North"), ("clicks", .str "4"), ("reach", .str " 2.5 ")],
   .ofMembers [("region", .str "South"), ("spend", .ofNat 7)]]

/-- No metric is left among the dimensions, and texts are read as the numbers `10` and `2.5`. -/
theorem facts_process_campaign :
    let dimensions := Row.ofMembers [("region", .str "North"), ("area", .str "N")]
    ((ofConfig campaign).value.process campaignRows).value.facts =
      [⟨dimensions, ⟨"Abroad", "", "", ""⟩, "spend", "spend", some ⟨false, 0x4024000000000000, by decide⟩⟩,
       ⟨dimensions, ⟨"Abroad", "", "", ""⟩, "", "reach", some ⟨false, 0x4004000000000000, by decide⟩⟩] := by
  rw [(facts_process campaign campaignRows).1]
  decide +kernel

/-- Each row gives its facts alone, and tables that differ in their swaps have the same facts for it, in
another order. -/
theorem facts_process_perm (c : Config) (swaps : Authored) (validateSwaps : Bool) :
    let t := (ofConfig c).value
    let u := (ofConfig { c with swaps, validateSwaps }).value
    (∀ rows, (t.process rows).value.facts = rows.flatMap fun row => (t.process [row]).value.facts) ∧
      (∀ rows, (u.process rows).value.facts =
        rows.flatMap fun row => (u.process [row]).value.facts) ∧
      ∀ row, (t.process [row]).value.facts.Perm (u.process [row]).value.facts := by
  intro t u
  have hrows (v : Table) (rows : List Row) : (v.process rows).value.facts =
      rows.flatMap fun row => (v.process [row]).value.facts := by
    simp only [facts_process_singleton]
    exact v.facts_process_eq_flatMap rows
  refine ⟨hrows t, hrows u, fun row => ?_⟩
  have hplacement : t.placement = u.placement := rfl
  have hpipeline : t.pipeline = u.pipeline := rfl
  rw [facts_process_singleton, facts_process_singleton]
  exact factsOf_perm hplacement hpipeline row

end Table

end PivotTable
