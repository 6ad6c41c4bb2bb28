import PivotTable.Proofs.Rule.Frame
import PivotTable.Pipeline

/-!
# Facts pass through a pipeline one by one

A stage is run on all facts at once, and is left out when it has nothing to do; a pipeline runs its stages
one after the other. Main statements: a pipeline makes of a list of facts what it makes of each of them alone,
and what relocation and exclusion together make of the fact of a slot can be read off the slot and its row.
-/
namespace PivotTable

theorem RuleSet.relocate_of_isEmpty {rules : RuleSet} (h : rules.isEmpty = true) (label : String)
    (c : Combination) : (rules.relocate label c).2 = c := by
  obtain ⟨hretargets, hassignments⟩ : rules.retargets = [] ∧ rules.assignments = [] := by
    simpa [isEmpty, size] using h
  simp [relocate, hretargets, hassignments, Assignment.applyAll]

theorem Fact.relocate_of_isEmpty {rules : RuleSet} (h : rules.isEmpty = true) (f : Fact) :
    f.relocate rules = f := by
  rw [relocate, RuleSet.relocate_of_isEmpty h]
  rfl

/-- The combination that is put together from a relocated fact is the one that was relocated. -/
theorem Fact.combination_relocate {rules : RuleSet} (h : rules.WritesAllowed) (f : Fact) :
    (f.relocate rules).combination = (rules.relocate f.metricKey f.combination).2 :=
  congrArg (Combination.mk · (rules.relocate f.metricKey f.combination).2.dimensions)
    (rules.sameFixed_relocate h f.metricKey f.combination).replace_eq

theorem ExclusionSet.excludes_of_isEmpty {exclusions : ExclusionSet} (h : exclusions.isEmpty = true)
    (t : Tuple) (dimensions : Row) : exclusions.excludes t dimensions = false := by
  obtain ⟨hcells, hfields⟩ : exclusions.cells.toList = [] ∧ exclusions.fields = [] := by
    simpa [isEmpty, size] using h
  simp [excludes, KeySet.contains, hcells, hfields]

namespace Stage

/-- What a stage makes of a single fact, if it keeps it. -/
def pass : Stage → Fact → Option Fact
  | .relocate rules, f => some (f.relocate rules)
  | .exclude exclusions, f =>
    if exclusions.excludes f.combination.tuple f.dimensions then none else some f

theorem run_eq_filterMap (stage : Stage) (facts : List Fact) :
    stage.run facts = facts.filterMap stage.pass := by
  cases stage with
  | relocate rules =>
    have hpass : pass (.relocate rules) = some ∘ Fact.relocate rules := rfl
    rw [run, hpass, List.filterMap_eq_map]
    split
    · next h =>
      have hself : Fact.relocate rules = fun f => f := funext (Fact.relocate_of_isEmpty h)
      rw [hself, List.map_id']
    · rfl
  | exclude exclusions =>
    rw [run]
    split
    · next h =>
      have hpass : pass (.exclude exclusions) = some := by
        funext f
        exact if_neg (Bool.eq_false_iff.1 (ExclusionSet.excludes_of_isEmpty h _ _))
      rw [hpass, List.filterMap_some]
    · rw [← List.filterMap_eq_filter]
      congr 1
      funext f
      cases h : exclusions.excludes f.combination.tuple f.dimensions <;> simp [pass, h]

end Stage

namespace Pipeline

/-- What is left of a single fact behind all stages. -/
def pass : Pipeline → Fact → Option Fact
  | [], f => some f
  | stage :: rest, f => (stage.pass f).bind (pass rest)

theorem facts_run (p : Pipeline) (facts : List Fact) :
    (run p facts).value.1 = facts.filterMap p.pass := by
  induction p generalizing facts with
  | nil => exact List.filterMap_some.symm
  | cons stage rest ih =>
    change (run rest (stage.run facts)).value.1 = _
    rw [ih, Stage.run_eq_filterMap, List.filterMap_filterMap]
    rfl

theorem pass_standard (rules : RuleSet) (exclusions : ExclusionSet) (f : Fact) :
    (standard rules exclusions).pass f =
      if exclusions.excludes (f.relocate rules).combination.tuple (f.relocate rules).dimensions then none
      else some (f.relocate rules) := by
  simp only [standard, pass, Stage.pass, Option.bind_some]
  split <;> rfl

end Pipeline

/-- The cells of a row under columns that are no metric of a slot. -/
def Row.besides (slots : List Slot) (row : Row) : Row :=
  ⟨row.cells.filter fun cell => slots.all fun s => s.metric ≠ cell.1,
    List.Nodup.sublist (List.Sublist.map _ List.filter_sublist) row.nodup⟩

theorem Row.without_metrics (slots : List Slot) (row : Row) :
    row.without (slots.map Slot.metric) = row.besides slots := by
  have hcolumn (column : String) :
      (!(slots.map Slot.metric).contains column) = slots.all fun s => s.metric ≠ column := by
    rw [Bool.eq_iff_iff, Bool.not_eq_true', ← Bool.not_eq_true, List.contains_iff_mem, List.mem_map,
      List.all_eq_true]
    simp only [not_exists, not_and, decide_eq_true_eq]
  simp only [without, besides, hcolumn]

/-- What a row has for the metric of a slot: the number in that cell, or the one that its text writes. -/
def Slot.valueIn (row : Row) (s : Slot) : Option Binary64 :=
  match row.cells.find? fun cell => cell.1 = s.metric with
  | some (_, .num n) => some n.toBinary64
  | some (_, .str text) => Decimal.read? (trimmed text)
  | _ => none

theorem Slot.quantity?_metric (row : Row) (s : Slot) :
    (row.get? s.metric).bind Json.quantity? = s.valueIn row := by
  have hcell : row.get? s.metric = (row.cells.find? fun cell => cell.1 = s.metric).map Prod.snd := by
    unfold Row.get?
    induction row.cells with
    | nil => rfl
    | cons cell rest ih =>
      rw [List.lookup_cons, List.find?_cons]
      by_cases h : cell.1 = s.metric
      · simp [h]
      · simp [h, beq_false_of_ne (Ne.symm h), ih]
  rw [hcell, valueIn]
  cases row.cells.find? (fun cell => decide (cell.1 = s.metric)) with
  | none => rfl
  | some cell =>
    obtain ⟨column, value⟩ := cell
    cases value <;> rfl

/-- One slot in one row: it is relocated among the cells that are under no metric of the slots, and has no
fact if its place is then excluded. -/
def Slot.resolve (rules : RuleSet) (exclusions : ExclusionSet) (slots : List Slot) (row : Row) (s : Slot) :
    Option Fact :=
  let placed := (rules.relocate s.metric ⟨.ofSlot s, row.besides slots⟩).2
  if exclusions.excludes placed.tuple placed.dimensions then none
  else
    some
      { dimensions := placed.dimensions
        path := { placed.tuple.path with level4 := s.path.level4 }
        metric := if s.orphan then "" else s.metric
        metricKey := s.metric
        value := s.valueIn row }

theorem Pipeline.pass_standard_ofSlot {rules : RuleSet} (h : rules.WritesAllowed)
    (exclusions : ExclusionSet) (slots : List Slot) (row : Row) (s : Slot) :
    (standard rules exclusions).pass (Fact.ofSlot row (row.without (slots.map Slot.metric)) s) =
      s.resolve rules exclusions slots row := by
  rw [pass_standard, Fact.combination_relocate h, Fact.ofSlot, s.quantity?_metric, row.without_metrics]
  rfl

end PivotTable
