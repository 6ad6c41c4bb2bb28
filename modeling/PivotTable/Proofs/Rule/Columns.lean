import PivotTable.Proofs.Pipeline

/-!
# What relocation writes

A rule writes cells only under the columns that its assignment names, and none under the name of a field of the
tuple: a level that may be written goes into the tuple, and the other fields are locked. Cells keep their
places, and new ones come behind them. Main statement: relocation stays within this frame, whichever of the
rules apply, and so the stage that relocates facts leaves their number, order and metrics alone.
-/
namespace PivotTable

theorem Members.columns_put {key : String} {value : Json} {members : Members} :
    columns (members.put key value) =
      if key ∈ columns members then columns members else columns members ++ [key] := by
  induction members with
  | nil => rfl
  | cons cell rest ih =>
    obtain ⟨column, content⟩ := cell
    change columns (if column = key then (column, value) :: rest else (column, content) :: put key value rest) =
      if key ∈ column :: columns rest then column :: columns rest else column :: columns rest ++ [key]
    by_cases h : column = key
    · rw [if_pos h, if_pos (by simp [h])]
      rfl
    · rw [if_neg h]
      change column :: columns (put key value rest) = _
      rw [ih]
      by_cases hmem : key ∈ columns rest
      · rw [if_pos hmem, if_pos (List.mem_cons_of_mem _ hmem)]
      · have hnew : key ∉ column :: columns rest := by
          simp [hmem, Ne.symm h]
        rw [if_neg hmem, if_neg hnew]
        rfl

/-- The cells that there were are in their places, and cells are written only under these columns. -/
structure Row.Written (columns : String → Prop) (before after : Row) : Prop where
  kept : before.columns <+: after.columns
  others : ∀ column, ¬ columns column → after.get? column = before.get? column

namespace Row.Written

variable {columns wider : String → Prop} {r s t : Row}

theorem refl (columns : String → Prop) (r : Row) : Written columns r r := ⟨List.prefix_rfl, fun _ _ => rfl⟩

theorem trans (hrs : Written columns r s) (hst : Written columns s t) : Written columns r t :=
  ⟨hrs.kept.trans hst.kept, fun column h => (hst.others column h).trans (hrs.others column h)⟩

theorem mono (h : Written columns r s) (hwider : ∀ column, columns column → wider column) :
    Written wider r s :=
  ⟨h.kept, fun column hcolumn => h.others column (mt (hwider column) hcolumn)⟩

theorem put {column : String} (h : columns column) (r : Row) (value : Json) :
    Written columns r (r.put column value) where
  kept := by
    change Members.columns r.cells <+: Members.columns (Members.put column value r.cells)
    rw [Members.columns_put]
    split
    · exact List.prefix_rfl
    · exact List.prefix_append _ _
  others other hother := by
    rw [get?_put, if_neg]
    rintro rfl
    exact hother h

end Row.Written

open PivotTable.Row (Written)

/-- The names under which rules see the tuple. -/
def Tuple.fields : List String := Level.all.map Level.name ++ ["metric"]

/-- A field that is neither locked nor taken by the tuple is the name of a column. -/
theorem Tuple.not_mem_fields {t : Tuple} {field value : String} (hlocked : Rule.isLocked field = false)
    (hput : t.put? field value = none) : field ∉ fields := by
  intro hfield
  simp only [fields, Level.all, Level.name, List.map_cons, List.map_nil, List.cons_append,
    List.nil_append, List.mem_cons, List.not_mem_nil, or_false] at hfield
  rcases hfield with rfl | rfl | rfl | rfl | rfl
  · cases hput
  · cases hput
  · cases hput
  · cases hlocked
  · cases hlocked

/-- The assignment names this column, which is none of the fields of the tuple. -/
def Assignment.Names (rule : Assignment) (column : String) : Prop :=
  column ∉ Tuple.fields ∧ column ∈ Members.columns rule.values

/-- One of the assignments at these positions names the column. -/
def RuleSet.Assigns (rules : RuleSet) (positions : List Nat) (column : String) : Prop :=
  ∃ position ∈ positions, ∃ rule, rules.assignments[position]? = some rule ∧ rule.Names column

theorem Combination.written_write (c : Combination) {field : String} (hlocked : Rule.isLocked field = false)
    (value : Json) :
    Written (fun column => column ∉ Tuple.fields ∧ column = field) c.dimensions
      (c.write field value).dimensions := by
  unfold write
  cases hput : c.tuple.put? field value.label with
  | some tuple => exact .refl _ _
  | none => exact .put ⟨Tuple.not_mem_fields hlocked hput, rfl⟩ _ _

namespace Assignment

theorem written_apply {rule : Assignment} (hlocked : ∀ cell ∈ rule.values, Rule.isLocked cell.1 = false)
    (c : Combination) : Written rule.Names c.dimensions (rule.apply c).dimensions := by
  unfold apply
  refine List.foldlRecOn rule.values _ (motive := fun result : Combination =>
    Written rule.Names c.dimensions result.dimensions) (.refl _ _) ?_
  intro result hresult cell hcell
  have hwrites := result.written_write (hlocked cell hcell) cell.2
  refine hresult.trans (hwrites.mono ?_)
  rintro column ⟨hfield, rfl⟩
  exact ⟨hfield, List.mem_map_of_mem hcell⟩

/-- What is written comes from the assignments that are told, counted from the position of the first. -/
theorem written_applyAll {rules : List Assignment}
    (hlocked : ∀ rule ∈ rules, ∀ cell ∈ rule.values, Rule.isLocked cell.1 = false) (position : Nat)
    (c : Combination) :
    Written (fun column => ∃ k rule, position + k ∈ (applyAll position rules c).1 ∧
        rules[k]? = some rule ∧ rule.Names column)
      c.dimensions (applyAll position rules c).2.dimensions := by
  induction rules generalizing position c with
  | nil => exact .refl _ _
  | cons rule rest ih =>
    obtain ⟨hrule, hrest⟩ := List.forall_mem_cons.1 hlocked
    have hnext (k : Nat) : position + 1 + k = position + (k + 1) := by omega
    rw [applyAll]
    split
    · refine .trans (.mono (written_apply hrule c) fun column hnames => ?_)
        (.mono (ih hrest (position + 1) (rule.apply c)) ?_)
      · exact ⟨0, rule, List.mem_cons_self .., rfl, hnames⟩
      · rintro column ⟨k, other, hfired, hother, hnames⟩
        exact ⟨k + 1, other, List.mem_cons_of_mem _ (hnext k ▸ hfired), hother, hnames⟩
    · refine .mono (ih hrest (position + 1) c) ?_
      rintro column ⟨k, other, hfired, hother, hnames⟩
      exact ⟨k + 1, other, hnext k ▸ hfired, hother, hnames⟩

theorem applyAll_of_none {rules : List Assignment} {position : Nat} {c : Combination}
    (h : (applyAll position rules c).1 = []) : (applyAll position rules c).2 = c := by
  induction rules generalizing position with
  | nil => rfl
  | cons rule rest ih =>
    rw [applyAll] at h ⊢
    split at h
    · cases h
    · next hunmet =>
      rw [if_neg hunmet]
      exact ih h

end Assignment

namespace RuleSet

variable {rules : RuleSet}

theorem written_relocate (hlocked : rules.SparesLocked) (label : String) (c : Combination) :
    Written (rules.Assigns (rules.relocate label c).1.assignments) c.dimensions
      (rules.relocate label c).2.dimensions := by
  have hwritten (start : Combination) (hstart : start.dimensions = c.dimensions) :
      Written (rules.Assigns (Assignment.applyAll 0 rules.assignments start).1) c.dimensions
        (Assignment.applyAll 0 rules.assignments start).2.dimensions := by
    rw [← hstart]
    refine .mono (Assignment.written_applyAll hlocked 0 start) ?_
    rintro column ⟨k, rule, hfired, hrule, hnames⟩
    rw [Nat.zero_add] at hfired
    exact ⟨k, hfired, rule, hrule, hnames⟩
  unfold relocate
  split
  · exact hwritten _ rfl
  · exact hwritten _ rfl

theorem relocate_of_not_isRelocated {label : String} {c : Combination}
    (h : (rules.relocate label c).1.isRelocated = false) : (rules.relocate label c).2 = c := by
  obtain ⟨hretarget, hassignments⟩ : (rules.relocate label c).1.retarget = none ∧
      (rules.relocate label c).1.assignments = [] := by
    simpa [Relocation.isRelocated] using h
  have hnone : rules.retargets.find? (·.isMet rules.platformColumn label c) = none :=
    List.find?_eq_none.2 fun rule hrule =>
      Bool.eq_false_iff.1 (List.findIdx?_eq_none_iff.1 hretarget rule hrule)
  unfold relocate at hassignments ⊢
  rw [hnone] at hassignments ⊢
  exact Assignment.applyAll_of_none hassignments

end RuleSet

theorem Stage.run_relocate (rules : RuleSet) (facts : List Fact) :
    (Stage.relocate rules).run facts = facts.map (Fact.relocate rules) := by
  rw [run_eq_filterMap, ← List.filterMap_eq_map]
  rfl

/-- The parts of a fact that tell its slot and its value are the same. -/
structure Fact.SameValue (f g : Fact) : Prop where
  level4 : f.path.level4 = g.path.level4
  metric : f.metric = g.metric
  metricKey : f.metricKey = g.metricKey
  value : f.value = g.value

/-- Rules that were decoded write cells only under columns that an assignment names which applied, and leave
everything else alone. -/
theorem RuleSet.relocate_frame (platformRules relocationRules : Authored) (platformColumn : String) :
    let rules := (ofAuthored platformRules relocationRules platformColumn).value
    (∀ (label : String) (c : Combination),
      let outcome := (rules.relocate label c).1
      let result := (rules.relocate label c).2
      result.tuple.path.level4 = c.tuple.path.level4 ∧ result.tuple.metric = c.tuple.metric ∧
        c.dimensions.columns <+: result.dimensions.columns ∧
        (∀ column, result.dimensions.get? column ≠ c.dimensions.get? column →
          column ∉ Tuple.fields ∧ ∃ position ∈ outcome.assignments, ∃ rule,
            rules.assignments[position]? = some rule ∧ column ∈ Members.columns rule.values) ∧
        (outcome.isRelocated = false → result = c)) ∧
      ∀ facts, (Stage.relocate rules).run facts = facts.map (Fact.relocate rules) ∧
        ∀ f ∈ facts, Fact.SameValue (f.relocate rules) f := by
  intro rules
  refine ⟨fun label c => ?_, fun facts => ⟨Stage.run_relocate rules facts, fun f _ => ⟨rfl, rfl, rfl, rfl⟩⟩⟩
  have hfixed := rules.sameFixed_relocate (writesAllowed_ofAuthored _ _ _) label c
  have hwritten := rules.written_relocate (sparesLocked_ofAuthored _ _ _) label c
  refine ⟨hfixed.level4, hfixed.metric, hwritten.kept, fun column hchanged => ?_, relocate_of_not_isRelocated⟩
  have hassigns : rules.Assigns (rules.relocate label c).1.assignments column :=
    Classical.byContradiction fun h => hchanged (hwritten.others column h)
  obtain ⟨position, hfired, rule, hrule, hfield, hnamed⟩ := hassigns
  exact ⟨hfield, position, hfired, rule, hrule, hnamed⟩

end PivotTable
