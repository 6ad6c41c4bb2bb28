import PivotTable.Rule.Decode

/-!
# Where decoded rules come from

Every rule of a table is made from an entry of one of its two lists of rules. So what holds of the rule that
any entry makes, under any field and index, holds of every rule of a table; and whatever an entry asks for,
its rule only overwrites levels that rules may write.
-/
namespace PivotTable

namespace Rule

theorem exists_entry_of_mem_ofAuthored {field : String} {a : Authored} {rule : Rule}
    (h : rule ∈ (ofAuthored field a).value) :
    ∃ index entry, rule = (ofEntry field index entry).value := by
  rw [ofAuthored, Reported.value_bind, Reported.value_mapM] at h
  obtain ⟨⟨index, entry⟩, -, rfl⟩ := List.mem_map.1 h
  exact ⟨index, entry, rfl⟩

theorem isWritable_of_writableLevel? {key : String} {level : Level}
    (h : Tuple.writableLevel? key = some level) : Tuple.isWritable level = true :=
  (Option.filter_eq_some_iff.1 h).2

theorem isWritable_of_mem_targets {field : String} {members : Members} {target : Level × String}
    (h : target ∈ (targets field members).value) : Tuple.isWritable target.1 = true := by
  fun_induction targets field members with
  | case1 => cases h
  | case2 key rest ih => exact ih h
  | case3 key value rest hvalue level hlevel ih =>
    rcases List.mem_cons.1 h with rfl | h
    · exact isWritable_of_writableLevel? hlevel
    · exact ih h
  | case4 key value rest hvalue hlevel ih => exact ih h

theorem isLocked_of_mem_assigned {field : String} {members : Members} {cell : String × Json}
    (h : cell ∈ (assigned field members).value) : isLocked cell.1 = false := by
  fun_induction assigned field members with
  | case1 => cases h
  | case2 key value rest hlocked ih => exact ih h
  | case3 key value rest hlocked ih =>
    rcases List.mem_cons.1 h with rfl | h
    · exact Bool.eq_false_iff.2 hlocked
    · exact ih h

end Rule

namespace RuleSet

variable {platformRules relocationRules : Authored} {platformColumn : String}

theorem mem_rules {rule : Rule}
    (h : rule ∈ (Rule.ofAuthored "platformRules" platformRules).value ++
      (Rule.ofAuthored "relocationRules" relocationRules).value) :
    ∃ field index entry, rule = (Rule.ofEntry field index entry).value := by
  rcases List.mem_append.1 h with h | h
  · exact ⟨_, Rule.exists_entry_of_mem_ofAuthored h⟩
  · exact ⟨_, Rule.exists_entry_of_mem_ofAuthored h⟩

theorem exists_entry_of_mem_retargets {rule : Retarget}
    (h : rule ∈ (ofAuthored platformRules relocationRules platformColumn).value.retargets) :
    ∃ field index origin members,
      .retarget rule = (Rule.ofEntry field index (.fromTo origin members)).value := by
  obtain ⟨made, hmade, hrule⟩ := List.mem_filterMap.1 h
  obtain ⟨field, index, entry, rfl⟩ := mem_rules hmade
  cases entry with
  | fromTo origin members =>
    obtain rfl := Option.some.inj hrule
    exact ⟨field, index, origin, members, rfl⟩
  | whenSet conditions values => cases hrule

/-- No retarget rule overwrites a level that rules may not write. -/
def WritesAllowed (rules : RuleSet) : Prop :=
  ∀ rule ∈ rules.retargets, ∀ target ∈ rule.targets, Tuple.isWritable target.1 = true

theorem writesAllowed_ofAuthored (platformRules relocationRules : Authored) (platformColumn : String) :
    (ofAuthored platformRules relocationRules platformColumn).value.WritesAllowed := by
  intro rule hrule target htarget
  obtain ⟨field, index, origin, members, hmade⟩ := exists_entry_of_mem_retargets hrule
  obtain rfl := Rule.retarget.inj hmade
  exact Rule.isWritable_of_mem_targets htarget

theorem exists_entry_of_mem_assignments {rule : Assignment}
    (h : rule ∈ (ofAuthored platformRules relocationRules platformColumn).value.assignments) :
    ∃ field index conditions values,
      .assign rule = (Rule.ofEntry field index (.whenSet conditions values)).value := by
  obtain ⟨made, hmade, hrule⟩ := List.mem_filterMap.1 h
  obtain ⟨field, index, entry, rfl⟩ := mem_rules hmade
  cases entry with
  | fromTo origin members => cases hrule
  | whenSet conditions values =>
    obtain rfl := Option.some.inj hrule
    exact ⟨field, index, conditions, values, rfl⟩

/-- No assignment names a field that is locked. -/
def SparesLocked (rules : RuleSet) : Prop :=
  ∀ rule ∈ rules.assignments, ∀ cell ∈ rule.values, Rule.isLocked cell.1 = false

theorem sparesLocked_ofAuthored (platformRules relocationRules : Authored) (platformColumn : String) :
    (ofAuthored platformRules relocationRules platformColumn).value.SparesLocked := by
  intro rule hrule cell hcell
  obtain ⟨field, index, conditions, values, hmade⟩ := exists_entry_of_mem_assignments hrule
  obtain rfl := Rule.assign.inj hmade
  exact Rule.isLocked_of_mem_assigned hcell

end RuleSet

end PivotTable
