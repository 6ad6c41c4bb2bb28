import PivotTable.Proofs.Rule.Decode
import PivotTable.Rule.Relocate

/-!
# What relocation leaves alone

A retarget rule writes levels, and an assignment writes levels and cells, but neither ever reaches the lowest
level of a tuple or its metric: a rule that was decoded has no target there. Main statement: relocation keeps
both, whatever the rules.
-/
namespace PivotTable

/-- The parts of a tuple that no rule may write are the same. -/
structure Tuple.SameFixed (t u : Tuple) : Prop where
  level4 : t.path.level4 = u.path.level4
  metric : t.metric = u.metric

namespace Tuple.SameFixed

variable {t u v : Tuple}

theorem refl (t : Tuple) : SameFixed t t := ⟨rfl, rfl⟩

theorem trans (htu : SameFixed t u) (huv : SameFixed u v) : SameFixed t v :=
  ⟨htu.level4.trans huv.level4, htu.metric.trans huv.metric⟩

theorem replace_eq (h : SameFixed t u) :
    (⟨{ t.path with level4 := u.path.level4 }, u.metric⟩ : Tuple) = t := by
  rw [← h.level4, ← h.metric]

end Tuple.SameFixed

open PivotTable.Tuple (SameFixed)

theorem Path.level4_put {level : Level} (h : Tuple.isWritable level = true) (p : Path)
    (value : String) : (p.put value level).level4 = p.level4 := by
  cases level with
  | level4 => cases h
  | level1 => rfl
  | level2 => rfl
  | level3 => rfl

theorem Path.level4_foldl_put {targets : List (Level × String)}
    (h : ∀ target ∈ targets, Tuple.isWritable target.1 = true) (p : Path) :
    (targets.foldl (fun path (level, value) => path.put value level) p).level4 = p.level4 := by
  induction targets generalizing p with
  | nil => rfl
  | cons target rest ih =>
    obtain ⟨htarget, hrest⟩ := List.forall_mem_cons.1 h
    exact (ih hrest _).trans (level4_put htarget p target.2)

theorem Combination.sameFixed_write (c : Combination) (field : String) (value : Json) :
    SameFixed (c.write field value).tuple c.tuple := by
  unfold write
  cases hput : c.tuple.put? field value.label with
  | none => exact .refl _
  | some tuple =>
    obtain ⟨level, hlevel, rfl⟩ := Option.map_eq_some_iff.1 hput
    exact ⟨Path.level4_put (Rule.isWritable_of_writableLevel? hlevel) _ _, rfl⟩

theorem Retarget.sameFixed_apply {rule : Retarget}
    (h : ∀ target ∈ rule.targets, Tuple.isWritable target.1 = true) (c : Combination) :
    SameFixed (rule.apply c).tuple c.tuple :=
  ⟨Path.level4_foldl_put h _, rfl⟩

namespace Assignment

theorem sameFixed_apply (rule : Assignment) (c : Combination) :
    SameFixed (rule.apply c).tuple c.tuple := by
  unfold apply
  induction rule.values generalizing c with
  | nil => exact .refl _
  | cons entry rest ih => exact (ih _).trans (c.sameFixed_write entry.1 entry.2)

theorem sameFixed_applyAll (rules : List Assignment) (position : Nat) (c : Combination) :
    SameFixed (applyAll position rules c).2.tuple c.tuple := by
  induction rules generalizing position c with
  | nil => exact .refl _
  | cons rule rest ih =>
    rw [applyAll]
    split
    · exact (ih (position + 1) (rule.apply c)).trans (rule.sameFixed_apply c)
    · exact ih (position + 1) c

end Assignment

theorem RuleSet.sameFixed_relocate {rules : RuleSet} (h : rules.WritesAllowed) (label : String)
    (c : Combination) : SameFixed (rules.relocate label c).2.tuple c.tuple := by
  unfold relocate
  split
  · next rule hrule =>
    have hallowed := h rule (List.mem_of_find?_eq_some hrule)
    exact (Assignment.sameFixed_applyAll _ 0 _).trans (Retarget.sameFixed_apply hallowed c)
  · exact Assignment.sameFixed_applyAll _ 0 c

end PivotTable
