import Mathlib.Data.List.Find
import PivotTable.Exclusion
import PivotTable.Proofs.Authored
import PivotTable.Proofs.Rule.Decode
import PivotTable.Rule.Relocate

/-!
# Rules see comparison keys

Two combinations agree if all their texts have the same comparison keys, where a column that is missing counts
as blank. A decoded rule cannot tell them apart: no pattern asks for a blank key, and an assignment writes the
same value into both. Main statement: relocation fires the same rules on both and leaves them in agreement,
and the exclusions drop both or neither.
-/
namespace PivotTable

section

variable {α : Type} {p q : α → Bool} {items : List α}

theorem all_congr_of_mem (h : ∀ a ∈ items, p a = q a) : items.all p = items.all q := by
  rw [Bool.eq_iff_iff, List.all_eq_true, List.all_eq_true]
  exact forall₂_congr fun a ha => by rw [h a ha]

theorem any_congr_of_mem (h : ∀ a ∈ items, p a = q a) : items.any p = items.any q := by
  rw [Bool.eq_iff_iff, List.any_eq_true, List.any_eq_true]
  exact exists_congr fun a => and_congr_right fun ha => by rw [h a ha]

theorem findIdx?_congr_of_mem (h : ∀ a ∈ items, p a = q a) :
    items.findIdx? p = items.findIdx? q := by
  induction items with
  | nil => rfl
  | cons a rest ih =>
    obtain ⟨ha, hrest⟩ := List.forall_mem_cons.1 h
    rw [List.findIdx?_cons, List.findIdx?_cons, ha, ih hrest]

end

namespace Text

/-- The comparison key of a text; one that is missing counts as blank. -/
def fieldKey (text : Option String) : String := (text.map matchKey).getD ""

theorem matchKey_empty : matchKey "" = "" := rfl

theorem matchKey_getD (text : Option String) : matchKey (text.getD "") = fieldKey text := by
  cases text with
  | none => exact matchKey_empty
  | some text => rfl

end Text

open Text (matchKey fieldKey)

namespace Row

/-- The comparison key under a column. -/
def keyAt (r : Row) (column : String) : String := ((r.get? column).map Json.key).getD ""

theorem fieldKey_label (r : Row) (column : String) :
    fieldKey ((r.get? column).map Json.label) = r.keyAt column := by
  unfold keyAt
  cases r.get? column <;> rfl

theorem keyAt_put {r : Row} {column other : String} {value : Json} :
    (r.put column value).keyAt other = if other = column then value.key else r.keyAt other := by
  rw [keyAt, get?_put]
  split <;> rfl

/-- Whether a cell has one of some keys that are not blank can be told from the keys under the columns. -/
theorem any_contains_key_iff {keys : KeySet} (h : keys.contains "" = false) (r : Row) :
    r.values.any (fun value => keys.contains value.key) = true ↔
      ∃ column, keys.contains (r.keyAt column) = true := by
  rw [List.any_eq_true]
  constructor
  · rintro ⟨value, hvalue, hkey⟩
    obtain ⟨⟨column, _⟩, hcell, rfl⟩ := List.mem_map.1 hvalue
    refine ⟨column, ?_⟩
    rw [keyAt, get?_eq_some_iff.2 hcell]
    exact hkey
  · rintro ⟨column, hkey⟩
    cases hcell : r.get? column with
    | none =>
      rw [keyAt, hcell] at hkey
      exact absurd hkey (Bool.eq_false_iff.1 h)
    | some value =>
      rw [keyAt, hcell] at hkey
      exact ⟨value, List.mem_map_of_mem (get?_eq_some_iff.1 hcell), hkey⟩

end Row

namespace Path

/-- The levels have the same comparison keys. -/
def Agree (p q : Path) : Prop := ∀ level, matchKey (p.get level) = matchKey (q.get level)

variable {p q : Path}

theorem Agree.put (h : Agree p q) (value : String) (level : Level) :
    Agree (p.put value level) (q.put value level) := by
  intro other
  rw [get_put, get_put]
  split
  · rfl
  · exact h other

theorem Agree.foldl_put (h : Agree p q) (targets : List (Level × String)) :
    Agree (targets.foldl (fun path (level, value) => path.put value level) p)
      (targets.foldl (fun path (level, value) => path.put value level) q) := by
  induction targets generalizing p q with
  | nil => exact h
  | cons target rest ih => exact ih (h.put target.2 target.1)

end Path

namespace Combination

/-- All texts have the same comparison keys, and a column that is missing in one is missing or blank in
the other. -/
structure Agree (c d : Combination) : Prop where
  path : c.tuple.path.Agree d.tuple.path
  metric : matchKey c.tuple.metric = matchKey d.tuple.metric
  cells : ∀ column, c.dimensions.keyAt column = d.dimensions.keyAt column

variable {c d : Combination}

theorem Agree.field? (h : Agree c d) (name : String) :
    fieldKey (c.field? name) = fieldKey (d.field? name) := by
  unfold Combination.field? fieldValue? Tuple.get?
  by_cases hmetric : name = "metric"
  · rw [if_pos hmetric, if_pos hmetric]
    exact h.metric
  · rw [if_neg hmetric, if_neg hmetric]
    cases Level.ofName? name with
    | none =>
      rw [Option.map_none, Option.map_none, Option.none_or, Option.none_or, Row.fieldKey_label,
        Row.fieldKey_label]
      exact h.cells name
    | some level => exact h.path level

theorem Agree.write (h : Agree c d) (field : String) (value : Json) :
    Agree (c.write field value) (d.write field value) := by
  unfold Combination.write Tuple.put?
  cases Tuple.writableLevel? field with
  | none =>
    refine ⟨h.path, h.metric, fun column => ?_⟩
    change (c.dimensions.put field value).keyAt column = (d.dimensions.put field value).keyAt column
    rw [Row.keyAt_put, Row.keyAt_put, h.cells]
  | some level => exact ⟨h.path.put value.label level, h.metric, h.cells⟩

end Combination

open Combination (Agree)

variable {c d : Combination}

namespace KeySet

theorem contains_nonempty_blank (s : KeySet) : s.nonempty.contains "" = false := by
  simp [contains, nonempty]

/-- A set that does not accept blank texts accepts no field that is missing. -/
theorem any_accepts {values : KeySet} (h : values.contains "" = false) (text : Option String) :
    text.any values.accepts = values.contains (fieldKey text) := by
  cases text with
  | none => exact h.symm
  | some text => rfl

end KeySet

namespace Pattern

/-- The pattern asks for nothing but the comparison key of a field. -/
def SeesKeys (p : Pattern) : Prop :=
  ∀ a b : Option String, fieldKey a = fieldKey b → p.accepts a = p.accepts b

theorem seesKeys_any : SeesKeys .any := fun _ _ _ => rfl

theorem seesKeys_oneOf {values : KeySet} (h : values.contains "" = false) :
    SeesKeys (.oneOf values) := by
  have haccepts (text : Option String) :
      (Pattern.oneOf values).accepts text = values.contains (fieldKey text) := by
    rw [← KeySet.any_accepts h]
    cases text <;> rfl
  intro a b hab
  rw [haccepts, haccepts, hab]

theorem seesKeys_ofJson (value : Json) : (ofJson value).SeesKeys := by
  unfold ofJson
  split
  · exact seesKeys_any
  · dsimp only
    split
    · exact seesKeys_any
    · exact seesKeys_oneOf (KeySet.contains_nonempty_blank _)

theorem seesKeys_ofOption (value : Option Json) : (ofOption value).SeesKeys := by
  cases value with
  | none => exact seesKeys_any
  | some value => exact seesKeys_ofJson value

end Pattern

namespace Retarget

structure SeesKeys (rule : Retarget) : Prop where
  level1 : rule.level1.SeesKeys
  level2 : rule.level2.SeesKeys
  level3 : rule.level3.SeesKeys
  platform : rule.platform.SeesKeys
  metric : rule.metric.SeesKeys
  conditions : ∀ condition ∈ rule.conditions, condition.2.SeesKeys

variable {rule : Retarget}

theorem SeesKeys.isMet_congr (hrule : rule.SeesKeys) (platformColumn : String) {label other : String}
    (hlabel : matchKey label = matchKey other) (h : Agree c d) :
    rule.isMet platformColumn label c = rule.isMet platformColumn other d := by
  have hplatform : rule.platform.accepts ((c.dimensions.get? platformColumn).map Json.label) =
      rule.platform.accepts ((d.dimensions.get? platformColumn).map Json.label) := by
    apply hrule.platform
    rw [Row.fieldKey_label, Row.fieldKey_label]
    exact h.cells platformColumn
  have hconditions : ∀ condition ∈ rule.conditions,
      condition.2.accepts (c.field? condition.1) = condition.2.accepts (d.field? condition.1) :=
    fun condition hmem => hrule.conditions condition hmem _ _ (h.field? condition.1)
  unfold isMet
  rw [hrule.level1 (some c.tuple.path.level1) (some d.tuple.path.level1) (h.path .level1),
    hrule.level2 (some c.tuple.path.level2) (some d.tuple.path.level2) (h.path .level2),
    hrule.level3 (some c.tuple.path.level3) (some d.tuple.path.level3) (h.path .level3),
    hrule.metric (some label) (some other) hlabel, hplatform]
  exact congrArg _ (all_congr_of_mem hconditions)

theorem agree_apply (rule : Retarget) (h : Agree c d) : Agree (rule.apply c) (rule.apply d) :=
  ⟨h.path.foldl_put rule.targets, h.metric, h.cells⟩

end Retarget

namespace Assignment

theorem isMet_congr (rule : Assignment) (h : Agree c d) : rule.isMet c = rule.isMet d := by
  simp only [isMet, KeySet.accepts, Text.matchKey_getD, h.field?]

theorem agree_apply (rule : Assignment) (h : Agree c d) : Agree (rule.apply c) (rule.apply d) := by
  unfold apply
  induction rule.values generalizing c d with
  | nil => exact h
  | cons entry rest ih => exact ih (h.write entry.1 entry.2)

theorem agree_applyAll (rules : List Assignment) (position : Nat) (h : Agree c d) :
    (applyAll position rules c).1 = (applyAll position rules d).1 ∧
      Agree (applyAll position rules c).2 (applyAll position rules d).2 := by
  induction rules generalizing position c d with
  | nil => exact ⟨rfl, h⟩
  | cons rule rest ih =>
    rw [applyAll, applyAll, rule.isMet_congr h]
    split
    · obtain ⟨hfired, hagree⟩ := ih (position + 1) (rule.agree_apply h)
      exact ⟨congrArg (position :: ·) hfired, hagree⟩
    · exact ih (position + 1) h

end Assignment

namespace RuleSet

def SeesKeys (rules : RuleSet) : Prop := ∀ rule ∈ rules.retargets, rule.SeesKeys

theorem seesKeys_ofAuthored (platformRules relocationRules : Authored) (platformColumn : String) :
    (ofAuthored platformRules relocationRules platformColumn).value.SeesKeys := by
  intro rule hrule
  obtain ⟨field, index, origin, members, hmade⟩ := exists_entry_of_mem_retargets hrule
  obtain rfl := Rule.retarget.inj hmade
  refine ⟨Pattern.seesKeys_ofOption _, Pattern.seesKeys_ofOption _, Pattern.seesKeys_ofOption _,
    Pattern.seesKeys_ofOption _, Pattern.seesKeys_ofOption _, ?_⟩
  intro condition hmem
  obtain ⟨member, -, rfl⟩ := List.mem_map.1 (List.mem_filter.1 hmem).1
  exact Pattern.seesKeys_ofJson member.2

/-- Relocation fires the same rules and writes the same values. -/
theorem SeesKeys.agree_relocate {rules : RuleSet} (hrules : rules.SeesKeys) {label other : String}
    (hlabel : matchKey label = matchKey other) (h : Agree c d) :
    (rules.relocate label c).1 = (rules.relocate other d).1 ∧
      Agree (rules.relocate label c).2 (rules.relocate other d).2 := by
  have hmet : ∀ rule ∈ rules.retargets,
      rule.isMet rules.platformColumn label c = rule.isMet rules.platformColumn other d :=
    fun rule hrule => (hrules rule hrule).isMet_congr _ hlabel h
  unfold relocate
  rw [List.find?_congr hmet, findIdx?_congr_of_mem hmet]
  cases rules.retargets.find? (·.isMet rules.platformColumn other d) with
  | none =>
    obtain ⟨hfired, hagree⟩ := Assignment.agree_applyAll rules.assignments 0 h
    exact ⟨congrArg (Relocation.mk _) hfired, hagree⟩
  | some rule =>
    obtain ⟨hfired, hagree⟩ := Assignment.agree_applyAll rules.assignments 0 (rule.agree_apply h)
    exact ⟨congrArg (Relocation.mk _) hfired, hagree⟩

end RuleSet

namespace Exclusion

/-- The exclusion never applies to a blank text. -/
def SkipsBlank : Exclusion → Prop
  | .cell key => key ≠ ""
  | .field _ values => values.contains "" = false

theorem skipsBlank_of_ofEntry {value : Json} {e : Exclusion} (h : ofEntry value = .ok (some e)) :
    e.SkipsBlank := by
  unfold ofEntry at h
  split at h
  · split at h
    · split at h
      · cases h
      · split at h
        · dsimp only at h
          split at h
          · cases h
          · obtain rfl := Option.some.inj (Except.ok.inj h)
            exact KeySet.contains_nonempty_blank _
        · cases h
    · cases h
  · cases h
  · split at h
    · cases h
    · next hkey =>
      obtain rfl := Option.some.inj (Except.ok.inj h)
      simpa [SkipsBlank, String.isEmpty_iff] using hkey

end Exclusion

namespace ExclusionSet

structure SkipsBlank (s : ExclusionSet) : Prop where
  cells : s.cells.contains "" = false
  fields : ∀ field ∈ s.fields, field.2.contains "" = false

theorem SkipsBlank.add {s : ExclusionSet} {e : Exclusion} (hs : s.SkipsBlank) (he : e.SkipsBlank) :
    (s.add e).SkipsBlank := by
  cases e with
  | cell key =>
    refine ⟨?_, hs.fields⟩
    have hkey : "" ≠ key := Ne.symm he
    have hold : "" ∉ s.cells.toList := by
      rw [← KeySet.contains_iff_mem, hs.cells]
      exact Bool.false_ne_true
    rw [Bool.eq_false_iff, Ne, KeySet.contains_iff_mem, ExclusionSet.add, KeySet.mem_toList_insert]
    exact fun h => h.elim hkey hold
  | field name values =>
    refine ⟨hs.cells, fun field hfield => ?_⟩
    rcases List.mem_append.1 hfield with hfield | hfield
    · exact hs.fields field hfield
    · rw [List.mem_singleton.1 hfield]
      exact he

theorem skipsBlank_ofList {exclusions : List Exclusion} (h : ∀ e ∈ exclusions, e.SkipsBlank) :
    (ofList exclusions).SkipsBlank := by
  suffices hfoldl : ∀ s : ExclusionSet, s.SkipsBlank → (exclusions.foldl add s).SkipsBlank from
    hfoldl empty ⟨rfl, nofun⟩
  induction exclusions with
  | nil => exact fun _ hs => hs
  | cons e rest ih =>
    obtain ⟨he, hrest⟩ := List.forall_mem_cons.1 h
    exact fun s hs => ih hrest (s.add e) (hs.add he)

theorem skipsBlank_ofAuthored (a : Authored) : (ofAuthored a).value.SkipsBlank := by
  apply skipsBlank_ofList
  intro e he
  obtain ⟨⟨index, made⟩, hmem, hmade⟩ := List.mem_filterMap.1 he
  obtain ⟨item, -, hitem⟩ := Authored.exists_of_mem_acceptItems hmem
  obtain rfl : made = some e := hmade
  exact Exclusion.skipsBlank_of_ofEntry hitem

theorem SkipsBlank.excludes_congr {s : ExclusionSet} (hs : s.SkipsBlank) (h : Agree c d) :
    s.excludes c.tuple c.dimensions = s.excludes d.tuple d.dimensions := by
  have hcells : c.dimensions.values.any (fun value => s.cells.contains value.key) =
      d.dimensions.values.any fun value => s.cells.contains value.key := by
    rw [Bool.eq_iff_iff, Row.any_contains_key_iff hs.cells, Row.any_contains_key_iff hs.cells]
    simp only [h.cells]
  have hfields : ∀ field ∈ s.fields,
      (c.field? field.1).any field.2.accepts = (d.field? field.1).any field.2.accepts := by
    intro field hmem
    rw [KeySet.any_accepts (hs.fields field hmem), KeySet.any_accepts (hs.fields field hmem), h.field?]
  exact congrArg₂ or hcells (any_congr_of_mem hfields)

end ExclusionSet

namespace Combination

/-- Decoded rules and exclusions treat two combinations that agree alike. -/
theorem agree_relocate_excludes (platformRules relocationRules exclusions : Authored)
    (platformColumn : String) {label other : String}
    (hlabel : matchKey label = matchKey other) (h : Agree c d) :
    let rules := (RuleSet.ofAuthored platformRules relocationRules platformColumn).value
    let dropped := (ExclusionSet.ofAuthored exclusions).value
    let placed := rules.relocate label c
    let placed' := rules.relocate other d
    placed.1 = placed'.1 ∧ Agree placed.2 placed'.2 ∧
      dropped.excludes c.tuple c.dimensions = dropped.excludes d.tuple d.dimensions ∧
      dropped.excludes placed.2.tuple placed.2.dimensions =
        dropped.excludes placed'.2.tuple placed'.2.dimensions := by
  have hrules := RuleSet.seesKeys_ofAuthored platformRules relocationRules platformColumn
  have hdropped := ExclusionSet.skipsBlank_ofAuthored exclusions
  obtain ⟨hfired, hplaced⟩ := hrules.agree_relocate hlabel h
  exact ⟨hfired, hplaced, hdropped.excludes_congr h, hdropped.excludes_congr hplaced⟩

/-- A combination without a campaign. -/
def spelled : Combination where
  tuple := ⟨⟨"Mídia", "", "", "Brand"⟩, "spend"⟩
  dimensions := (Row.empty.put "platform" (.str "META")).put "city" (.str "São Paulo")

/-- The same in another spelling, with a campaign that is blank. -/
def respelled : Combination where
  tuple := ⟨⟨"MIDIA", " ", "-", "brand"⟩, "Spend"⟩
  dimensions := ((Row.empty.put "city" (.str "sao-paulo")).put "campaign" .null).put "platform"
    (.str "Meta!")

theorem agree_relocate_excludes_respelled :
    let platformRules := Authored.json (.arr [.obj
      [("from", .obj [("level1", .str "midia"), ("platform", .str "meta")]),
        ("to", .obj [("level2", .str "Social")])]])
    let relocationRules := Authored.json (.arr [.obj
      [("when", .obj [("campaign", .str "")]), ("set", .obj [("tier", .str "A")])]])
    let exclusions := Authored.json (.arr [.obj [("key", .str "city"), ("values", .str "SÃO PAULO")]])
    let rules := (RuleSet.ofAuthored platformRules relocationRules "platform").value
    let dropped := (ExclusionSet.ofAuthored exclusions).value
    matchKey "spend" = matchKey "SPEND" ∧ Agree spelled respelled ∧
      (rules.relocate "SPEND" respelled).1 = ⟨some 0, [0]⟩ ∧
      Agree (rules.relocate "spend" spelled).2 (rules.relocate "SPEND" respelled).2 ∧
      dropped.excludes respelled.tuple respelled.dimensions = true := by
  intro platformRules relocationRules exclusions rules dropped
  have hlabel : matchKey "spend" = matchKey "SPEND" := by decide +kernel
  have hagree : Agree spelled respelled := by
    refine ⟨?_, by decide +kernel, ?_⟩
    · intro level
      cases level <;> decide +kernel
    · intro column
      have hplatform : Json.key (.str "META") = Json.key (.str "Meta!") := by decide +kernel
      have hcity : Json.key (.str "São Paulo") = Json.key (.str "sao-paulo") := by decide +kernel
      have hempty : Row.empty.keyAt column = Json.key .null := rfl
      simp only [spelled, respelled, Row.keyAt_put, hplatform, hcity, hempty]
      grind
  obtain ⟨hfired, hplaced, hexcludes, -⟩ :=
    agree_relocate_excludes platformRules relocationRules exclusions "platform" hlabel hagree
  refine ⟨hlabel, hagree, ?_, hplaced, ?_⟩
  · rw [← hfired]
    decide +kernel
  · rw [← hexcludes]
    decide +kernel

end Combination

end PivotTable
