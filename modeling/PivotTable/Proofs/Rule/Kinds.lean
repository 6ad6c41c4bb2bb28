import PivotTable.Proofs.Authored
import PivotTable.Proofs.Rule.Decode
import PivotTable.Rule.Relocate

/-!
# Rule lists of two kinds

An entry of a rule list is a retarget rule or an assignment. Relocation asks for the entries of each kind in
their order and for nothing else: not for how the kinds are interleaved, nor for which of the two lists holds an
entry, nor for its place there. Of the retarget rules it needs the first one that matches. Main statement: two
pairs of lists with the same entries of each kind relocate alike, and so does a pair that has kept, of all its
retarget rules, only that one.
-/
namespace PivotTable

namespace Rule

/-- The entry is an object with `from` and `to`. -/
def isFromTo (item : Json) : Bool :=
  match entry item with
  | .ok (.fromTo ..) => true
  | _ => false

/-- The entry is an object with `when` and `set`, and not of the first kind. -/
def isWhenSet (item : Json) : Bool :=
  match entry item with
  | .ok (.whenSet ..) => true
  | _ => false

end Rule

def Retarget.unplaced (rule : Retarget) : Retarget := { rule with index := 0 }

def Assignment.unplaced (rule : Assignment) : Assignment := { rule with index := 0 }

namespace Rule

def unplaced : Rule → Rule
  | .retarget rule => .retarget rule.unplaced
  | .assign rule => .assign rule.unplaced

theorem retarget?_unplaced (rule : Rule) :
    rule.unplaced.retarget? = rule.retarget?.map Retarget.unplaced := by
  cases rule <;> rfl

theorem assign?_unplaced (rule : Rule) :
    rule.unplaced.assign? = rule.assign?.map Assignment.unplaced := by
  cases rule <;> rfl

theorem value_targets_congr (field other : String) (members : Members) :
    (targets field members).value = (targets other members).value := by
  fun_induction targets field members with
  | case1 => rfl
  | case2 key rest ih => exact ih
  | case3 key value rest hvalue level hlevel ih =>
    simp only [targets, hlevel, Reported.value_bind, Reported.value_pure, ih]
  | case4 key value rest hvalue hlevel ih =>
    simp only [targets, hlevel, Reported.value_bind, ih]

theorem value_assigned_congr (field other : String) (members : Members) :
    (assigned field members).value = (assigned other members).value := by
  fun_induction assigned field members with
  | case1 => rfl
  | case2 key value rest hlocked ih =>
    simp only [assigned, if_pos hlocked, Reported.value_bind, ih]
  | case3 key value rest hlocked ih =>
    simp only [assigned, if_neg hlocked, Reported.value_bind, Reported.value_pure, ih]

/-- The name of the field is told in reports only. -/
theorem unplaced_ofEntry (field other : String) (index place : Nat) (entry : Entry) :
    (ofEntry field index entry).value.unplaced = (ofEntry other place entry).value.unplaced := by
  cases entry with
  | fromTo origin members =>
    simp only [ofEntry, Reported.value_bind, Reported.value_pure, value_targets_congr field other]
    rfl
  | whenSet conditions members =>
    simp only [ofEntry, Reported.value_bind, Reported.value_pure, value_assigned_congr field other]
    rfl

/-- The rule that an item of a list states, if any. -/
def ofItem? (item : Json) : Option Rule :=
  (entry item).toOption.map fun e => (ofEntry "" 0 e).value.unplaced

theorem map_unplaced_ofAuthored (field : String) (a : Authored) :
    (ofAuthored field a).value.map unplaced = a.items.filterMap ofItem? := by
  have hentries : (a.entries field (Authored.explained entry)).value.map Prod.snd =
      a.items.filterMap fun item => (entry item).toOption := by
    rw [Authored.value_entries]
    congr 1
    funext item
    unfold Authored.explained
    cases entry item <;> rfl
  calc
    (ofAuthored field a).value.map unplaced =
        ((a.entries field (Authored.explained entry)).value.map Prod.snd).map
          fun e => (ofEntry "" 0 e).value.unplaced := by
      rw [ofAuthored, Reported.value_bind, Reported.value_mapM, List.map_map, List.map_map]
      exact List.map_congr_left fun e _ => unplaced_ofEntry field "" e.1 0 e.2
    _ = a.items.filterMap ofItem? := by rw [hentries, List.map_filterMap]; rfl

def retargetOf? (item : Json) : Option Retarget := (ofItem? item).bind retarget?

def assignmentOf? (item : Json) : Option Assignment := (ofItem? item).bind assign?

theorem retargetOf?_eq_none {item : Json} (h : isFromTo item = false) : retargetOf? item = none := by
  unfold retargetOf? ofItem?
  unfold isFromTo at h
  cases hentry : entry item with
  | error e => rfl
  | ok made =>
    cases made with
    | fromTo origin members => simp [hentry] at h
    | whenSet conditions values => rfl

theorem assignmentOf?_eq_none {item : Json} (h : isWhenSet item = false) : assignmentOf? item = none := by
  unfold assignmentOf? ofItem?
  unfold isWhenSet at h
  cases hentry : entry item with
  | error e => rfl
  | ok made =>
    cases made with
    | fromTo origin members => rfl
    | whenSet conditions values => simp [hentry] at h

def matchesAt (platformColumn label : String) (c : Combination) (item : Json) : Bool :=
  (retargetOf? item).any fun rule => rule.isMet platformColumn label c

end Rule

theorem filterMap_filter_of_none {α β : Type} {p : α → Bool} {f : α → Option β}
    (h : ∀ a, p a = false → f a = none) (items : List α) :
    (items.filter p).filterMap f = items.filterMap f := by
  rw [List.filterMap_filter]
  congr 1
  funext a
  cases hp : p a with
  | true => rfl
  | false => exact (h a hp).symm

namespace Assignment

theorem applyAll_map_unplaced (position : Nat) (rules : List Assignment) (c : Combination) :
    applyAll position (rules.map unplaced) c = applyAll position rules c := by
  induction rules generalizing position c with
  | nil => rfl
  | cons rule rest ih =>
    have hmet : rule.unplaced.isMet c = rule.isMet c := rfl
    have happly : rule.unplaced.apply c = rule.apply c := rfl
    rw [List.map_cons, applyAll, applyAll, hmet, happly, ih, ih]

end Assignment

namespace RuleSet

def unplaced (rules : RuleSet) : RuleSet where
  retargets := rules.retargets.map Retarget.unplaced
  assignments := rules.assignments.map Assignment.unplaced
  platformColumn := rules.platformColumn

theorem relocate_unplaced (rules : RuleSet) (label : String) (c : Combination) :
    rules.unplaced.relocate label c = rules.relocate label c := by
  have hmet : (fun rule : Retarget => rule.isMet rules.platformColumn label c) ∘ Retarget.unplaced =
      fun rule => rule.isMet rules.platformColumn label c := rfl
  unfold relocate unplaced
  dsimp only
  rw [List.findIdx?_map, List.find?_map, hmet, Assignment.applyAll_map_unplaced]
  cases rules.retargets.find? fun rule => rule.isMet rules.platformColumn label c <;> rfl

theorem unplaced_ofRules (platformColumn : String) (rules : List Rule) :
    (ofRules platformColumn rules).unplaced = ofRules platformColumn (rules.map Rule.unplaced) := by
  unfold unplaced ofRules
  rw [List.map_filterMap, List.map_filterMap, List.filterMap_map, List.filterMap_map]
  congr 2
  · funext rule
    exact (Rule.retarget?_unplaced rule).symm
  · funext rule
    exact (Rule.assign?_unplaced rule).symm

def ofItems (platformColumn : String) (items : List Json) : RuleSet :=
  ofRules platformColumn (items.filterMap Rule.ofItem?)

/-- The two fields count as one list. -/
theorem relocate_ofAuthored (platformRules relocationRules : Authored) (platformColumn label : String)
    (c : Combination) :
    (ofAuthored platformRules relocationRules platformColumn).value.relocate label c =
      (ofItems platformColumn (platformRules.items ++ relocationRules.items)).relocate label c := by
  have hrules : (ofAuthored platformRules relocationRules platformColumn).value.unplaced =
      ofItems platformColumn (platformRules.items ++ relocationRules.items) := by
    simp only [ofAuthored, Reported.value_bind, Reported.value_pure]
    rw [unplaced_ofRules, List.map_append, Rule.map_unplaced_ofAuthored, Rule.map_unplaced_ofAuthored,
      ← List.filterMap_append]
    rfl
  rw [← hrules, relocate_unplaced]

theorem retargets_ofItems (platformColumn : String) (items : List Json) :
    (ofItems platformColumn items).retargets =
      (items.filter Rule.isFromTo).filterMap Rule.retargetOf? := by
  rw [filterMap_filter_of_none fun _ => Rule.retargetOf?_eq_none]
  exact List.filterMap_filterMap ..

theorem assignments_ofItems (platformColumn : String) (items : List Json) :
    (ofItems platformColumn items).assignments =
      (items.filter Rule.isWhenSet).filterMap Rule.assignmentOf? := by
  rw [filterMap_filter_of_none fun _ => Rule.assignmentOf?_eq_none]
  exact List.filterMap_filterMap ..

/-- Only the first retarget rule that matches has a say in where a combination goes. -/
theorem relocate_first {rules kept : RuleSet} {label : String} {c : Combination}
    (hretargets : kept.retargets =
      (rules.retargets.find? (·.isMet rules.platformColumn label c)).toList)
    (hassignments : kept.assignments = rules.assignments)
    (hcolumn : kept.platformColumn = rules.platformColumn) :
    (kept.relocate label c).2 = (rules.relocate label c).2 := by
  have hfind : kept.retargets.find? (·.isMet kept.platformColumn label c) =
      rules.retargets.find? (·.isMet rules.platformColumn label c) := by
    rw [hretargets, hcolumn]
    cases hfirst : rules.retargets.find? (·.isMet rules.platformColumn label c) with
    | none => rfl
    | some rule =>
      have hmet : rule.isMet rules.platformColumn label c = true := by simpa using List.find?_some hfirst
      exact List.find?_cons_of_pos hmet
  unfold relocate
  rw [hfind, hassignments]

/-- Two pairs of rule lists with the same assignments in the same order relocate alike if their retarget
rules are the same in the same order, and relocate to the same place if the second pair has kept only the
first retarget rule that matches, or none if none does. -/
theorem relocate_of_same_kinds
    (platformRules relocationRules platformRules' relocationRules' : Authored)
    (hwhenSet : (platformRules'.items ++ relocationRules'.items).filter Rule.isWhenSet =
      (platformRules.items ++ relocationRules.items).filter Rule.isWhenSet)
    (platformColumn label : String) (c : Combination) :
    let fromTos := (platformRules.items ++ relocationRules.items).filter Rule.isFromTo
    let fromTos' := (platformRules'.items ++ relocationRules'.items).filter Rule.isFromTo
    let placed := (ofAuthored platformRules relocationRules platformColumn).value.relocate label c
    let placed' := (ofAuthored platformRules' relocationRules' platformColumn).value.relocate label c
    (fromTos' = fromTos → placed' = placed) ∧
      (fromTos' = (fromTos.find? (Rule.matchesAt platformColumn label c)).toList →
        placed'.2 = placed.2) := by
  intro fromTos fromTos' placed placed'
  let rules := ofItems platformColumn (platformRules.items ++ relocationRules.items)
  let rules' := ofItems platformColumn (platformRules'.items ++ relocationRules'.items)
  have hplaced : placed = rules.relocate label c := relocate_ofAuthored ..
  have hplaced' : placed' = rules'.relocate label c := relocate_ofAuthored ..
  have hretargets : rules.retargets = fromTos.filterMap Rule.retargetOf? := retargets_ofItems ..
  have hretargets' : rules'.retargets = fromTos'.filterMap Rule.retargetOf? := retargets_ofItems ..
  have hassignments : rules'.assignments = rules.assignments := by
    rw [assignments_ofItems, assignments_ofItems, hwhenSet]
  rw [hplaced, hplaced']
  refine ⟨fun hsame => ?_, fun hfirst => relocate_first ?_ hassignments rfl⟩
  · have hrules : rules' = rules := by
      have hsameRetargets : rules'.retargets = rules.retargets := by rw [hretargets, hretargets', hsame]
      calc
        rules' = ⟨rules'.retargets, rules'.assignments, platformColumn⟩ := rfl
        _ = ⟨rules.retargets, rules.assignments, platformColumn⟩ := by rw [hsameRetargets, hassignments]
    rw [hrules]
  · rw [hretargets, hretargets', List.find?_filterMap, hfirst]
    change _ = ((fromTos.find? (Rule.matchesAt platformColumn label c)).bind Rule.retargetOf?).toList
    cases fromTos.find? (Rule.matchesAt platformColumn label c) with
    | none => rfl
    | some item =>
      change [item].filterMap Rule.retargetOf? = (Rule.retargetOf? item).toList
      cases hitem : Rule.retargetOf? item <;> simp [hitem]

theorem relocate_of_same_kinds_interleaved :
    let social := Json.obj
      [("from", .obj [("platform", .str "Meta")]), ("to", .obj [("level1", .str "Social")])]
    let rest := Json.obj [("from", .obj []), ("to", .obj [("level1", .str "Other")])]
    let tier := Json.obj [("when", .obj [("level1", .str "social")]), ("set", .obj [("tier", .str "A")])]
    let top := Json.obj [("when", .obj [("tier", .str "a")]), ("set", .obj [("level3", .str "Top")])]
    let c : Combination :=
      ⟨⟨⟨"Media", "Paid", "", ""⟩, "spend"⟩, Row.empty.put "platform" (.str "meta")⟩
    let rules := (ofAuthored (.json (.arr [tier, social])) (.json (.arr [rest, top])) "platform").value
    let mixed := (ofAuthored .blank (.json (.arr [social, .null, tier, top, rest])) "platform").value
    let kept := (ofAuthored (.json (.arr [tier, top])) (.json (.arr [social])) "platform").value
    (mixed.relocate "spend" c).1 = ⟨some 0, [0, 1]⟩ ∧
      mixed.relocate "spend" c = rules.relocate "spend" c ∧
      (kept.relocate "spend" c).2 = (rules.relocate "spend" c).2 := by
  intro social rest tier top c rules mixed kept
  have hmixed := (relocate_of_same_kinds (.json (.arr [tier, social])) (.json (.arr [rest, top]))
    .blank (.json (.arr [social, .null, tier, top, rest])) (by decide +kernel) "platform" "spend" c).1
    (by decide +kernel)
  have hkept := (relocate_of_same_kinds (.json (.arr [tier, social])) (.json (.arr [rest, top]))
    (.json (.arr [tier, top])) (.json (.arr [social])) (by decide +kernel) "platform" "spend" c).2
    (by decide +kernel)
  exact ⟨by decide +kernel, hmixed, hkept⟩

end RuleSet

end PivotTable
