import PivotTable.Proofs.Rule.Kinds
import PivotTable.Proofs.Swap.Entries

/-!
# Entries of rule lists

Every entry of a list of rules becomes one rule, of whichever kind, or is reported once, and rules and reports
carry the places of their entries. Main statement: nothing is lost and nothing comes twice, neither among rules
nor among swaps, and a list without the reported entries is decoded to the same rules and the same swaps.
-/
namespace PivotTable

namespace Rule

def index : Rule → Nat
  | .retarget rule => rule.index
  | .assign rule => rule.index

/-- Each rule is of one kind. -/
theorem map_index_kinds_perm (rules : List Rule) :
    ((rules.filterMap retarget?).map Retarget.index ++
      (rules.filterMap assign?).map Assignment.index).Perm (rules.map index) := by
  induction rules with
  | nil => exact .nil
  | cons rule rest ih =>
    cases rule with
    | retarget rule => exact ih.cons rule.index
    | assign rule => exact List.perm_middle.trans (ih.cons rule.index)

theorem retarget?_eq_some_iff {rule : Rule} {made : Retarget} :
    rule.retarget? = some made ↔ rule = .retarget made := by
  cases rule <;> simp [retarget?]

theorem assign?_eq_some_iff {rule : Rule} {made : Assignment} :
    rule.assign? = some made ↔ rule = .assign made := by
  cases rule <;> simp [assign?]

/-- The places of the rules of one kind are some of the places, in order. -/
theorem map_index_kind_sublist {β : Type} {kind? : Rule → Option β} {place : β → Nat}
    (h : ∀ {rule made}, kind? rule = some made → place made = rule.index) (rules : List Rule) :
    ((rules.filterMap kind?).map place).Sublist (rules.map index) := by
  induction rules with
  | nil => exact .slnil
  | cons rule rest ih =>
    rw [List.filterMap_cons]
    cases hkind : kind? rule with
    | none => exact ih.cons rule.index
    | some made =>
      rw [List.map_cons, List.map_cons, h hkind]
      exact ih.cons_cons rule.index

section

variable {γ : Type} {view : Event → Option γ} {field : String} {a kept : Authored}

theorem told_targets_eq_nil (htarget : ∀ target, view (.targetRefused target) = none) (field : String)
    (members : Members) : (targets field members).told view = [] := by
  fun_induction targets field members with
  | case1 => rfl
  | case2 key rest ih => exact ih
  | case3 key value rest hvalue level hlevel ih => simp [ih]
  | case4 key value rest hvalue hlevel ih => simp [refuse, Reported.told_report, htarget, ih]

theorem told_assigned_eq_nil (htarget : ∀ target, view (.targetRefused target) = none) (field : String)
    (members : Members) : (assigned field members).told view = [] := by
  fun_induction assigned field members with
  | case1 => rfl
  | case2 key value rest hlocked ih => simp [refuse, Reported.told_report, htarget, ih]
  | case3 key value rest hlocked ih => simp [ih]

/-- An entry with the shape of a rule is not reported, whatever is left out of it. -/
theorem told_ofEntry_eq_nil (htarget : ∀ target, view (.targetRefused target) = none) (field : String)
    (index : Nat) (e : Entry) : (ofEntry field index e).told view = [] := by
  cases e with
  | fromTo origin members => simp [ofEntry, told_targets_eq_nil htarget]
  | whenSet conditions members => simp [ofEntry, told_assigned_eq_nil htarget]

theorem told_ofAuthored_eq_nil (hunreadable : ∀ e, view (.fieldUnreadable field e) = none)
    (hignored : ∀ index reason, view (.entryIgnored field index reason) = none)
    (htarget : ∀ target, view (.targetRefused target) = none) (a : Authored) :
    (ofAuthored field a).told view = [] := by
  have hmade : ∀ made : Nat × Entry, (ofEntry field made.1 made.2).told view = [] :=
    fun made => told_ofEntry_eq_nil htarget field made.1 made.2
  rw [ofAuthored, Reported.told_bind, Authored.told_entries_eq hunreadable,
    Authored.told_acceptItems_eq_nil hignored, Reported.told_mapM_eq_nil hmade, List.append_nil]

theorem index_ofEntry (field : String) (index : Nat) (e : Entry) :
    (ofEntry field index e).value.index = index := by
  cases e <;> rfl

theorem ignored_ofAuthored (field : String) (a : Authored) :
    (ofAuthored field a).told Event.ignored? =
      (placesWhere (Authored.refuses (Authored.explained entry)) a.items).map (field, ·) := by
  have hmade : ∀ made : Nat × Entry, (ofEntry field made.1 made.2).told Event.ignored? = [] :=
    fun made => told_ofEntry_eq_nil (fun _ => rfl) field made.1 made.2
  rw [ofAuthored, Reported.told_bind, Authored.ignored_entries, Reported.told_mapM_eq_nil hmade,
    List.append_nil]

theorem map_index_ofAuthored (field : String) (a : Authored) :
    (ofAuthored field a).value.map index =
      placesWhere (fun item => !Authored.refuses (Authored.explained entry) item) a.items := by
  rw [← Authored.map_fst_entries a field, ofAuthored, Reported.value_bind, Reported.value_mapM, List.map_map]
  exact List.map_congr_left fun made _ => index_ofEntry field made.1 made.2

theorem entry_of_explained {item : Json} {e : Entry} (h : Authored.explained entry item = .ok e) :
    entry item = .ok e := by
  unfold Authored.explained at h
  cases hentry : entry item with
  | ok made =>
    rw [hentry] at h
    exact congrArg Except.ok (Except.ok.inj h)
  | error reason =>
    rw [hentry] at h
    cases h

/-- A rule states what the entry at its place states. -/
theorem ofItem?_of_mem_ofAuthored {rule : Rule} (h : rule ∈ (ofAuthored field a).value) :
    a.items[rule.index]?.bind ofItem? = some rule.unplaced := by
  rw [ofAuthored, Reported.value_bind, Reported.value_mapM] at h
  obtain ⟨⟨i, e⟩, hmade, rfl⟩ := List.mem_map.1 h
  obtain ⟨item, hitem, hexplained⟩ := Authored.getElem?_of_mem_entries hmade
  rw [index_ofEntry, hitem, Option.bind_some, ofItem?, entry_of_explained hexplained]
  exact congrArg some (unplaced_ofEntry "" field 0 i e)

theorem map_unplaced_ofAuthored_leavingOut (field : String)
    (h : kept.items = leavingOut (placesWhere (Authored.refuses (Authored.explained entry)) a.items) a.items) :
    (ofAuthored field kept).value.map unplaced = (ofAuthored field a).value.map unplaced := by
  have hnone (item : Json) (hitem : (!Authored.refuses (Authored.explained entry) item) = false) :
      ofItem? item = none := by
    cases hentry : entry item with
    | ok made =>
      have hexplained : Authored.explained entry item = .ok made := by rw [Authored.explained, hentry]; rfl
      rw [Authored.refuses_of_ok hexplained] at hitem
      cases hitem
    | error reason => rw [ofItem?, hentry]; rfl
  rw [map_unplaced_ofAuthored, map_unplaced_ofAuthored, h, leavingOut_placesWhere,
    filterMap_filter_of_none hnone]

end

end Rule

namespace RuleSet

/-- The rules that a list has added and the places that were reported, next to the entries of the list. -/
structure Accounts (items : List Json) (retargets : List Retarget) (assignments : List Assignment)
    (ignored : List Nat) : Prop where
  /-- Every place stands once in the three lists together. -/
  once : (retargets.map Retarget.index ++ assignments.map Assignment.index ++ ignored).Perm
    (List.range items.length)
  retargets_increase : (retargets.map Retarget.index).Pairwise (· < ·)
  assignments_increase : (assignments.map Assignment.index).Pairwise (· < ·)
  ignored_increase : ignored.Pairwise (· < ·)
  retarget_stated : ∀ rule ∈ retargets, items[rule.index]?.bind Rule.retargetOf? = some rule.unplaced
  assignment_stated : ∀ rule ∈ assignments,
    items[rule.index]?.bind Rule.assignmentOf? = some rule.unplaced

variable {a kept : Authored}

theorem accounts_ofAuthored (field : String) (a : Authored) :
    Accounts a.items ((Rule.ofAuthored field a).value.filterMap Rule.retarget?)
      ((Rule.ofAuthored field a).value.filterMap Rule.assign?)
      (placesWhere (Authored.refuses (Authored.explained Rule.entry)) a.items) := by
  have hindices := Rule.map_index_ofAuthored field a
  -- Rules of either kind stand where entries are accepted, and reports where they are refused.
  have hincrease := pairwise_placesWhere
    (fun item => !Authored.refuses (Authored.explained Rule.entry) item) a.items
  rw [← hindices] at hincrease
  refine ⟨?_, ?_, ?_, pairwise_placesWhere _ _, fun rule hrule => ?_, fun rule hrule => ?_⟩
  · have hkinds := Rule.map_index_kinds_perm (Rule.ofAuthored field a).value
    rw [hindices] at hkinds
    exact (hkinds.append_right _).trans
      (List.perm_append_comm.trans (placesWhere_append_perm _ a.items))
  · apply hincrease.sublist (Rule.map_index_kind_sublist _ _)
    intro rule made hmade
    rw [Rule.retarget?_eq_some_iff.1 hmade]
    rfl
  · apply hincrease.sublist (Rule.map_index_kind_sublist _ _)
    intro rule made hmade
    rw [Rule.assign?_eq_some_iff.1 hmade]
    rfl
  · obtain ⟨made, hmem, hmade⟩ := List.mem_filterMap.1 hrule
    obtain rfl := Rule.retarget?_eq_some_iff.1 hmade
    have hstated := Rule.ofItem?_of_mem_ofAuthored hmem
    exact (Option.bind_assoc ..).symm.trans (congrArg (·.bind Rule.retarget?) hstated)
  · obtain ⟨made, hmem, hmade⟩ := List.mem_filterMap.1 hrule
    obtain rfl := Rule.assign?_eq_some_iff.1 hmade
    have hstated := Rule.ofItem?_of_mem_ofAuthored hmem
    exact (Option.bind_assoc ..).symm.trans (congrArg (·.bind Rule.assign?) hstated)

theorem value_extendAuthored (s : RuleSet) (field : String) (a : Authored) :
    (s.extendAuthored field a).value =
      ⟨s.retargets ++ (Rule.ofAuthored field a).value.filterMap Rule.retarget?,
        s.assignments ++ (Rule.ofAuthored field a).value.filterMap Rule.assign?, s.platformColumn⟩ := by
  rw [extendAuthored, Reported.value_bind, Reported.value_pure, foldl_push]

theorem ignored_extendAuthored (s : RuleSet) (field : String) (a : Authored) :
    (s.extendAuthored field a).told Event.ignored? =
      (placesWhere (Authored.refuses (Authored.explained Rule.entry)) a.items).map (field, ·) := by
  rw [extendAuthored, Reported.told_bind, Reported.told_pure, List.append_nil, Rule.ignored_ofAuthored]

/-- The list without the entries that are reported makes the same rules, but for their places. -/
theorem map_unplaced_ofAuthored_leavingOut (field : String)
    (h : kept.items =
      leavingOut (placesWhere (Authored.refuses (Authored.explained Rule.entry)) a.items) a.items) :
    ((Rule.ofAuthored field kept).value.filterMap Rule.retarget?).map Retarget.unplaced =
        ((Rule.ofAuthored field a).value.filterMap Rule.retarget?).map Retarget.unplaced ∧
      ((Rule.ofAuthored field kept).value.filterMap Rule.assign?).map Assignment.unplaced =
        ((Rule.ofAuthored field a).value.filterMap Rule.assign?).map Assignment.unplaced := by
  have hrules := congrArg (ofRules "") (Rule.map_unplaced_ofAuthored_leavingOut field h)
  rw [← unplaced_ofRules, ← unplaced_ofRules] at hrules
  exact ⟨congrArg RuleSet.retargets hrules, congrArg RuleSet.assignments hrules⟩

end RuleSet

namespace Authored

/-- Every entry of a list is accounted for under its place. Read as rules that are appended to others, an entry
becomes one rule or one report; read as swaps, it writes the swap that it is decoded to or is reported. In
either case the list without the reported entries holds the same, and nothing of it is reported. -/
theorem entries_accounted (s : RuleSet) (field : String) (a : Authored) :
    let extended (list : Authored) := s.extendAuthored field list
    let ignored := ((extended a).told Event.ignored?).map Prod.snd
    let ignoredSwaps := ((Swap.ofAuthored a).told Event.ignored?).map Prod.snd
    (∃ retargets assignments,
        (extended a).value =
          ⟨s.retargets ++ retargets, s.assignments ++ assignments, s.platformColumn⟩ ∧
        (extended a).told Event.ignored? = ignored.map (field, ·) ∧
        RuleSet.Accounts a.items retargets assignments ignored ∧
        ∀ kept : Authored, kept.items = leavingOut ignored a.items →
          ∃ retargets' assignments',
            (extended kept).value =
              ⟨s.retargets ++ retargets', s.assignments ++ assignments', s.platformColumn⟩ ∧
            retargets'.map Retarget.unplaced = retargets.map Retarget.unplaced ∧
            assignments'.map Assignment.unplaced = assignments.map Assignment.unplaced ∧
            (extended kept).told Event.ignored? = []) ∧
      (Swap.ofAuthored a).told Event.ignored? = ignoredSwaps.map ("swaps", ·) ∧
      ignoredSwaps.Pairwise (· < ·) ∧
      (∀ i, i ∈ ignoredSwaps ↔ ∃ entry, a.items[i]? = some entry ∧ ∀ swap, ¬ Swap.Writes entry swap) ∧
      List.Forall₂ Swap.Writes (leavingOut ignoredSwaps a.items) (Swap.ofAuthored a).value ∧
      ∀ kept : Authored, kept.items = leavingOut ignoredSwaps a.items →
        (Swap.ofAuthored kept).value = (Swap.ofAuthored a).value ∧
          (Swap.ofAuthored kept).told Event.ignored? = [] := by
  intro extended ignored ignoredSwaps
  have hsnd (name : String) (places : List Nat) :
      (places.map fun i => (name, i)).map Prod.snd = places := by
    rw [List.map_map]
    exact List.map_id _
  have hignored : ignored = placesWhere (refuses (explained Rule.entry)) a.items := by
    rw [← hsnd field (placesWhere _ _), ← RuleSet.ignored_extendAuthored s field a]
  have hignoredSwaps : ignoredSwaps = placesWhere (refuses Swap.ofEntry) a.items := by
    rw [← hsnd "swaps" (placesWhere _ _), ← Swap.ignored_ofAuthored a]
  rw [hignored, hignoredSwaps]
  refine ⟨⟨_, _, RuleSet.value_extendAuthored s field a, RuleSet.ignored_extendAuthored s field a,
    RuleSet.accounts_ofAuthored field a, fun kept hkept => ?_⟩, Swap.ignored_ofAuthored a,
    pairwise_placesWhere _ _, fun i => ?_, ?_, fun kept hkept => ?_⟩
  · obtain ⟨hretargets, hassignments⟩ := RuleSet.map_unplaced_ofAuthored_leavingOut field hkept
    refine ⟨_, _, RuleSet.value_extendAuthored s field kept, hretargets, hassignments, ?_⟩
    rw [RuleSet.ignored_extendAuthored, ← ignored_entries, ignored_entries_leavingOut hkept]
  · rw [mem_placesWhere]
    simp only [Swap.refuses_ofEntry_iff]
  · rw [leavingOut_placesWhere, Swap.value_ofAuthored]
    exact Swap.forall₂_writes a.items
  · obtain ⟨hvalue, htold⟩ := Swap.ofAuthored_entries kept
    rw [hvalue, htold fun _ => rfl, map_snd_entries_leavingOut hkept, ← (Swap.ofAuthored_entries a).1]
    exact ⟨rfl, ignored_entries_leavingOut hkept⟩

/-- The last entry fits the second kind of rule although it has the members of the first, and no pair of
indices is a rule. -/
theorem entries_accounted_mixed :
    let social := Json.obj
      [("from", .obj [("platform", .str "Meta")]), ("to", .obj [("level1", .str "Social")])]
    let tier := Json.obj [("from", .ofNat 0), ("to", .obj []), ("when", .obj []),
      ("set", .obj [("tier", .str "A"), ("metric", .null)])]
    let pair := Json.arr [.ofNat 1, .ofInt (-2)]
    let a := Authored.json (.arr [social, pair, .null, tier])
    let rules (list : Authored) := RuleSet.extendAuthored ⟨[], [], "platform"⟩ "platformRules" list
    (rules a).told Event.ignored? = [("platformRules", 1), ("platformRules", 2)] ∧
      (Swap.ofAuthored a).told Event.ignored? = [("swaps", 0), ("swaps", 2), ("swaps", 3)] ∧
      (rules (.json (.arr [social, tier]))).told Event.ignored? = [] ∧
      (∃ retargets assignments, (rules a).value = ⟨retargets, assignments, "platform"⟩ ∧
        RuleSet.Accounts a.items retargets assignments [1, 2]) ∧
      (Swap.ofAuthored (.json (.arr [pair]))).value = (Swap.ofAuthored a).value := by
  intro social tier pair a rules
  have hignored : (rules a).told Event.ignored? = [("platformRules", 1), ("platformRules", 2)] := by
    decide +kernel
  have hswaps : (Swap.ofAuthored a).told Event.ignored? = [("swaps", 0), ("swaps", 2), ("swaps", 3)] := by
    decide +kernel
  obtain ⟨⟨retargets, assignments, hvalue, -, haccounts, hkept⟩, -, -, -, -, hkeptSwaps⟩ :=
    entries_accounted ⟨[], [], "platform"⟩ "platformRules" a
  obtain ⟨-, -, -, -, -, hnone⟩ := hkept (.json (.arr [social, tier])) (by decide +kernel)
  obtain ⟨hsame, -⟩ := hkeptSwaps (.json (.arr [pair])) (by decide +kernel)
  refine ⟨hignored, hswaps, hnone, ⟨retargets, assignments, hvalue, ?_⟩, hsame⟩
  change RuleSet.Accounts a.items retargets assignments
    (((rules a).told Event.ignored?).map Prod.snd) at haccounts
  rwa [hignored] at haccounts

end Authored

end PivotTable
