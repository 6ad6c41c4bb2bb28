import PivotTable.Grouping

/-!
# What the groups of slots tell

Groups, the table of their places and the groups of the single slots are built up together, slot by slot.
The invariant `Indexes` says how the three agree. Main statements: two positions are in one group if and
only if their slots have the same structural path, the group of a position has the display key of its slot,
and nothing but the paths of the slots has a part in it.
-/
namespace PivotTable

namespace Grouping

/-- The path of the group with this index. -/
def pathAt? (g : Grouping) (index : Nat) : Option (List String) := g.groups[index]?.map Group.path

/-- The display key that belongs to a structural path. -/
def displayKey (separator : String) (path : List String) : String :=
  String.intercalate separator (path.filter fun level => !level.isEmpty)

/-- The groups are those of the slots: the table of places finds every group, every group is named by its
path, and every slot is in the group of its path. -/
structure Indexes (showSegments : Bool) (separator : String) (slots : List Slot) (g : Grouping) :
    Prop where
  places : ∀ path index, g.places.lookup path = some index ↔ g.pathAt? index = some path
  keys : ∀ group ∈ g.groups, group.key = displayKey separator group.path
  slotPaths : g.slotGroups.map g.pathAt? = slots.map fun s => some (s.groupPath showSegments)

variable {showSegments : Bool} {separator : String} {slots : List Slot} {g : Grouping}

theorem indexes_empty : Indexes showSegments separator [] empty where
  places := by simp [empty, pathAt?]
  keys := by simp [empty]
  slotPaths := rfl

@[simp] theorem pathAt?_enlist (g : Grouping) (index k : Nat) :
    (g.enlist index).pathAt? k = g.pathAt? k := by
  simp only [pathAt?, enlist, List.getElem?_modify]
  cases g.groups[k]? with
  | none => rfl
  | some group => split <;> rfl

theorem pathAt?_addGroup (key : String) (path : List String) (g : Grouping) (k : Nat) :
    (g.addGroup key path).pathAt? k = if k = g.groups.length then some path else g.pathAt? k := by
  simp only [pathAt?, addGroup, List.getElem?_append, List.getElem?_singleton]
  by_cases h : k = g.groups.length
  · simp [h]
  · by_cases hlt : k < g.groups.length
    · simp [h, hlt]
    · have hpos : ¬ k - g.groups.length = 0 := by omega
      rw [if_neg hlt, if_neg hpos, if_neg h, List.getElem?_eq_none (by omega)]

theorem lt_length_of_pathAt? {k : Nat} {path : List String} (h : g.pathAt? k = some path) :
    k < g.groups.length := by
  obtain ⟨group, hgroup, -⟩ := Option.map_eq_some_iff.1 h
  exact (List.getElem?_eq_some_iff.1 hgroup).1

namespace Indexes

theorem length_slotGroups (h : Indexes showSegments separator slots g) :
    g.slotGroups.length = slots.length := by
  have hlength := congrArg List.length h.slotPaths
  rwa [List.length_map, List.length_map] at hlength

theorem eq_of_pathAt? (h : Indexes showSegments separator slots g) {k l : Nat} {path : List String}
    (hk : g.pathAt? k = some path) (hl : g.pathAt? l = some path) : k = l :=
  Option.some.inj (((h.places _ _).2 hk).symm.trans ((h.places _ _).2 hl))

theorem lt_length (h : Indexes showSegments separator slots g) {k : Nat}
    (hk : k ∈ g.slotGroups) : k < g.groups.length := by
  have hmem : g.pathAt? k ∈ g.slotGroups.map g.pathAt? := List.mem_map_of_mem hk
  rw [h.slotPaths] at hmem
  obtain ⟨s, -, hs⟩ := List.mem_map.1 hmem
  exact lt_length_of_pathAt? hs.symm

/-- A group under a path that is new keeps the table of places in order. -/
theorem addGroup (h : Indexes showSegments separator slots g) {path : List String}
    (hnew : g.places.lookup path = none) :
    Indexes showSegments separator slots (g.addGroup (displayKey separator path) path) where
  places other k := by
    have hold := h.places other k
    rw [pathAt?_addGroup, Grouping.addGroup, List.lookup_cons]
    by_cases ho : other = path
    · subst ho
      have hne : ¬ g.pathAt? k = some other := by
        rw [← hold, hnew]
        simp
      by_cases hk : k = g.groups.length
      · simp [hk]
      · simp [hk, hne, Ne.symm hk]
    · rw [beq_false_of_ne ho]
      by_cases hk : k = g.groups.length
      · have hne : ¬ g.places.lookup other = some k := by
          intro hfound
          have := lt_length_of_pathAt? (hold.1 hfound)
          omega
        simp [hk, Ne.symm ho] at hne ⊢
        exact hne
      · simpa [hk] using hold
  keys group hgroup := by
    rcases List.mem_append.1 hgroup with hin | hlast
    · exact h.keys group hin
    · rw [List.mem_singleton.1 hlast]
  slotPaths := by
    rw [← h.slotPaths]
    apply List.map_congr_left
    intro k hk
    have hlt := h.lt_length hk
    rw [pathAt?_addGroup, if_neg (Nat.ne_of_lt hlt)]

theorem enlist (h : Indexes showSegments separator slots g) {s : Slot} {index : Nat}
    (hindex : g.pathAt? index = some (s.groupPath showSegments)) :
    Indexes showSegments separator (slots ++ [s]) (g.enlist index) where
  places path k := by
    rw [pathAt?_enlist]
    exact h.places path k
  keys group hgroup := by
    obtain ⟨k, hk⟩ := List.mem_iff_getElem?.1 hgroup
    rw [Grouping.enlist, List.getElem?_modify] at hk
    obtain ⟨old, hold, rfl⟩ := Option.map_eq_some_iff.1 hk
    have hkey := h.keys old (List.mem_of_getElem? hold)
    split
    · exact hkey
    · exact hkey
  slotPaths := by
    have hsame : (g.enlist index).pathAt? = g.pathAt? := funext (pathAt?_enlist g index)
    rw [hsame, Grouping.enlist, List.map_append, h.slotPaths, List.map_append]
    simp [hindex]

theorem add (h : Indexes showSegments separator slots g) (s : Slot) :
    Indexes showSegments separator (slots ++ [s]) (g.add showSegments separator s) := by
  unfold Grouping.add locate
  cases hfound : g.places.lookup (s.groupPath showSegments) with
  | some index => exact h.enlist ((h.places _ _).1 hfound)
  | none =>
    have hpath : (g.addGroup (s.groupKey showSegments separator) (s.groupPath showSegments)).pathAt?
        g.groups.length = some (s.groupPath showSegments) := by
      rw [pathAt?_addGroup, if_pos rfl]
    exact (h.addGroup hfound).enlist hpath

end Indexes

theorem indexes_ofSlots (showSegments : Bool) (separator : String) (slots : List Slot) :
    Indexes showSegments separator slots (ofSlots showSegments separator slots) := by
  suffices h : ∀ rest (seen : List Slot) (g : Grouping), Indexes showSegments separator seen g →
      Indexes showSegments separator (seen ++ rest) (rest.foldl (add showSegments separator) g) from
    h slots [] empty indexes_empty
  intro rest
  induction rest with
  | nil => simp
  | cons s rest ih =>
    intro seen g hg
    have hnext := ih (seen ++ [s]) (g.add showSegments separator s) (hg.add s)
    rwa [List.append_assoc, List.singleton_append] at hnext

theorem slotCount_ofSlots (showSegments : Bool) (separator : String) (slots : List Slot) :
    (ofSlots showSegments separator slots).slotCount = slots.length :=
  (indexes_ofSlots showSegments separator slots).length_slotGroups

theorem slotGroups_ofSlots (showSegments : Bool) (separator : String) {position : Nat} {s : Slot}
    (hs : slots[position]? = some s) :
    ∃ k, (ofSlots showSegments separator slots).slotGroups[position]? = some k ∧
      (ofSlots showSegments separator slots).pathAt? k = some (s.groupPath showSegments) := by
  have h := congrArg (·[position]?) (indexes_ofSlots showSegments separator slots).slotPaths
  simp only [List.getElem?_map, hs, Option.map_some] at h
  exact Option.map_eq_some_iff.1 h

/-- Groups are told apart by paths alone. -/
theorem sameGroup_ofSlots {i j : Nat} {s t : Slot} (hs : slots[i]? = some s)
    (ht : slots[j]? = some t) :
    (ofSlots showSegments separator slots).sameGroup i j = true ↔
      s.groupPath showSegments = t.groupPath showSegments := by
  have h := indexes_ofSlots showSegments separator slots
  obtain ⟨k, hk, hks⟩ := slotGroups_ofSlots showSegments separator hs
  obtain ⟨l, hl, hlt⟩ := slotGroups_ofSlots showSegments separator ht
  simp only [sameGroup, hk, hl, beq_iff_eq]
  constructor
  · rintro rfl
    exact Option.some.inj (hks.symm.trans hlt)
  · intro hpath
    exact h.eq_of_pathAt? (hks.trans (congrArg some hpath)) hlt

theorem keyOf?_ofSlots {position : Nat} {s : Slot} (hs : slots[position]? = some s) :
    (ofSlots showSegments separator slots).keyOf? position =
      some (s.groupKey showSegments separator) := by
  have h := indexes_ofSlots showSegments separator slots
  obtain ⟨k, hk, hpath⟩ := slotGroups_ofSlots showSegments separator hs
  obtain ⟨group, hgroup, hgpath⟩ := Option.map_eq_some_iff.1 hpath
  have hkey := h.keys group (List.mem_of_getElem? hgroup)
  rw [hgpath] at hkey
  simp only [keyOf?, group?, hk, hgroup, Option.bind_eq_bind, Option.bind_some, Option.map_some, hkey]
  rfl

theorem ofSlots_congr {a b : List Slot} (h : a.map Slot.path = b.map Slot.path)
    (showSegments : Bool) (separator : String) :
    ofSlots showSegments separator a = ofSlots showSegments separator b := by
  have hpaths (slots : List Slot) : ofSlots showSegments separator slots =
      (slots.map Slot.path).foldl
        (fun g path => g.add showSegments separator (.placed path "")) empty := by
    rw [List.foldl_map]
    rfl
  rw [hpaths, hpaths, h]

end Grouping

end PivotTable
