import Mathlib.Logic.ExistsUnique
import PivotTable.Proofs.Grouping
import PivotTable.Proofs.OrderedSet
import PivotTable.Proofs.Places

/-!
# Groups part the slots

A slot whose path is new opens a group at the end, and every slot is enlisted in the group of its path.
So the paths of the groups are the first appearances among the paths of the slots, and the members of a
group are the positions of the slots with its path. Main statement: each position is a member of exactly
one group, and what the three tables of a grouping answer about positions and paths is what the slots
themselves tell.
-/
namespace PivotTable

namespace Grouping

variable {showSegments : Bool} {separator : String} {slots : List Slot} {g : Grouping}

theorem mem_paths_iff {path : List String} :
    path ∈ g.groups.map Group.path ↔ ∃ k, g.pathAt? k = some path := by
  simp only [List.mem_iff_getElem?, List.getElem?_map, pathAt?]

theorem map_path_enlist (g : Grouping) (index : Nat) :
    (g.enlist index).groups.map Group.path = g.groups.map Group.path := by
  refine List.ext_getElem? fun k => ?_
  rw [List.getElem?_map, List.getElem?_map]
  exact pathAt?_enlist g index k

namespace Indexes

theorem lookup_eq_none_iff (h : Indexes showSegments separator slots g) {path : List String} :
    g.places.lookup path = none ↔ path ∉ g.groups.map Group.path := by
  rw [mem_paths_iff, Option.eq_none_iff_forall_ne_some]
  simp only [ne_eq, h.places, not_exists]

/-- A slot adds its path to those of the groups unless it is there. -/
theorem map_path_add (h : Indexes showSegments separator slots g) (s : Slot) :
    (g.add showSegments separator s).groups.map Group.path =
      if s.groupPath showSegments ∈ g.groups.map Group.path then g.groups.map Group.path
      else g.groups.map Group.path ++ [s.groupPath showSegments] := by
  unfold Grouping.add locate
  cases hfound : g.places.lookup (s.groupPath showSegments) with
  | some index =>
    have hmem := mem_paths_iff.2 ⟨index, (h.places _ _).1 hfound⟩
    rw [map_path_enlist, if_pos hmem]
  | none => rw [map_path_enlist, if_neg (h.lookup_eq_none_iff.1 hfound), Grouping.addGroup, List.map_append,
      List.map_singleton]

end Indexes

/-- The positions of the slots with this path. -/
def positionsAt (showSegments : Bool) (slots : List Slot) (path : List String) : List Nat :=
  placesWhere (fun s => s.groupPath showSegments == path) slots

theorem mem_positionsAt {path : List String} {i : Nat} :
    i ∈ positionsAt showSegments slots path ↔
      ∃ s, slots[i]? = some s ∧ s.groupPath showSegments = path := by
  simp only [positionsAt, mem_placesWhere, beq_iff_eq]

theorem positionsAt_concat (s : Slot) (path : List String) :
    positionsAt showSegments (slots ++ [s]) path =
      positionsAt showSegments slots path ++
        if s.groupPath showSegments = path then [slots.length] else [] := by
  rw [positionsAt, placesWhere_concat, positionsAt]
  simp only [beq_iff_eq]

/-- The members of each group are the positions of the slots with its path. -/
def Enlists (showSegments : Bool) (slots : List Slot) (g : Grouping) : Prop :=
  ∀ group ∈ g.groups, group.members = positionsAt showSegments slots group.path

namespace Enlists

/-- A group without members enlists what there is of its path so far. -/
theorem addGroup (h : Enlists showSegments slots g) {path : List String} (key : String)
    (hnew : ∀ s ∈ slots, s.groupPath showSegments ≠ path) :
    Enlists showSegments slots (g.addGroup key path) := by
  intro group hgroup
  rcases List.mem_append.1 hgroup with hin | hlast
  · exact h group hin
  · rw [List.mem_singleton.1 hlast]
    refine (List.eq_nil_iff_forall_not_mem.2 fun i hi => ?_).symm
    obtain ⟨s, hs, hpath⟩ := mem_positionsAt.1 hi
    exact hnew s (List.mem_of_getElem? hs) hpath

theorem enlist (h : Enlists showSegments slots g) (hindexes : Indexes showSegments separator slots g)
    {s : Slot} {index : Nat} (hindex : g.pathAt? index = some (s.groupPath showSegments)) :
    Enlists showSegments (slots ++ [s]) (g.enlist index) := by
  intro group hgroup
  obtain ⟨k, hk⟩ := List.mem_iff_getElem?.1 hgroup
  rw [Grouping.enlist, List.getElem?_modify] at hk
  obtain ⟨old, hold, rfl⟩ := Option.map_eq_some_iff.1 hk
  have hmembers := h old (List.mem_of_getElem? hold)
  have hpath : g.pathAt? k = some old.path := by rw [pathAt?, hold, Option.map_some]
  split
  · next heq =>
    rw [← heq, hindex] at hpath
    rw [positionsAt_concat, if_pos (Option.some.inj hpath), ← hmembers, hindexes.length_slotGroups]
  · next hne =>
    have hother : s.groupPath showSegments ≠ old.path := by
      intro hmatch
      rw [hmatch] at hindex
      exact hne (hindexes.eq_of_pathAt? hindex hpath)
    rw [positionsAt_concat, if_neg hother, List.append_nil, ← hmembers]

theorem add (h : Enlists showSegments slots g) (hindexes : Indexes showSegments separator slots g)
    (hpaths : ∀ s ∈ slots, s.groupPath showSegments ∈ g.groups.map Group.path) (s : Slot) :
    Enlists showSegments (slots ++ [s]) (g.add showSegments separator s) := by
  unfold Grouping.add locate
  cases hfound : g.places.lookup (s.groupPath showSegments) with
  | some index => exact h.enlist hindexes ((hindexes.places _ _).1 hfound)
  | none =>
    have hnew : ∀ t ∈ slots, t.groupPath showSegments ≠ s.groupPath showSegments := by
      intro t ht heq
      exact hindexes.lookup_eq_none_iff.1 hfound (heq ▸ hpaths t ht)
    refine (h.addGroup (s.groupKey showSegments separator) hnew).enlist (hindexes.addGroup hfound) ?_
    rw [pathAt?_addGroup, if_pos rfl]

end Enlists

theorem ofSlots_concat (showSegments : Bool) (separator : String) (slots : List Slot) (s : Slot) :
    ofSlots showSegments separator (slots ++ [s]) =
      (ofSlots showSegments separator slots).add showSegments separator s := List.foldl_concat ..

/-- Groups stand in the order in which their paths first appear. -/
theorem map_path_ofSlots (showSegments : Bool) (separator : String) (slots : List Slot) :
    (ofSlots showSegments separator slots).groups.map Group.path =
      (slots.map (Slot.groupPath showSegments)).eraseDups := by
  induction slots using List.reverseRecOn with
  | nil => rfl
  | append_singleton slots s ih =>
    rw [ofSlots_concat, (indexes_ofSlots showSegments separator slots).map_path_add, ih, List.map_append,
      List.map_singleton, eraseDups_concat]
    simp only [List.mem_eraseDups]

theorem enlists_ofSlots (showSegments : Bool) (separator : String) (slots : List Slot) :
    Enlists showSegments slots (ofSlots showSegments separator slots) := by
  induction slots using List.reverseRecOn with
  | nil => exact fun group hgroup => absurd hgroup List.not_mem_nil
  | append_singleton slots s ih =>
    have hpaths : ∀ t ∈ slots, t.groupPath showSegments ∈
        (ofSlots showSegments separator slots).groups.map Group.path := by
      intro t ht
      rw [map_path_ofSlots, List.mem_eraseDups]
      exact List.mem_map_of_mem ht
    rw [ofSlots_concat]
    exact ih.add (indexes_ofSlots showSegments separator slots) hpaths s

theorem getElem?_slotGroups_eq_none (showSegments : Bool) (separator : String) {i : Nat}
    (hi : slots[i]? = none) :
    (ofSlots showSegments separator slots).slotGroups[i]? = none := by
  rw [List.getElem?_eq_none_iff, (indexes_ofSlots showSegments separator slots).length_slotGroups]
  exact List.getElem?_eq_none_iff.1 hi

theorem keyOf?_ofSlots_eq_none {i : Nat} (hi : slots[i]? = none) :
    (ofSlots showSegments separator slots).keyOf? i = none := by
  have hnone := getElem?_slotGroups_eq_none showSegments separator hi
  simp only [keyOf?, group?, hnone, Option.bind_eq_bind, Option.bind_none, Option.map_none]

theorem sameGroup_ofSlots_iff (a b : Nat) :
    (ofSlots showSegments separator slots).sameGroup a b = true ↔
      a < slots.length ∧ b < slots.length ∧
        (slots.map (Slot.groupPath showSegments))[a]? = (slots.map (Slot.groupPath showSegments))[b]? := by
  rw [List.getElem?_map, List.getElem?_map]
  cases ha : slots[a]? with
  | none =>
    have hout : ¬ a < slots.length := Nat.not_lt.2 (List.getElem?_eq_none_iff.1 ha)
    simp [sameGroup, getElem?_slotGroups_eq_none showSegments separator ha, hout]
  | some s =>
    cases hb : slots[b]? with
    | none =>
      have hout : ¬ b < slots.length := Nat.not_lt.2 (List.getElem?_eq_none_iff.1 hb)
      simp [sameGroup, getElem?_slotGroups_eq_none showSegments separator hb, hout]
    | some t =>
      have hina : a < slots.length := (List.getElem?_eq_some_iff.1 ha).1
      have hinb : b < slots.length := (List.getElem?_eq_some_iff.1 hb).1
      simp [sameGroup_ofSlots ha hb, hina, hinb]

/-- A group stands at the index of its path. -/
theorem exists_group_ofSlots (separator : String) {path : List String}
    (h : path ∈ slots.map (Slot.groupPath showSegments)) :
    ∃ (k : Nat) (group : Group),
      (ofSlots showSegments separator slots).groups[k]? = some group ∧ group.path = path := by
  rw [← List.mem_eraseDups, ← map_path_ofSlots showSegments separator, mem_paths_iff] at h
  obtain ⟨k, hk⟩ := h
  obtain ⟨group, hgroup, hpath⟩ := Option.map_eq_some_iff.1 hk
  exact ⟨k, group, hgroup, hpath⟩

theorem mem_members_ofSlots {k i : Nat} {group : Group}
    (hgroup : (ofSlots showSegments separator slots).groups[k]? = some group) :
    i ∈ group.members ↔ ∃ s, slots[i]? = some s ∧ s.groupPath showSegments = group.path := by
  rw [enlists_ofSlots showSegments separator slots group (List.mem_of_getElem? hgroup), mem_positionsAt]

/-- No position is in two groups, and none is left out. -/
theorem existsUnique_group_ofSlots {i : Nat} (hi : i < slots.length) :
    ∃! k : Nat, ∃ group : Group,
      (ofSlots showSegments separator slots).groups[k]? = some group ∧ i ∈ group.members := by
  have hslot : slots[i]? = some slots[i] := List.getElem?_eq_getElem hi
  have hpresent : slots[i].groupPath showSegments ∈ slots.map (Slot.groupPath showSegments) :=
    List.mem_map_of_mem (List.getElem_mem hi)
  obtain ⟨k, group, hgroup, hpath⟩ := exists_group_ofSlots separator hpresent
  have hmember : i ∈ group.members := (mem_members_ofSlots hgroup).2 ⟨slots[i], hslot, hpath.symm⟩
  refine ⟨k, ⟨group, hgroup, hmember⟩, ?_⟩
  rintro l ⟨other, hother, hin⟩
  obtain ⟨s, hs, hspath⟩ := (mem_members_ofSlots hother).1 hin
  rw [hslot] at hs
  obtain rfl := Option.some.inj hs
  have hl : (ofSlots showSegments separator slots).pathAt? l = some group.path := by
    rw [pathAt?, hother, Option.map_some, ← hspath, hpath]
  have hk : (ofSlots showSegments separator slots).pathAt? k = some group.path := by
    rw [pathAt?, hgroup, Option.map_some]
  exact (indexes_ofSlots showSegments separator slots).eq_of_pathAt? hl hk

theorem members?_ofSlots (path : List String) :
    (ofSlots showSegments separator slots).members? path =
      if path ∈ slots.map (Slot.groupPath showSegments) then
        some (positionsAt showSegments slots path)
      else none := by
  have hindexes := indexes_ofSlots showSegments separator slots
  unfold members?
  split
  · next h =>
    obtain ⟨k, group, hgroup, hpath⟩ := exists_group_ofSlots separator h
    have hfound : (ofSlots showSegments separator slots).places.lookup path = some k := by
      rw [hindexes.places, pathAt?, hgroup, Option.map_some, hpath]
    have hmembers := enlists_ofSlots showSegments separator slots group (List.mem_of_getElem? hgroup)
    rw [hpath] at hmembers
    simp only [hfound, hgroup, hmembers, Option.bind_eq_bind, Option.bind_some, Option.map_some]
  · next h =>
    rw [← List.mem_eraseDups, ← map_path_ofSlots showSegments separator,
      ← hindexes.lookup_eq_none_iff] at h
    simp only [h, Option.bind_eq_bind, Option.bind_none]

/-- The groups are a partition of the positions by the paths of their slots, in the order of first slots,
and two positions, one position, or a path find in them what the slots tell. -/
theorem ofSlots_partition (showSegments : Bool) (separator : String) (slots : List Slot) :
    let g := ofSlots showSegments separator slots
    let paths := slots.map (Slot.groupPath showSegments)
    (∀ i < slots.length, ∃! k : Nat, ∃ group : Group, g.groups[k]? = some group ∧ i ∈ group.members) ∧
      (∀ group ∈ g.groups, group.members = positionsAt showSegments slots group.path ∧
        group.members ≠ [] ∧ group.members.Pairwise (· < ·) ∧ ∀ i ∈ group.members, i < slots.length) ∧
      ((g.groups.map Group.path).Nodup ∧
        (g.groups.map Group.path).Pairwise fun p q => paths.idxOf p < paths.idxOf q) ∧
      (∀ a b, g.sameGroup a b = true ↔
        a < slots.length ∧ b < slots.length ∧ paths[a]? = paths[b]?) ∧
      (∀ i, g.keyOf? i = slots[i]?.map (Slot.groupKey showSegments separator)) ∧
      ∀ path, g.members? path =
        if path ∈ paths then some (positionsAt showSegments slots path) else none := by
  intro g paths
  have hpaths : g.groups.map Group.path = paths.eraseDups := map_path_ofSlots showSegments separator slots
  refine ⟨fun i hi => existsUnique_group_ofSlots hi, ?_, ⟨?_, ?_⟩, ?_, ?_, members?_ofSlots⟩
  · intro group hgroup
    have hmembers := enlists_ofSlots showSegments separator slots group hgroup
    have hpath : group.path ∈ paths := by
      rw [← List.mem_eraseDups, ← hpaths]
      exact List.mem_map_of_mem hgroup
    refine ⟨hmembers, ?_⟩
    rw [hmembers]
    refine ⟨?_, pairwise_placesWhere _ _, fun i hi => lt_length_of_mem_placesWhere hi⟩
    obtain ⟨s, hs, hspath⟩ := List.mem_map.1 hpath
    obtain ⟨i, hi⟩ := List.mem_iff_getElem?.1 hs
    exact List.ne_nil_of_mem (mem_positionsAt.2 ⟨s, hi, hspath⟩)
  · rw [hpaths]
    exact nodup_eraseDups paths
  · rw [hpaths]
    exact pairwise_idxOf_eraseDups paths
  · exact sameGroup_ofSlots_iff
  · intro i
    cases hi : slots[i]? with
    | some s => exact keyOf?_ofSlots hi
    | none => exact keyOf?_ofSlots_eq_none hi

/-- A segment right under its group and a subgroup of the same title, which have one display key. -/
def doubled : List Slot :=
  [.placed ⟨"G", "", "S", ""⟩ "a", .placed ⟨"G", "S", "", ""⟩ "b", .placed ⟨"G", "", "S", ""⟩ "c"]

/-- A path keeps its empty levels, and ends where nothing is shown. -/
theorem ofSlots_partition_doubled :
    let shown := ofSlots true " / " doubled
    let hidden := ofSlots false " / " doubled
    (shown.keyOf? 0 = some "G / S" ∧ shown.keyOf? 1 = some "G / S" ∧ shown.sameGroup 0 1 = false) ∧
      (shown.sameGroup 0 2 = true ∧ shown.members? ["G", "", "S"] = some [0, 2] ∧
        shown.members? ["G", "S"] = some [1]) ∧
      shown.members? ["G"] = none ∧ hidden.members? ["G"] = some [0, 2] := by
  intro shown hidden
  obtain ⟨-, -, -, hsame, hkey, hmembers⟩ := ofSlots_partition true " / " doubled
  obtain ⟨-, -, -, -, -, hothers⟩ := ofSlots_partition false " / " doubled
  have hapart : ¬ shown.sameGroup 0 1 = true := by
    intro h
    obtain ⟨-, -, hpaths⟩ := (hsame 0 1).1 h
    exact absurd hpaths (by decide)
  exact ⟨⟨hkey 0, hkey 1, Bool.eq_false_iff.2 hapart⟩,
    ⟨(hsame 0 2).2 ⟨by decide, by decide, rfl⟩, hmembers _, hmembers _⟩, hmembers _, hothers _⟩

end Grouping

end PivotTable
