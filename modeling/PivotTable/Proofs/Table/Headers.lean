import PivotTable.Proofs.Placement.Segments
import PivotTable.Proofs.Table.Plan

/-!
# Headers stay in place

With validation of swaps a reorder moves metrics within the header structure and never changes it. A slot
whose hidden levels are blank has no more to its path than its group has, so a swap that stays inside a
group exchanges slots with equal paths. Main statement: the slots of a layout and those of every plan are a
permutation of the slots as placed, with the same path at every position and hence with the same groups.
-/
namespace PivotTable

namespace Slot

/-- No level of the slot is hidden that has a title. -/
def IsVisible (showSegments : Bool) (s : Slot) : Prop :=
  showSegments = false → s.path.hideSegments = s.path

theorem levels_eq_groupPath {showSegments : Bool} {s : Slot} (h : s.IsVisible showSegments) :
    s.path.levels =
      s.groupPath showSegments ++ List.replicate (4 - (s.groupPath showSegments).length) "" := by
  obtain ⟨⟨a, b, c, d⟩, metric, orphan⟩ := s
  simp only [groupPath, groupDepth, Path.levels, String.isEmpty_iff, Bool.and_eq_true, Bool.not_eq_true',
    ← Bool.not_eq_true]
  cases showSegments with
  | false =>
    obtain ⟨rfl, rfl⟩ : "" = c ∧ "" = d := by simpa [Path.hideSegments] using h rfl
    by_cases hb : b = "" <;> simp [hb]
  | true =>
    by_cases hd : d = ""
    · by_cases hc : c = ""
      · by_cases hb : b = "" <;> simp [hb, hc, hd]
      · simp [hc, hd]
    · simp [hd]

theorem path_eq_of_groupPath_eq {showSegments : Bool} {s t : Slot} (hs : s.IsVisible showSegments)
    (ht : t.IsVisible showSegments) (h : s.groupPath showSegments = t.groupPath showSegments) :
    s.path = t.path := by
  have hlevels : s.path.levels = t.path.levels := by
    rw [levels_eq_groupPath hs, levels_eq_groupPath ht, h]
  simp only [Path.levels, List.cons.injEq, and_true] at hlevels
  obtain ⟨h1, h2, h3, h4⟩ := hlevels
  exact (Path.mk.injEq ..).mpr ⟨h1, h2, h3, h4⟩

/-- The same slots in another order, with every header where it was. -/
structure KeepHeaders (base slots : List Slot) : Prop where
  perm : slots.Perm base
  paths : slots.map Slot.path = base.map Slot.path
  groups : ∀ showSegments separator,
    Grouping.ofSlots showSegments separator slots = Grouping.ofSlots showSegments separator base

end Slot

theorem Placement.isVisible_of_mem_slots {o : Outline} {metrics : List String} {showSegments : Bool}
    {s : Slot} (hs : s ∈ (ofOutline o metrics showSegments).slots) : s.IsVisible showSegments := by
  rintro rfl
  exact hideSegments_of_mem_slots hs

theorem Swap.keepHeaders_of_legal {showSegments : Bool} {separator : String} {base : List Slot}
    (hbase : ∀ s ∈ base, s.IsVisible showSegments) {swaps : List Swap}
    (hlegal : Legal swaps (some (.ofSlots showSegments separator base))) :
    Slot.KeepHeaders base (exchangeAll swaps base) := by
  have hrespects := violations_eq_nil_iff.1 (hlegal _ rfl)
  -- the batch was checked once against the slots as placed; on paths it moves nothing, so the check holds
  -- for every order in between
  have hpaths : (exchangeAll swaps base).map Slot.path = base.map Slot.path := by
    rw [map_exchangeAll]
    apply exchangeAll_eq_self
    intro s hs i j hpos
    rw [List.length_map] at hpos
    obtain ⟨⟨-, hi⟩, -, hj⟩ := positions?_eq_some_iff.1 hpos
    have hx := List.getElem?_eq_getElem hi
    have hy := List.getElem?_eq_getElem hj
    have hgroup := respects_ofSlots_iff.1 (hrespects s hs) i j _ _ hpos hx hy
    rw [List.getElem?_map, List.getElem?_map, hx, hy, Option.map_some, Option.map_some,
      Slot.path_eq_of_groupPath_eq (hbase _ (List.getElem_mem hi)) (hbase _ (List.getElem_mem hj))
        hgroup]
  exact ⟨exchangeAll_perm _ _, hpaths, Grouping.ofSlots_congr hpaths⟩

namespace Table

theorem keepHeaders (c : Config) (validated : c.validateSwaps = true) :
    let t := (ofConfig c).value
    let base := t.layout.value.baseSlots
    t.layout.value.groups = .ofSlots c.showSegments c.groupSeparator base ∧
      Slot.KeepHeaders base t.layout.value.slots ∧
      ∀ request payload, (t.plan request).value = .ok payload → Slot.KeepHeaders base payload.slots := by
  intro t base
  have hvisible : ∀ s ∈ base, s.IsVisible c.showSegments := fun s hs =>
    Placement.isVisible_of_mem_slots hs
  have hguard : t.guard? = some (.ofSlots c.showSegments c.groupSeparator base) := if_pos validated
  have hkeep (swaps : List Swap) (h : Swap.Legal swaps t.guard?) :
      Slot.KeepHeaders base (Swap.exchangeAll swaps base) := by
    rw [hguard] at h
    exact Swap.keepHeaders_of_legal hvisible h
  refine ⟨rfl, ?_, ?_⟩
  · rw [slots_layout]
    exact hkeep t.kept t.legal_kept
  · intro request payload hplan
    have hanswers := answers_of_plan hplan
    rw [hanswers.slots]
    exact hkeep payload.swaps hanswers.legal

/-- A metric without a header that is named like one, behind the metrics of that header. -/
def namesake : Config :=
  { Config.empty with
    metrics := [.labelled "a", .labelled "b", .labelled "G"]
    hierarchy := .json (.arr [.obj [("title", .str "G"), ("count", .ofNat 2)]])
    swaps := .json (.arr [.arr [.ofNat 0, .ofNat 1]]) }

theorem keepHeaders_namesake :
    namesake.validateSwaps = true ∧
      ∃ payload, ((ofConfig namesake).value.plan (.order ["G", "b", "a"])).value = .ok payload ∧
        payload.slots.map Slot.metric = ["G", "b", "a"] ∧
        Slot.KeepHeaders (ofConfig namesake).value.layout.value.baseSlots payload.slots := by
  have hanswer : ((ofConfig namesake).value.plan (.order ["G", "b", "a"])).value = .ok
      ⟨[.ofPositions 0 2, .ofPositions 1 2],
        [.ofPositions 0 1, .ofPositions 0 2, .ofPositions 1 2],
        [.orphaned "G", .placed ⟨"G", "", "", ""⟩ "b", .placed ⟨"G", "", "", ""⟩ "a"]⟩ := by
    rfl
  exact ⟨rfl, _, hanswer, rfl, (keepHeaders namesake rfl).2.2 _ _ hanswer⟩

end Table

end PivotTable
