import PivotTable.Proofs.Placement.Positions
import PivotTable.Proofs.Swap.Text
import PivotTable.Proofs.Table.Plan

/-!
# Sessions of reorders

A session is a configuration in which the text of every answer to a reorder is kept before the next request
is planned. Each request is planned on a table decoded anew, so the swaps of an answer are planned on slots
that were already exchanged, kept as a text, read again and checked and applied to the slots as placed. Main
statement: after any requests the layout shows the slots of the last answer, and no swap is in violation.
-/
namespace PivotTable

namespace Table

variable {c : Config} {payload : Payload}

theorem length_slots_ofConfig (c : Config) :
    (ofConfig c).value.placement.slots.length = c.metrics.length := by
  have hmetrics := Placement.map_metric_slots (Outline.ofAuthored c.hierarchy).value c.labels
    c.showSegments
  have hlength := congrArg List.length hmetrics
  rw [List.length_map, Config.labels, List.length_map] at hlength
  exact hlength

/-- The swaps of an answer can be written: those kept were read, and the others point into the list. -/
theorem Answers.fits (positions : c.metrics.length ≤ 9223372036854775808)
    (h : (ofConfig c).value.Answers payload) : ∀ s ∈ payload.swaps, s.Fits := by
  intro s hs
  rw [h.swaps] at hs
  rcases List.mem_append.1 hs with hs | hs
  · have hmem : s ∈ (Swap.ofAuthored c.swaps).value := by
      rw [kept] at hs
      split at hs
      · cases hs
      · exact hs
    exact Swap.fits_of_mem_ofAuthored hmem
  · obtain ⟨i, j, rfl, hi, hj⟩ := h.inside s hs
    rw [length_slots_ofConfig] at hi hj
    exact ⟨Swap.isIndex_of_lt (by omega), Swap.isIndex_of_lt (by omega)⟩

/-- A table that is decoded from a configuration with the answer kept shows the answer. -/
theorem layout_kept (positions : c.metrics.length ≤ 9223372036854775808)
    (h : (ofConfig c).value.Answers payload) :
    let kept := (ofConfig { c with swaps := .text payload.swapsText }).value
    kept.layout.value.slots = payload.slots ∧ kept.layout.value.violations = [] := by
  intro after
  -- nothing but the swaps is decoded anew, so the slots as placed and their groups are the same
  have hswaps : after.swaps = payload.swaps := by
    change (Swap.ofAuthored (.text payload.swapsText)).value = payload.swaps
    rw [Payload.swapsText, Swap.ofAuthored_listText (h.fits positions)]
    rfl
  have hlegal : Swap.Legal after.swaps after.guard? := by
    rw [hswaps]
    exact h.legal
  constructor
  · rw [slots_layout, kept_of_legal hlegal, hswaps, h.slots]
    rfl
  · exact violations_layout_eq_nil_iff.2 hlegal

end Table

/-- A configuration in the course of reorders, with the last answer. -/
structure Session where
  config : Config
  last : Option Payload

namespace Session

def start (c : Config) : Session := ⟨c, none⟩

def table (s : Session) : Table := (Table.ofConfig s.config).value

def layout (s : Session) : Layout := s.table.layout.value

def keep (s : Session) (payload : Payload) : Session :=
  ⟨{ s.config with swaps := .text payload.swapsText }, some payload⟩

/-- Only an answer is kept; a refused request leaves no trace. -/
def step (s : Session) (request : ReorderRequest) : Session :=
  match (s.table.plan request).value with
  | .ok payload => s.keep payload
  | .error _ => s

def run (s : Session) (requests : List ReorderRequest) : Session := requests.foldl step s

variable {c : Config} {s : Session}

structure Agrees (c : Config) (s : Session) : Prop where
  untouched : s.last = none → s.config = c
  stored : ∀ payload ∈ s.last, s.config = { c with swaps := .text payload.swapsText }
  slots : ∀ payload ∈ s.last, s.layout.slots = payload.slots
  violations : ∀ payload ∈ s.last, s.layout.violations = []

theorem agrees_start (c : Config) : Agrees c (start c) :=
  ⟨fun _ => rfl, nofun, nofun, nofun⟩

theorem Agrees.metrics (h : Agrees c s) : s.config.metrics = c.metrics := by
  cases hlast : s.last with
  | none => rw [h.untouched hlast]
  | some payload => rw [h.stored payload hlast]

theorem Agrees.keep (h : Agrees c s) (payload : Payload) :
    (s.keep payload).config = { c with swaps := .text payload.swapsText } := by
  cases hlast : s.last with
  | none => rw [Session.keep, h.untouched hlast]
  | some other => rw [Session.keep, h.stored other hlast]

theorem agrees_step (positions : c.metrics.length ≤ 9223372036854775808) (h : Agrees c s)
    (request : ReorderRequest) : Agrees c (s.step request) := by
  unfold step
  cases hplan : (s.table.plan request).value with
  | error e => exact h
  | ok payload =>
    rw [← h.metrics] at positions
    obtain ⟨hslots, hviolations⟩ := Table.layout_kept positions (Table.answers_of_plan hplan)
    refine ⟨nofun, ?_, ?_, ?_⟩
    · rintro _ ⟨⟩
      exact h.keep payload
    · rintro _ ⟨⟩
      exact hslots
    · rintro _ ⟨⟩
      exact hviolations

theorem agrees_run (positions : c.metrics.length ≤ 9223372036854775808) (h : Agrees c s)
    (requests : List ReorderRequest) : Agrees c (s.run requests) := by
  induction requests generalizing s with
  | nil => exact h
  | cons request rest ih => exact ih (agrees_step positions h request)

/-- Whatever is asked for in whatever order, the table that is rebuilt from the configuration shows what was
answered last. Positions are signed words, so no list of metrics is longer than they reach. -/
theorem layout_run (c : Config) (positions : c.metrics.length ≤ 9223372036854775808)
    (requests : List ReorderRequest) :
    let s := (start c).run requests
    (s.last = none → s.layout = (start c).layout) ∧
      (∀ payload, s.last = some payload →
        s.config = { c with swaps := .text payload.swapsText } ∧
          s.layout.slots = payload.slots ∧ s.layout.violations = []) ∧
      ∀ request e, (s.table.plan request).value = .error e →
        (s.step request).config = s.config ∧ (s.step request).layout = s.layout := by
  intro s
  have h : Agrees c s := agrees_run positions (agrees_start c) requests
  refine ⟨?_, ?_, ?_⟩
  · intro hlast
    rw [layout, table, h.untouched hlast]
    rfl
  · intro payload hlast
    exact ⟨h.stored payload hlast, h.slots payload hlast, h.violations payload hlast⟩
  · intro request e hplan
    have hstep : s.step request = s := by rw [step, hplan]
    rw [hstep]
    exact ⟨rfl, rfl⟩

/-- Two metrics under a header and one without, and swaps that join them. -/
def rejected : Config :=
  { Config.empty with
    metrics := [.labelled "a", .labelled "b", .labelled "c"]
    hierarchy := .json (.arr [.obj [("title", .str "G"), ("count", .ofNat 2)]])
    swaps := .json (.arr [.arr [.ofNat 0, .ofNat 2], .arr [.ofNat 0, .ofNat 9]]) }

theorem layout_run_rejected :
    let s := (start rejected).run [.order ["c", "b", "a"], .move 0 1]
    rejected.metrics.length ≤ 9223372036854775808 ∧ (start rejected).layout.isRejected = true ∧
      s.config = { rejected with swaps := .text "[[0,1]]" } ∧
      s.layout.slots =
        [.placed ⟨"G", "", "", ""⟩ "b", .placed ⟨"G", "", "", ""⟩ "a", .orphaned "c"] ∧
      s.layout.violations = [] := by
  intro s
  have positions : rejected.metrics.length ≤ 9223372036854775808 := by decide
  have hrefused : (start rejected).step (.order ["c", "b", "a"]) = start rejected := by rfl
  have hanswer : ((start rejected).table.plan (.move 0 1)).value = .ok
      ⟨[.ofPositions 0 1], [.ofPositions 0 1],
        [.placed ⟨"G", "", "", ""⟩ "b", .placed ⟨"G", "", "", ""⟩ "a", .orphaned "c"]⟩ := by
    rfl
  have hlast : s.last = some
      ⟨[.ofPositions 0 1], [.ofPositions 0 1],
        [.placed ⟨"G", "", "", ""⟩ "b", .placed ⟨"G", "", "", ""⟩ "a", .orphaned "c"]⟩ := by
    change (((start rejected).step (.order ["c", "b", "a"])).step (.move 0 1)).last = _
    rw [hrefused, step, hanswer]
    rfl
  obtain ⟨hconfig, hslots, hviolations⟩ :=
    (layout_run rejected positions [.order ["c", "b", "a"], .move 0 1]).2.1 _ hlast
  exact ⟨positions, rfl, hconfig, hslots, hviolations⟩

end Session

end PivotTable
