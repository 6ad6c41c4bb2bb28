import PivotTable.Proofs.Service.Requests
import Mathlib.Control.Monad.Basic

/-!
# One story about a configuration

The routes drive a table in different ways, but all of them build it and lay out its slots, and that is
where the warnings come from: stages report nothing but their completion, and planning reports nothing at
all. Main statement: for one configuration, layouts, outputs and reorders are answered with the same warnings
in the same order, a refused reorder like an accepted one, and an output shows the slots and violations of
the layout.
-/
namespace PivotTable

/-- Stages complete and warn of nothing. -/
theorem Pipeline.warnings_run (p : Pipeline) (facts : List Fact) :
    (run p facts).events.filter Event.isWarning = [] := by
  induction p generalizing facts with
  | nil => rfl
  | cons stage rest ih =>
    rw [run, Reported.events_bind, Reported.events_report, Reported.events_bind, Reported.events_pure,
      List.append_nil, List.filter_append, ih (stage.run facts)]
    rfl

namespace Table

variable (t : Table)

theorem warnings_process (rows : List Row) :
    (t.process rows).events.filter Event.isWarning = t.layout.events.filter Event.isWarning := by
  rw [process, Reported.events_bind, Reported.events_bind, Reported.events_pure, List.append_nil,
    List.filter_append, Pipeline.warnings_run, List.append_nil]

theorem events_plan (request : ReorderRequest) : (t.plan request).events = t.layout.events := by
  rw [plan, Reported.events_bind, Reported.events_pure, List.append_nil]

end Table

namespace Service

theorem warnings_append {a b c : List Event}
    (h : b.filter Event.isWarning = c.filter Event.isWarning) : warnings (a ++ b) = warnings (a ++ c) := by
  rw [warnings, warnings, List.filter_append, List.filter_append, h]

/-- What is warned of until the slots are laid out. -/
def warned (config : Config) : List Event :=
  ((Table.ofConfig config).events ++ (Table.ofConfig config).value.layout.events).filter Event.isWarning

def warnedJson (config : Config) : Json := .arr ((warned config).map Event.toJson)

variable (c : Counters) (config : Config)

theorem diagnostics?_layout : (layout c config).2.diagnostics? = some (warnedJson config) := rfl

theorem diagnostics?_process (rows : List Row) :
    (process c config rows).2.diagnostics? = some (warnedJson config) :=
  congrArg some (warnings_append ((Table.ofConfig config).value.warnings_process rows))

/-- A refusal has come as far as an answer. -/
theorem diagnostics?_reorder (request : ReorderRequest) :
    ((reorder config request).status = 200 ∨ (reorder config request).status = 422) ∧
      (reorder config request).diagnostics? = some (warnedJson config) := by
  have hevents : warnings ((Table.ofConfig config).events ++
      ((Table.ofConfig config).value.plan request).events) = warnedJson config := by
    rw [Table.events_plan]
    rfl
  simp only [reorder, Reported.value_bind, Reported.events_bind]
  cases ((Table.ofConfig config).value.plan request).value with
  | ok payload => exact ⟨.inl rfl, congrArg some hevents⟩
  | error e => exact ⟨.inr rfl, congrArg some hevents⟩

/-- Three requests about one configuration are told the same of it, whatever else they bring and whatever
was served before each of them. -/
theorem diagnostics_agree (rows : List Row) (request : ReorderRequest)
    {forLayout forProcess forReorder : Request}
    (hlayout : forLayout.Asks .layout layoutRequest config)
    (hprocess : forProcess.Asks .process processRequest (config, rows))
    (hreorder : forReorder.Asks .reorder reorderRequest (config, request)) (c d e : Counters) :
    let layout := (handle c forLayout).2
    let output := (handle d forProcess).2
    let reorder := (handle e forReorder).2
    let diagnostics := Json.arr ((warned config).map Event.toJson)
    let laidOut := (Table.ofConfig config).value.layout.value
    let slots := Json.arr (laidOut.slots.map Slot.toJson)
    let violations := Json.arr (laidOut.violations.map Violation.toJson)
    (layout.status = 200 ∧ output.status = 200 ∧ (reorder.status = 200 ∨ reorder.status = 422)) ∧
      (layout.diagnostics? = some diagnostics ∧ output.diagnostics? = some diagnostics ∧
        reorder.diagnostics? = some diagnostics) ∧
      (layout.result? "slots" = some slots ∧ output.result? "slots" = some slots) ∧
      layout.result? "violations" = some violations ∧ output.result? "violations" = some violations := by
  rw [handle_layout hlayout, handle_process hprocess, handle_reorder hreorder]
  obtain ⟨hstatus, hreordered⟩ := diagnostics?_reorder config request
  refine ⟨⟨rfl, rfl, hstatus⟩, ⟨?_, ?_, hreordered⟩, ⟨rfl, rfl⟩, rfl, rfl⟩
  · exact diagnostics?_layout _ config
  · exact diagnostics?_process _ config rows

/-- A request with a hierarchy that is cut off and a swap that points outside. -/
def posted (target rest : String) : Request where
  method := "POST"
  target := target
  contentType := some "application/json"
  body := "\x7b\"config\":\x7b\"metrics\":[\"a\",\"b\"],\"hierarchy\":\"[\",\"swaps\":[[0,5]]\x7d" ++
    rest ++ "\x7d"

def cutOff : Config :=
  { Config.empty with
    metrics := [.labelled "a", .labelled "b"]
    hierarchy := .text "["
    swaps := .json (.arr [.arr [.ofNat 0, .ofNat 5]]) }

theorem diagnostics_agree_cutOff :
    let forLayout := posted "/v1/layout" ""
    let forProcess := posted "/v1/process" ",\"rows\":[\x7b\"a\":1\x7d]"
    let forReorder := posted "/v1/reorder" ",\"request\":\x7b\"from\":0,\"to\":7\x7d"
    let row := Row.ofMembers [("a", .ofNat 1)]
    let diagnostics := Json.arr
      [(Event.fieldUnreadable "hierarchy" "<syntax>").toJson, (Event.swapSkipped 0 0 5 2).toJson]
    forLayout.Asks .layout layoutRequest cutOff ∧
      forProcess.Asks .process processRequest (cutOff, [row]) ∧
      forReorder.Asks .reorder reorderRequest (cutOff, .move 0 7) ∧
      (handle .zero forReorder).2.status = 422 ∧
      (handle .zero forLayout).2.diagnostics? = some diagnostics ∧
      (handle .zero forProcess).2.diagnostics? = some diagnostics ∧
      (handle .zero forReorder).2.diagnostics? = some diagnostics := by
  intro forLayout forProcess forReorder row diagnostics
  have hlayout : forLayout.Asks .layout layoutRequest cutOff := ⟨rfl, by decide +kernel, by decide +kernel⟩
  have hprocess : forProcess.Asks .process processRequest (cutOff, [row]) := ⟨rfl, by decide +kernel, by decide +kernel⟩
  have hreorder : forReorder.Asks .reorder reorderRequest (cutOff, .move 0 7) := ⟨rfl, by decide +kernel, by decide +kernel⟩
  have hrefused : (handle .zero forReorder).2.status = 422 := by
    rw [handle_reorder hreorder]
    rfl
  obtain ⟨-, ⟨hlaidOut, houtput, hreordered⟩, -⟩ :=
    diagnostics_agree cutOff [row] (.move 0 7) hlayout hprocess hreorder .zero .zero .zero
  have hwarned : (warned cutOff).map Event.toJson =
      [(Event.fieldUnreadable "hierarchy" "<syntax>").toJson, (Event.swapSkipped 0 0 5 2).toJson] := by
    rfl
  rw [hwarned] at hlaidOut houtput hreordered
  exact ⟨hlayout, hprocess, hreorder, hrefused, hlaidOut, houtput, hreordered⟩

end Service

end PivotTable
