import PivotTable.Service.Handle

/-!
# Requests that are understood

A request asks a route for something if it is posted there and its body decodes to it; then the answer is
that of the route. A request that asks neither for a layout nor for an output is counted, and nothing
else; neither of these two routes answers it with success. What is read off an answer are the members of
the object in its body.
-/
namespace PivotTable.Service

/-- The route to which a request comes. Preflights are answered before routing. -/
def Request.route? (r : Request) : Option Route :=
  if r.method = "OPTIONS" then none else Route.ofTarget? r.target

/-- The request is posted to the route, and its body decodes to `a`. -/
structure Request.Asks {α : Type} (r : Request) (route : Route) (decoder : Document → Decoded α)
    (a : α) : Prop where
  posted : r.method = "POST"
  target : Route.ofTarget? r.target = some route
  body : decodeBody decoder r = .ok a

/-- Nothing is counted but the request, under its route if it comes to one. -/
def Counters.countRouted (c : Counters) (r : Request) : Counters :=
  match r.route? with
  | some route => c.countRequest route
  | none => c

namespace Response

/-- A member of the answered object. -/
def member? (r : Response) (key : String) : Option Json :=
  match r.body with
  | .json value => value.get? key
  | _ => none

def diagnostics? (r : Response) : Option Json := r.member? "diagnostics"

/-- A member of the answered result. -/
def result? (r : Response) (key : String) : Option Json := (r.member? "result").bind (Json.get? key)

end Response

section

variable {α : Type} {r : Request} {route : Route} {decoder : Document → Decoded α} {a : α}

theorem Request.Asks.route? (h : r.Asks route decoder a) : r.route? = some route := by
  have hoptions : ¬ r.method = "OPTIONS" := by
    rw [h.posted]
    decide
  rw [Request.route?, if_neg hoptions, h.target]

theorem handle_of_asks (h : r.Asks route decoder a) (hroute : route.methods.contains "POST" = true)
    (c : Counters) : handle c r = dispatch (c.countRequest route) r route := by
  have hoptions : ¬ r.method = "OPTIONS" := by
    rw [h.posted]
    decide
  have hhead : ¬ r.method = "HEAD" := by
    rw [h.posted]
    decide
  rw [← h.posted] at hroute
  rw [handle, if_neg hoptions, h.target]
  simp only [serve, if_pos hroute, if_neg hhead]

end

section

variable {r : Request} {config : Config}

theorem handle_layout (h : r.Asks .layout layoutRequest config) (c : Counters) :
    handle c r = layout (c.countRequest .layout) config := by
  rw [handle_of_asks h rfl, dispatch, h.body]

theorem handle_process {rows : List Row} (h : r.Asks .process processRequest (config, rows))
    (c : Counters) : handle c r = process (c.countRequest .process) config rows := by
  rw [handle_of_asks h rfl, dispatch, h.body]

theorem handle_reorder {request : ReorderRequest}
    (h : r.Asks .reorder reorderRequest (config, request)) (c : Counters) :
    handle c r = (c.countRequest .reorder, reorder config request) := by
  rw [handle_of_asks h rfl, dispatch, h.body]

end

section

variable {r : Request} (c : Counters)

theorem status_of_decodeBody_error {α : Type} {decoder : Document → Decoded α} {status : Nat}
    (h : decodeBody decoder r = .error status) : status ≠ 200 := by
  unfold decodeBody at h
  split at h
  · split at h
    · cases hdecoded : decodeText decoder r.body with
      | ok a =>
        rw [hdecoded] at h
        exact absurd h nofun
      | error e =>
        rw [hdecoded] at h
        obtain rfl : statusOf e = status := Except.error.inj h
        unfold statusOf
        split <;> decide
    · obtain rfl : 413 = status := Except.error.inj h
      decide
  · obtain rfl : 415 = status := Except.error.inj h
    decide

/-- A body that does not decode is refused, and no other route answers with a layout or an output. -/
theorem dispatch_of_not_asked {route : Route}
    (hlayout : route = .layout → ∀ config, decodeBody layoutRequest r ≠ .ok config)
    (hprocess : route = .process → ∀ asked, decodeBody processRequest r ≠ .ok asked) :
    (dispatch c r route).1 = c ∧
      (route = .layout ∨ route = .process → (dispatch c r route).2.status ≠ 200) := by
  cases route with
  | metrics => exact ⟨rfl, by simp⟩
  | health => exact ⟨rfl, by simp⟩
  | layout =>
    cases h : decodeBody layoutRequest r with
    | ok config => exact absurd h (hlayout rfl config)
    | error status =>
      rw [dispatch, h]
      exact ⟨rfl, fun _ => status_of_decodeBody_error h⟩
  | process =>
    cases h : decodeBody processRequest r with
    | ok asked => exact absurd h (hprocess rfl asked)
    | error status =>
      rw [dispatch, h]
      exact ⟨rfl, fun _ => status_of_decodeBody_error h⟩
  | reorder =>
    refine ⟨?_, by simp⟩
    rw [dispatch]
    cases decodeBody reorderRequest r <;> rfl

theorem handle_of_not_asked (hlayout : ¬ ∃ config, r.Asks .layout layoutRequest config)
    (hprocess : ¬ ∃ asked, r.Asks .process processRequest asked) :
    (handle c r).1 = c.countRouted r ∧
      ∀ route, r.route? = some route → route = .layout ∨ route = .process →
        (handle c r).2.status ≠ 200 := by
  by_cases hoptions : r.method = "OPTIONS"
  · simp [handle, Counters.countRouted, Request.route?, hoptions]
  · rw [handle, if_neg hoptions, Counters.countRouted, Request.route?, if_neg hoptions]
    cases htarget : Route.ofTarget? r.target with
    | none => exact ⟨rfl, nofun⟩
    | some route =>
      simp only [serve]
      by_cases hmethod : route.methods.contains r.method = true
      · have hnoLayout : route = .layout → ∀ config, decodeBody layoutRequest r ≠ .ok config := by
          rintro rfl config hbody
          have hposted : r.method = "POST" := by simpa [Route.methods] using hmethod
          exact hlayout ⟨config, hposted, htarget, hbody⟩
        have hnoProcess : route = .process → ∀ asked, decodeBody processRequest r ≠ .ok asked := by
          rintro rfl asked hbody
          have hposted : r.method = "POST" := by simpa [Route.methods] using hmethod
          exact hprocess ⟨asked, hposted, htarget, hbody⟩
        obtain ⟨hcounters, hstatus⟩ :=
          dispatch_of_not_asked (c.countRequest route) hnoLayout hnoProcess
        rw [if_pos hmethod]
        refine ⟨hcounters, ?_⟩
        rintro _ ⟨⟩ hroute
        split
        · exact hstatus hroute
        · exact hstatus hroute
      · rw [if_neg hmethod]
        refine ⟨rfl, fun _ _ _ => ?_⟩
        simp [refusal]

end

end PivotTable.Service
