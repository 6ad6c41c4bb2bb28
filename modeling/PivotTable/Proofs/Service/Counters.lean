import PivotTable.Proofs.Service.Requests
import Mathlib.Algebra.GroupWithZero.Nat

/-!
# What the counters add up to

One request adds to the counters what its answer shows: the facts of an output, one for an answer with
violations, and one request under its route. Main statement: after any requests the counters are the sums
over all answers, and requests that ask neither for a layout nor for an output are only counted under
their route.
-/
namespace PivotTable.Service

/-- A request and the answer to it. -/
structure Exchange where
  request : Request
  response : Response

namespace Exchange

/-- The request came to this route and was answered with success. -/
def isAnswered (e : Exchange) (route : Route) : Bool :=
  e.request.route? = some route && e.response.status = 200

/-- The number of facts in an answered output. -/
def factCount (e : Exchange) : Nat :=
  if e.isAnswered .process then
    match e.response.result? "rows" with
    | some (.arr rows) => rows.length
    | _ => 0
  else 0

/-- The answer is a layout or an output with violations. -/
def isRejected (e : Exchange) : Bool :=
  (e.isAnswered .layout || e.isAnswered .process) &&
    match e.response.result? "violations" with
    | some (.arr violations) => !violations.isEmpty
    | _ => false

end Exchange

namespace Counters

variable (c : Counters) (route : Route)

theorem requests_countRequest (counted : Route) :
    (c.countRequest counted).requests route =
      c.requests route + if counted = route then 1 else 0 := by
  by_cases h : counted = route
  · simp [countRequest, h]
  · simp [countRequest, h, Ne.symm h]

theorem requests_countRouted (r : Request) :
    (c.countRouted r).requests route = c.requests route + if r.route? = some route then 1 else 0 := by
  unfold countRouted
  cases r.route? with
  | none => rfl
  | some counted =>
    rw [requests_countRequest]
    simp only [Option.some.injEq]

theorem facts_countRouted (r : Request) : (c.countRouted r).facts = c.facts := by
  unfold countRouted
  cases r.route? <;> rfl

theorem rejectedBatches_countRouted (r : Request) :
    (c.countRouted r).rejectedBatches = c.rejectedBatches := by
  unfold countRouted
  cases r.route? <;> rfl

theorem facts_countBatch (violations : List Violation) : (c.countBatch violations).facts = c.facts := by
  unfold countBatch
  split <;> rfl

theorem requests_countBatch (violations : List Violation) :
    (c.countBatch violations).requests = c.requests := by
  unfold countBatch
  split <;> rfl

theorem rejectedBatches_countBatch (violations : List Violation) :
    (c.countBatch violations).rejectedBatches =
      c.rejectedBatches + if violations.isEmpty then 0 else 1 := by
  unfold countBatch
  split <;> rfl

end Counters

/-- What one request adds to the counters can be read off its answer. -/
structure Adds (c : Counters) (e : Exchange) (c' : Counters) : Prop where
  facts : c'.facts = c.facts + e.factCount
  rejectedBatches : c'.rejectedBatches = c.rejectedBatches + if e.isRejected then 1 else 0
  requests : ∀ route, c'.requests route = c.requests route + if e.request.route? = some route then 1 else 0

namespace Exchange

variable {e : Exchange}

theorem isAnswered_iff {route : Route} :
    e.isAnswered route = true ↔ e.request.route? = some route ∧ e.response.status = 200 := by
  simp [isAnswered]

theorem isRejected_of_violations (h : e.isAnswered .layout = true ∨ e.isAnswered .process = true)
    {violations : List Violation}
    (hviolations : e.response.result? "violations" = some (.arr (violations.map Violation.toJson))) :
    e.isRejected = !violations.isEmpty := by
  rw [isRejected, Bool.or_eq_true_iff.2 h, hviolations]
  simp

theorem factCount_of_rows (h : e.isAnswered .process = true) {facts : List Fact}
    (hrows : e.response.result? "rows" = some (.arr (facts.map Fact.toJson))) :
    e.factCount = facts.length := by
  rw [factCount, if_pos h, hrows]
  exact List.length_map ..

theorem factCount_of_not_answered (h : e.isAnswered .process = false) : e.factCount = 0 := by
  rw [factCount, h]
  rfl

end Exchange

section

variable {r : Request} {config : Config} (c : Counters)

theorem adds_layout (h : r.Asks .layout layoutRequest config) :
    Adds c ⟨r, (handle c r).2⟩ (handle c r).1 := by
  have hanswered : Exchange.isAnswered ⟨r, (handle c r).2⟩ .layout = true := by
    rw [handle_layout h]
    exact Exchange.isAnswered_iff.2 ⟨h.route?, rfl⟩
  have hother : Exchange.isAnswered ⟨r, (handle c r).2⟩ .process = false := by
    simp [Exchange.isAnswered, h.route?]
  have hcounters : (handle c r).1 = (c.countRequest .layout).countBatch
      (Table.ofConfig config).value.layout.value.violations := by
    rw [handle_layout h]
    rfl
  refine ⟨?_, ?_, fun route => ?_⟩
  · rw [Exchange.factCount_of_not_answered hother, hcounters, Counters.facts_countBatch]
    rfl
  · rw [Exchange.isRejected_of_violations (.inl hanswered) (by rw [handle_layout h]; rfl), hcounters,
      Counters.rejectedBatches_countBatch]
    simp [Counters.countRequest]
  · rw [hcounters, Counters.requests_countBatch, Counters.requests_countRequest, h.route?]
    simp

theorem adds_process {rows : List Row} (h : r.Asks .process processRequest (config, rows)) :
    Adds c ⟨r, (handle c r).2⟩ (handle c r).1 := by
  have hanswered : Exchange.isAnswered ⟨r, (handle c r).2⟩ .process = true := by
    rw [handle_process h]
    exact Exchange.isAnswered_iff.2 ⟨h.route?, rfl⟩
  have hcounters : (handle c r).1 = ((c.countRequest .process).countBatch
      ((Table.ofConfig config).value.process rows).value.violations).countFacts
      ((Table.ofConfig config).value.process rows).value.facts.length := by
    rw [handle_process h]
    rfl
  refine ⟨?_, ?_, fun route => ?_⟩
  · rw [Exchange.factCount_of_rows hanswered (by rw [handle_process h]; rfl), hcounters,
      Counters.countFacts, Counters.facts_countBatch]
    rfl
  · rw [Exchange.isRejected_of_violations (.inr hanswered) (by rw [handle_process h]; rfl), hcounters,
      Counters.countFacts, Counters.rejectedBatches_countBatch]
    simp [Counters.countRequest]
  · rw [hcounters, Counters.countFacts, Counters.requests_countBatch, Counters.requests_countRequest,
      h.route?]
    simp

theorem adds_of_not_asked (hlayout : ¬ ∃ config, r.Asks .layout layoutRequest config)
    (hprocess : ¬ ∃ asked, r.Asks .process processRequest asked) :
    Adds c ⟨r, (handle c r).2⟩ (handle c r).1 := by
  obtain ⟨hcounters, hstatus⟩ := handle_of_not_asked c hlayout hprocess
  have hrefused {route : Route} (hroute : route = .layout ∨ route = .process) :
      Exchange.isAnswered ⟨r, (handle c r).2⟩ route = false := by
    rw [Bool.eq_false_iff, Ne, Exchange.isAnswered_iff]
    rintro ⟨htarget, hanswered⟩
    exact hstatus route htarget hroute hanswered
  rw [hcounters]
  refine ⟨?_, ?_, fun route => c.requests_countRouted route r⟩
  · rw [Exchange.factCount_of_not_answered (hrefused (.inr rfl)), c.facts_countRouted, Nat.add_zero]
  · rw [Exchange.isRejected, hrefused (.inl rfl), hrefused (.inr rfl), c.rejectedBatches_countRouted]
    rfl

/-- One step of the service. -/
theorem adds_handle (r : Request) : Adds c ⟨r, (handle c r).2⟩ (handle c r).1 := by
  by_cases hlayout : ∃ config, r.Asks .layout layoutRequest config
  · obtain ⟨config, h⟩ := hlayout
    exact adds_layout c h
  · by_cases hprocess : ∃ asked, r.Asks .process processRequest asked
    · obtain ⟨⟨config, rows⟩, h⟩ := hprocess
      exact adds_process c h
    · exact adds_of_not_asked c hlayout hprocess

end

/-- Requests with the answers to them, served one after the other. -/
def exchanges (c : Counters) (requests : List Request) : List Exchange :=
  requests.zipWith Exchange.mk (handleAll c requests).2

theorem handleAll_cons (c : Counters) (r : Request) (rest : List Request) :
    handleAll c (r :: rest) =
      ((handleAll (handle c r).1 rest).1, (handle c r).2 :: (handleAll (handle c r).1 rest).2) := rfl

theorem exchanges_cons (c : Counters) (r : Request) (rest : List Request) :
    exchanges c (r :: rest) = ⟨r, (handle c r).2⟩ :: exchanges (handle c r).1 rest := rfl

theorem map_request_exchanges (c : Counters) (requests : List Request) :
    (exchanges c requests).map Exchange.request = requests := by
  induction requests generalizing c with
  | nil => rfl
  | cons r rest ih => rw [exchanges_cons, List.map_cons, ih]

theorem map_response_exchanges (c : Counters) (requests : List Request) :
    (exchanges c requests).map Exchange.response = (handleAll c requests).2 := by
  induction requests generalizing c with
  | nil => rfl
  | cons r rest ih => rw [exchanges_cons, List.map_cons, ih, handleAll_cons]

theorem facts_handleAll (c : Counters) (requests : List Request) :
    (handleAll c requests).1.facts = c.facts + ((exchanges c requests).map Exchange.factCount).sum := by
  induction requests generalizing c with
  | nil => rfl
  | cons r rest ih =>
    rw [handleAll_cons, ih, (adds_handle c r).facts, exchanges_cons, List.map_cons, List.sum_cons,
      Nat.add_assoc]

theorem rejectedBatches_handleAll (c : Counters) (requests : List Request) :
    (handleAll c requests).1.rejectedBatches =
      c.rejectedBatches + (exchanges c requests).countP Exchange.isRejected := by
  induction requests generalizing c with
  | nil => rfl
  | cons r rest ih =>
    rw [handleAll_cons, ih, (adds_handle c r).rejectedBatches, exchanges_cons, List.countP_cons,
      Nat.add_assoc, Nat.add_comm (List.countP _ _)]

theorem requests_handleAll (c : Counters) (requests : List Request) (route : Route) :
    (handleAll c requests).1.requests route =
      c.requests route + requests.countP fun r => r.route? = some route := by
  induction requests generalizing c with
  | nil => rfl
  | cons r rest ih =>
    rw [handleAll_cons, ih, (adds_handle c r).requests, List.countP_cons, Nat.add_assoc,
      Nat.add_comm (List.countP _ _)]
    simp only [decide_eq_true_eq]

/-- The counters of a service are the sums over all that it has answered. -/
theorem counters_add_up (requests : List Request) :
    let c := (handleAll .zero requests).1
    let served := exchanges .zero requests
    (served.map Exchange.request = requests ∧
        served.map Exchange.response = (handleAll .zero requests).2) ∧
      c.facts = (served.map Exchange.factCount).sum ∧
      c.rejectedBatches = served.countP Exchange.isRejected ∧
      (∀ route, c.requests route = requests.countP fun r => r.route? = some route) ∧
      ∀ (d : Counters) (r : Request), (¬ ∃ config, r.Asks .layout layoutRequest config) →
        (¬ ∃ asked, r.Asks .process processRequest asked) →
        (handle d r).1.facts = d.facts ∧ (handle d r).1.rejectedBatches = d.rejectedBatches := by
  refine ⟨⟨map_request_exchanges .zero requests, map_response_exchanges .zero requests⟩, ?_, ?_,
    fun route => ?_, fun d r hlayout hprocess => ?_⟩
  · exact (facts_handleAll .zero requests).trans (Nat.zero_add _)
  · exact (rejectedBatches_handleAll .zero requests).trans (Nat.zero_add _)
  · exact (requests_handleAll .zero requests route).trans (Nat.zero_add _)
  · rw [(handle_of_not_asked d hlayout hprocess).1, d.facts_countRouted, d.rejectedBatches_countRouted]
    exact ⟨rfl, rfl⟩

/-- An output and a layout with a swap across groups, a body that is cut off, and a look at the counters. -/
def crossings : List Request :=
  let config := "\x7b\"config\":\x7b\"metrics\":[\"a\",\"b\"],\"hierarchy\":[" ++
    "\x7b\"title\":\"G\",\"count\":1\x7d,\x7b\"title\":\"H\",\"count\":1\x7d],\"swaps\":[[0,1]]\x7d"
  let posted (target body : String) : Request := ⟨"POST", target, some "application/json", body⟩
  [posted "/v1/process" (config ++ ",\"rows\":[\x7b\"a\":1\x7d,\x7b\"b\":2\x7d]\x7d"),
   posted "/v1/layout" (config ++ "\x7d"), posted "/v1/process" "\x7b", ⟨"GET", "/metrics", none, ""⟩]

/-- Two rows have a fact in each of two slots, though the batch is rejected. -/
theorem counters_add_up_crossings :
    let c := (handleAll .zero crossings).1
    (handleAll .zero crossings).2.map Response.status = [200, 200, 400, 200] ∧
      (c.facts = 4 ∧ c.rejectedBatches = 2) ∧
      c.requests .process = 2 ∧ c.requests .layout = 1 := by
  dsimp only
  obtain ⟨hstatuses, hcounts, hrejected⟩ :
      (handleAll .zero crossings).2.map Response.status = [200, 200, 400, 200] ∧
        ((exchanges .zero crossings).map Exchange.factCount).sum = 4 ∧
        (exchanges .zero crossings).countP Exchange.isRejected = 2 := by
    decide +kernel
  obtain ⟨houtputs, hlayouts⟩ : (crossings.countP fun r => r.route? = some .process) = 2 ∧
      (crossings.countP fun r => r.route? = some .layout) = 1 := by
    decide +kernel
  obtain ⟨-, hfacts, hbatches, hrequests, -⟩ := counters_add_up crossings
  rw [hcounts] at hfacts
  rw [hrejected] at hbatches
  exact ⟨hstatuses, ⟨hfacts, hbatches⟩, (hrequests .process).trans houtputs,
    (hrequests .layout).trans hlayouts⟩

end PivotTable.Service
