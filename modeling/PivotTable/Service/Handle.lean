import PivotTable.Service.Basic
import PivotTable.Service.MediaType

/-!
# Serving requests

Every request brings the whole configuration; the table is built for it alone, and the warnings on the way
are answered next to the result. A request to a known path is counted before anything else is looked at.
-/
namespace PivotTable.Service

def version : String := "1.0.0"

def warnings (events : List Event) : Json := .arr ((events.filter Event.isWarning).map Event.toJson)

def refusal (status : Nat) : Response := ⟨status, .empty⟩

/-- A result with the warnings on the way to it. -/
def envelope (result : Json) (events : List Event) : Response :=
  ⟨200, .json (.obj [("result", result), ("diagnostics", warnings events)])⟩

/-- A body that is no JSON is a bad request, one that says something else cannot be processed. -/
def statusOf : DecodeError → Nat
  | .malformed => 400
  | _ => 422

/-- The number of bytes up to which a body is read. -/
def bodyLimit : Nat := 2097152

/-- The decoded body of a request, or the status of its refusal. -/
def decodeBody {α : Type} (decoder : Document → Decoded α) (r : Request) : Except Nat α :=
  if (r.contentType.map MediaType.isJson).getD false then
    if r.body.utf8ByteSize ≤ bodyLimit then (decodeText decoder r.body).mapError statusOf
    else .error 413
  else .error 415

def health : Response :=
  ⟨200, .json (.obj [("status", .str "ok"), ("version", .str version)])⟩

def layout (c : Counters) (config : Config) : Counters × Response :=
  let ⟨layout, events⟩ : Reported Layout := do (← Table.ofConfig config).layout
  (c.countBatch layout.violations, envelope layout.toJson events)

def process (c : Counters) (config : Config) (rows : List Row) : Counters × Response :=
  let ⟨output, events⟩ : Reported Output := do (← Table.ofConfig config).process rows
  ((c.countBatch output.violations).countFacts output.facts.length, envelope output.toJson events)

/-- The refusal of a reorder names its violations. -/
def reorderRefusal (e : ReorderError) (events : List Event) : Response :=
  ⟨422, .json (.obj [("error", .str e.message),
    ("violations", .ofStrings (e.violations.map Violation.text)),
    ("diagnostics", warnings events)])⟩

def reorder (config : Config) (request : ReorderRequest) : Response :=
  let ⟨planned, events⟩ : Reported (Except ReorderError Payload) := do
    (← Table.ofConfig config).plan request
  match planned with
  | .ok payload => envelope payload.toJson events
  | .error e => reorderRefusal e events

def dispatch (c : Counters) (r : Request) : Route → Counters × Response
  | .metrics => (c, ⟨200, .lines c.lines⟩)
  | .health => (c, health)
  | .layout =>
    match decodeBody layoutRequest r with
    | .ok config => layout c config
    | .error status => (c, refusal status)
  | .process =>
    match decodeBody processRequest r with
    | .ok (config, rows) => process c config rows
    | .error status => (c, refusal status)
  | .reorder =>
    match decodeBody reorderRequest r with
    | .ok (config, request) => (c, reorder config request)
    | .error status => (c, refusal status)

/-- The answer to a request of a known path. `HEAD` is answered as `GET` is, without the body. -/
def serve (c : Counters) (r : Request) (route : Route) : Counters × Response :=
  let c := c.countRequest route
  if route.methods.contains r.method then
    let (c, response) := dispatch c r route
    (c, if r.method = "HEAD" then { response with body := .empty } else response)
  else (c, refusal 405)

/-- The answer to any request. Preflights are answered before routing. -/
def handle (c : Counters) (r : Request) : Counters × Response :=
  if r.method = "OPTIONS" then (c, ⟨200, .empty⟩)
  else
    match Route.ofTarget? r.target with
    | some route => serve c r route
    | none => (c, refusal 404)

def handleAll (c : Counters) : List Request → Counters × List Response
  | [] => (c, [])
  | r :: rest =>
    let (c, response) := handle c r
    let (c, responses) := handleAll c rest
    (c, response :: responses)

end PivotTable.Service
