import PivotTable.Table

/-!
# The service

The routes under which tables are served, the requests that they take and the answers that they give, and
the counters that the service keeps.
-/
namespace PivotTable.Service

inductive Route
  | metrics
  | health
  | layout
  | process
  | reorder
deriving DecidableEq

namespace Route

def all : List Route := [.metrics, .health, .layout, .process, .reorder]

def path : Route → String
  | .metrics => "/metrics"
  | .health => "/v1/health"
  | .layout => "/v1/layout"
  | .process => "/v1/process"
  | .reorder => "/v1/reorder"

def methods : Route → List String
  | .metrics | .health => ["GET", "HEAD"]
  | .layout | .process | .reorder => ["POST"]

/-- The path of a request target. A target may name a scheme and a host in front of the path, and what
follows a question mark or a number sign does not count. -/
def pathOf (target : List Char) : List Char :=
  let target := target.takeWhile fun c => c ≠ '?' ∧ c ≠ '#'
  match target.head?, target.dropWhile (· ≠ ':') with
  | some '/', _ => target
  | _, ':' :: '/' :: '/' :: located =>
    match located.dropWhile (· ≠ '/') with
    | [] => ['/']
    | path => path
  | _, _ => target

def ofTarget? (target : String) : Option Route :=
  let path := String.ofList (pathOf target.toList)
  all.find? fun route => route.path == path

end Route

structure Request where
  method : String
  target : String
  contentType : Option String
  body : String
deriving DecidableEq

inductive Body
  | empty
  | json (value : Json)
  | lines (lines : List String)
deriving DecidableEq

structure Response where
  status : Nat
  body : Body
deriving DecidableEq

/-- What the service counts: the requests of each route, the facts that it answered with, and the answers
in which a swap batch was rejected. A count has no bound; what is held of it is its `register`. -/
structure Counters where
  requests : Route → Nat
  facts : Nat
  rejectedBatches : Nat

namespace Counters

def zero : Counters := ⟨fun _ => 0, 0, 0⟩

def countRequest (c : Counters) (route : Route) : Counters :=
  { c with requests := fun r => if r = route then c.requests r + 1 else c.requests r }

def countBatch (c : Counters) (violations : List Violation) : Counters :=
  if violations.isEmpty then c else { c with rejectedBatches := c.rejectedBatches + 1 }

def countFacts (c : Counters) (n : Nat) : Counters := { c with facts := c.facts + n }

/-- What a counter of 64 bits holds of a count: beyond the largest word it starts again at zero. -/
def register (n : Nat) : UInt64 := .ofNat n

/-- A counter may be increased word by word, or be set to the whole count in the end. -/
theorem register_add (m n : Nat) : register (m + n) = register m + register n := UInt64.ofNat_add ..

def heading (name help : String) : List String :=
  ["# HELP " ++ name ++ " " ++ help, "# TYPE " ++ name ++ " counter"]

def requestLine (c : Counters) (route : Route) : Option String :=
  if c.requests route = 0 then none
  else some ("pivtree_requests_total\x7broute=\"" ++ route.path ++ "\"\x7d " ++
    toString (register (c.requests route)))

/-- All counters as text; a family without counts is left out. -/
def lines (c : Counters) : List String :=
  let requests := Route.all.filterMap c.requestLine
  (if requests.isEmpty then []
    else heading "pivtree_requests_total" "HTTP requests by route" ++ requests) ++
  heading "pivtree_rows_processed_total" "Processed rows emitted by /v1/process" ++
  ["pivtree_rows_processed_total " ++ toString (register c.facts)] ++
  heading "pivtree_swap_batches_rejected_total"
    "Swap batches rejected for crossing group boundaries" ++
  ["pivtree_swap_batches_rejected_total " ++ toString (register c.rejectedBatches)]

end Counters

def layoutRequest (d : Document) : Decoded Config :=
  Record.decode "LayoutRequest" [.required "config" Config.decode fun config _ => config] .empty d

/-- The body of a process request: a configuration and rows, none if they are left out. -/
def processRequest (d : Document) : Decoded (Config × List Row) :=
  Record.decode "ProcessRequest"
    [.required "config" Config.decode fun config r => (config, r.2),
     .defaulted "rows" [] (Source.list Row.decode) fun rows r => (r.1, rows)] (.empty, []) d

def reorderRequest (d : Document) : Decoded (Config × ReorderRequest) :=
  Record.decode "ReorderBody"
    [.required "config" Config.decode fun config r => (config, r.2),
     .required "request" ReorderRequest.decode fun request r => (r.1, request)]
    (.empty, .order []) d

end PivotTable.Service
