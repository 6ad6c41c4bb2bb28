import PivotTable.Decode.Record

/-!
# Events

What a table reports about the configuration it was given and about the stages its rows went through. All
but the completion of a stage are warnings. An event has a kind, a line of text, and a JSON form in which
the kind is the member `type`.
-/
namespace PivotTable

inductive Event
  | fieldUnreadable (field error : String)
  | entryIgnored (field : String) (index : Nat) (reason : String)
  | targetRefused (target : String)
  | sizeMismatch (declared metrics : Nat)
  | batchRejected (violations : List String)
  | swapSkipped (index : Nat) (first second : Int) (size : Nat)
  | stageCompleted (stage : String) (rowsIn rowsOut : Nat)
deriving DecidableEq

namespace Event

def kind : Event → String
  | .fieldUnreadable .. => "config_parse_failed"
  | .entryIgnored .. => "rule_shape_ignored"
  | .targetRefused .. => "rule_field_ignored"
  | .sizeMismatch .. => "structural_mismatch"
  | .batchRejected .. => "swap_rejected"
  | .swapSkipped .. => "swap_skipped"
  | .stageCompleted .. => "stage_completed"

def isWarning : Event → Bool
  | .stageCompleted .. => false
  | _ => true

def text : Event → String
  | .fieldUnreadable field error => "could not parse " ++ field ++ ": " ++ error
  | .entryIgnored field index reason =>
    "ignored " ++ field ++ "[" ++ toString index ++ "]: " ++ reason
  | .targetRefused target => "rules may not set '" ++ target ++ "'"
  | .sizeMismatch declared metrics =>
    "hierarchy declares " ++ toString declared ++ " slots for " ++ toString metrics ++ " metrics"
  | .batchRejected violations => "swap batch rejected: " ++ String.intercalate "; " violations
  | .swapSkipped index first second size =>
    "swap #" ++ toString index ++ " (" ++ toString first ++ " <-> " ++ toString second ++
      ") is out of bounds for " ++ toString size ++ " slots"
  | .stageCompleted stage rowsIn rowsOut =>
    "stage " ++ stage ++ ": " ++ toString rowsIn ++ " -> " ++ toString rowsOut ++ " rows"

def payload : Event → Members
  | .fieldUnreadable field error => [("field", .str field), ("error", .str error)]
  | .entryIgnored field index reason =>
    [("field", .str field), ("index", .ofNat index), ("reason", .str reason)]
  | .targetRefused target => [("field", .str target)]
  | .sizeMismatch declared metrics => [("declared", .ofNat declared), ("metrics", .ofNat metrics)]
  | .batchRejected violations => [("violations", .ofStrings violations)]
  | .swapSkipped index first second size =>
    [("index", .ofNat index), ("from", .ofInt first), ("to", .ofInt second), ("len", .ofNat size)]
  | .stageCompleted stage rowsIn rowsOut =>
    [("stage", .str stage), ("rows_in", .ofNat rowsIn), ("rows_out", .ofNat rowsOut)]

def toJson (e : Event) : Json := .obj (("type", .str e.kind) :: e.payload)

/-- The record that stands beside the tag, given as a map or as a list. -/
def decodePayload {σ : Type} (variant : String) (fields : List (Field Json σ)) (initial : σ)
    (value : Json) : Decoded σ :=
  (Record.decode ("variant EngineEvent::" ++ variant) fields initial value).mapError fun
    | .surplus n => .invalidLength n (Record.elements fields.length ++ " in sequence")
    | e => e

/-- The decoder of each kind, in the order in which an error lists the kinds. -/
def decoders : List (String × (Json → Decoded Event)) :=
  [("config_parse_failed", fun value => do
      let (field, error) ← decodePayload "ConfigParseFailed"
        [.required "field" Source.text fun x r => (x, r.2),
         .required "error" Source.text fun x r => (r.1, x)] ("", "") value
      return .fieldUnreadable field error),
   ("rule_shape_ignored", fun value => do
      let (field, index, reason) ← decodePayload "RuleShapeIgnored"
        [.required "field" Source.text fun x r => (x, r.2),
         .required "index" Json.natural fun x r => (r.1, x, r.2.2),
         .required "reason" Source.text fun x r => (r.1, r.2.1, x)] ("", 0, "") value
      return .entryIgnored field index reason),
   ("rule_field_ignored", fun value =>
      (decodePayload "RuleFieldIgnored" [.required "field" Source.text fun x _ => x] "" value).map
        .targetRefused),
   ("structural_mismatch", fun value => do
      let (declared, metrics) ← decodePayload "StructuralMismatch"
        [.required "declared" Json.natural fun x r => (x, r.2),
         .required "metrics" Json.natural fun x r => (r.1, x)] (0, 0) value
      return .sizeMismatch declared metrics),
   ("swap_rejected", fun value =>
      (decodePayload "SwapRejected"
        [.required "violations" (Source.list Source.text) fun x _ => x] [] value).map
        .batchRejected),
   ("swap_skipped", fun value => do
      let (index, first, second, size) ← decodePayload "SwapSkipped"
        [.required "index" Json.natural fun x r => (x, r.2),
         .required "from" Json.integer fun x r => (r.1, x, r.2.2),
         .required "to" Json.integer fun x r => (r.1, r.2.1, x, r.2.2.2),
         .required "len" Json.natural fun x r => (r.1, r.2.1, r.2.2.1, x)] (0, 0, 0, 0) value
      return .swapSkipped index first second size),
   ("stage_completed", fun value => do
      let (stage, rowsIn, rowsOut) ← decodePayload "StageCompleted"
        [.required "stage" Source.text fun x r => (x, r.2),
         .required "rows_in" Json.natural fun x r => (r.1, x, r.2.2),
         .required "rows_out" Json.natural fun x r => (r.1, r.2.1, x)] ("", 0, 0) value
      return .stageCompleted stage rowsIn rowsOut)]

def decoderOf (tag : Json) : Decoded (Json → Decoded Event) :=
  match tag with
  | .str kind =>
    match decoders.lookup kind with
    | some decoder => .ok decoder
    | none => .error (.unknownVariant kind (decoders.map Prod.fst))
  | tag => .error (.invalidType tag.described "variant identifier")

/-- A map with its kind under `type`, or a list that starts with its kind. -/
def ofJson : Json → Decoded Event
  | .obj members =>
    match members.lookup "type" with
    | some tag => do (← decoderOf tag) (.obj (members.filter fun m => m.1 != "type"))
    | none => .error (.missingField "type")
  | .arr (tag :: rest) => do (← decoderOf tag) (.arr rest)
  | .arr [] => .error (.missingField "type")
  | value => .error (.invalidType value.described "internally tagged enum EngineEvent")

end Event

/-- A value with the events reported on the way to it. -/
structure Reported (α : Type) where
  value : α
  events : List Event

namespace Reported

instance : Monad Reported where
  pure a := ⟨a, []⟩
  bind x f := ⟨(f x.value).value, x.events ++ (f x.value).events⟩

instance : LawfulMonad Reported := .mk' Reported
  (fun x => congrArg (Reported.mk x.value) (List.append_nil x.events))
  (fun _ _ => rfl)
  (fun x _ _ => congrArg (Reported.mk _) (List.append_assoc x.events _ _))

def report (e : Event) : Reported Unit := ⟨(), [e]⟩

def reportAll (events : List Event) : Reported Unit := ⟨(), events⟩

section

variable {α β : Type}

@[simp]
theorem value_pure (a : α) : (pure a : Reported α).value = a := rfl

@[simp]
theorem events_pure (a : α) : (pure a : Reported α).events = [] := rfl

@[simp]
theorem value_bind (x : Reported α) (f : α → Reported β) : (x >>= f).value = (f x.value).value := rfl

@[simp]
theorem events_bind (x : Reported α) (f : α → Reported β) :
    (x >>= f).events = x.events ++ (f x.value).events := rfl

@[simp]
theorem value_map (f : α → β) (x : Reported α) : (f <$> x).value = f x.value := rfl

@[simp]
theorem events_map (f : α → β) (x : Reported α) : (f <$> x).events = x.events :=
  List.append_nil x.events

theorem value_mapM (f : α → Reported β) (items : List α) :
    (items.mapM f).value = items.map fun a => (f a).value := by
  induction items with
  | nil => rfl
  | cons a rest ih => simp [ih]

@[simp]
theorem events_report (e : Event) : (report e).events = [e] := rfl

@[simp]
theorem events_reportAll (events : List Event) : (reportAll events).events = events := rfl

end

end Reported

end PivotTable
