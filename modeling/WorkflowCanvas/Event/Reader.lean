import WorkflowCanvas.Event.Basic

/-! Reading events back. An event is an object in which one member, the tag, names its kind, or a
list that starts with the kind. The tag is looked for first; the other members are read as the
fields of that kind. -/
namespace WorkflowCanvas

/-- Readers of the content of a tagged value. Inside such a value a variant may also be given over an
empty object. -/
def Reader.innerVariant {α : Type} (known : List (String × α)) : Reader α := .judged fun
  | .obj [(name, .obj [])] => Reader.variant.choose known name
  | j => (Reader.variant known).ofJson j

namespace Tagged
variable {α β : Type}

/-- The fields of a kind, with the name it has in reports. -/
structure Kind (α : Type) where
  name : String
  fields : Fields α

/-- Read the fields of a kind from the members beside the tag, or from the items behind it. -/
def Kind.read (kind : Kind α) (title : String) : Json → Except Misfit α
  | .arr items => do
    let (s, extra) ← Fields.ofItems (kind.fields.lengthText title) 0 kind.fields.seats items
      kind.fields.start
    let a ← kind.fields.finish s
    if extra.isEmpty then return a
    else
      let count := items.length - extra.length
      throw (.wrongLength items.length
        (if count = 1 then "1 element in sequence" else s!"{count} elements in sequence"))
  | .obj members => do
    let (s, _) ← kind.fields.ofMembers (fun _ _ rest => rest) members kind.fields.start ()
    kind.fields.finish s
  | j => .error (.wrongType j.found title)

/-- The kind that a tag names. With `indexed`, the tag may be the number of the kind. -/
def choose (kinds : List (Kind α)) (indexed : Bool) : Json → Except Misfit (Kind α)
  | .str name =>
    match kinds.find? (·.name == name) with
    | some kind => .ok kind
    | none => .error (.unknownVariant name (kinds.map (·.name)))
  | .num (.int (.ofNat n)) =>
    if indexed then
      match kinds[n]? with
      | some kind => .ok kind
      | none =>
        .error (.wrongValue (.integer n) s!"variant index 0 <= i < {kinds.length}")
    else .error (.wrongType (.integer n) "variant identifier")
  | j => .error (.wrongType j.found "variant identifier")

/-- A value of one of several kinds, told apart by the member `tag`. -/
def read (type tag : String) (kinds : List (Kind α)) (indexed : Bool) :
    Json → Except Misfit α
  | .obj members =>
    match KeyMap.get? members tag with
    | none => .error (.missing tag)
    | some name => content name (.obj (members.filter (·.1 ≠ tag)))
  | .arr [] => .error (.missing tag)
  | .arr (name :: items) => content name (.arr items)
  | j => .error (.wrongType j.found s!"internally tagged enum {type}")
where
  content (name rest : Json) : Except Misfit α :=
    match choose kinds indexed name with
    | .ok kind => kind.read s!"struct variant {type}::{kind.name}" rest
    | .error misfit => .error misfit

end Tagged

namespace StepMessage

def tagged : List (Tagged.Kind StepMessage) := [
  ⟨"Info", info <$> .required "message" .text⟩,
  ⟨"Warning", warning <$> .required "message" .text⟩,
  ⟨"Progress", progress <$> .required "percent" .float <*> .lacking "message" .text⟩,
  ⟨"Data", data <$> .required "key" .text <*> .required "value" .json⟩]

def reader : Reader StepMessage := .judged (Tagged.read "NodeEvent" "event_type" tagged true)

end StepMessage

namespace Event

def status : Reader Status := .innerVariant Status.named

def make (execution : Uuid) (h : Happening) (timestamp : Timestamp) : Event :=
  ⟨execution, timestamp, h⟩

/-- A kind of event: the execution comes first, then what happened, and the time last. -/
def kind (name : String) (happening : Fields Happening) : Tagged.Kind Event :=
  ⟨name, make <$> .required "execution_id" Uuid.reader <*> happening
    <*> .required "timestamp" Timestamp.reader⟩

def tagged : List (Tagged.Kind Event) := [
  kind "RunStarted" (.runStarted <$> .required "queued" (.list .text)),
  kind "RunCompleted" (.runCompleted <$> .required "success" .bool <*> .required "cancelled" .bool
    <*> .required "duration_ms" (.natural "u64")),
  kind "NodeStarted"
    (.nodeStarted <$> .required "node_id" .text <*> .required "node_type" .text),
  kind "NodeCompleted" (.nodeCompleted <$> .required "node_id" .text <*> .required "output" .json
    <*> .required "duration_ms" (.natural "u64")),
  kind "NodeFailed" (.nodeFailed <$> .required "node_id" .text <*> .required "error" .text),
  kind "NodeStatus" (.nodeStatus <$> .required "node_id" .text <*> .required "status" status),
  kind "NodeSkipped" (.nodeSkipped <$> .required "node_id" .text <*> .required "status" status
    <*> .required "reason" .text),
  kind "EdgeActivity" (.edgeActivity <$> .required "edge_id" .text <*> .required "active" .bool),
  kind "NodeEvent"
    (.nodeMessage <$> .required "node_id" .text <*> .required "event" StepMessage.reader)]

def reader : Reader Event := .judged (Tagged.read "ExecutionEvent" "type" tagged false)

end Event
end WorkflowCanvas
