import WorkflowCanvas.Event.Uuid
import WorkflowCanvas.Event.Timestamp
import WorkflowCanvas.Node

/-! What is reported of a run while it goes on: the messages of its steps, and the events of the run
itself. -/
namespace WorkflowCanvas

/-- A message that a step sends. -/
inductive StepMessage where
  | info (text : String)
  | warning (text : String)
  | progress (percent : Float) (text : Option String)
  | data (key : String) (value : Json)

namespace StepMessage

def kind : StepMessage → String
  | .info _ => "Info"
  | .warning _ => "Warning"
  | .progress _ _ => "Progress"
  | .data _ _ => "Data"

def kinds : List String := ["Info", "Warning", "Progress", "Data"]

def members : StepMessage → List (String × Json)
  | .info text | .warning text => [("message", .str text)]
  | .progress percent text => [("percent", .float percent), ("message", .orNull (text.map .str))]
  | .data key value => [("key", .str key), ("value", value)]

def toJson (m : StepMessage) : Json := .obj (("event_type", .str m.kind) :: m.members)

end StepMessage

/-- Something that happens in a run. -/
inductive Happening where
  | runStarted (queued : List String)
  | runCompleted (success cancelled : Bool) (millis : Nat)
  | nodeStarted (node type : String)
  | nodeCompleted (node : String) (output : Json) (millis : Nat)
  | nodeFailed (node error : String)
  /-- A node came to a new status. -/
  | nodeStatus (node : String) (status : Status)
  /-- A node will not run, and its status went back. -/
  | nodeSkipped (node : String) (status : Status) (reason : String)
  | edgeActivity (edge : String) (active : Bool)
  | nodeMessage (node : String) (message : StepMessage)

namespace Happening

def kind : Happening → String
  | .runStarted _ => "RunStarted"
  | .runCompleted _ _ _ => "RunCompleted"
  | .nodeStarted _ _ => "NodeStarted"
  | .nodeCompleted _ _ _ => "NodeCompleted"
  | .nodeFailed _ _ => "NodeFailed"
  | .nodeStatus _ _ => "NodeStatus"
  | .nodeSkipped _ _ _ => "NodeSkipped"
  | .edgeActivity _ _ => "EdgeActivity"
  | .nodeMessage _ _ => "NodeEvent"

def kinds : List String :=
  ["RunStarted", "RunCompleted", "NodeStarted", "NodeCompleted", "NodeFailed", "NodeStatus",
    "NodeSkipped", "EdgeActivity", "NodeEvent"]

def members : Happening → List (String × Json)
  | .runStarted queued => [("queued", .strings queued)]
  | .runCompleted success cancelled millis =>
    [("success", .bool success), ("cancelled", .bool cancelled), ("duration_ms", .nat millis)]
  | .nodeStarted node type => [("node_id", .str node), ("node_type", .str type)]
  | .nodeCompleted node output millis =>
    [("node_id", .str node), ("output", output), ("duration_ms", .nat millis)]
  | .nodeFailed node error => [("node_id", .str node), ("error", .str error)]
  | .nodeStatus node status => [("node_id", .str node), ("status", .str status.name)]
  | .nodeSkipped node status reason =>
    [("node_id", .str node), ("status", .str status.name), ("reason", .str reason)]
  | .edgeActivity edge active => [("edge_id", .str edge), ("active", .bool active)]
  | .nodeMessage node message => [("node_id", .str node), ("event", message.toJson)]

/-- Whether nothing comes after it in its run. -/
def isEnd : Happening → Bool
  | .runCompleted _ _ _ => true
  | _ => false

end Happening

/-- An event of a run: what happened, in which execution, and when. -/
structure Event where
  execution : Uuid
  timestamp : Timestamp
  happening : Happening

def Event.toJson (e : Event) : Json := .obj <|
  [("type", .str e.happening.kind), ("execution_id", .str e.execution.text)]
  ++ e.happening.members
  ++ [("timestamp", .str e.timestamp.text)]

end WorkflowCanvas
