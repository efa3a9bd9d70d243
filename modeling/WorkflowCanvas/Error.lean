import WorkflowCanvas.Json.Reader

/-! The errors of the canvas, each a cause with one wording. -/
namespace WorkflowCanvas

/-- Why a graph or the editing of a graph is refused. -/
inductive WorkflowError where
  | invalid (reason : String)
  | cyclicDependency (ids : List String)
  | nodeNotFound (id : String)
  | edgeNotFound (id : String)
  | duplicateNode (id : String)
  | duplicateEdge (id : String)
  | unknownNodeType (type : String)
  | invalidConnection (reason : String)
  deriving DecidableEq, Repr

def WorkflowError.message : WorkflowError → String
  | .invalid reason => s!"Invalid workflow: {reason}"
  | .cyclicDependency ids => s!"Cyclic dependency detected: {Text.literals ids}"
  | .nodeNotFound id => s!"Node not found: {id}"
  | .edgeNotFound id => s!"Edge not found: {id}"
  | .duplicateNode id => s!"Duplicate node id: {id}"
  | .duplicateEdge id => s!"Duplicate edge id: {id}"
  | .unknownNodeType type => s!"Unknown node type: {type}"
  | .invalidConnection reason => s!"Invalid connection: {reason}"

/-- Why one step of a run failed. -/
inductive StepError where
  | configuration (reason : String)
  | executionFailed (reason : String)
  | timeout (millis : Nat)
  | cancelled
  deriving DecidableEq, Repr

def StepError.message : StepError → String
  | .configuration reason => s!"Configuration error: {reason}"
  | .executionFailed reason => s!"Execution failed: {reason}"
  | .timeout millis => s!"Timeout after {millis}ms"
  | .cancelled => "Cancelled"

/-- An error of any part of the canvas. -/
inductive CanvasError where
  | step (error : StepError)
  | workflow (error : WorkflowError)
  | execution (reason : String)
  | serialization (error : TextError)

def CanvasError.message : CanvasError → String
  | .step error => s!"Node error: {error.message}"
  | .workflow error => s!"Workflow error: {error.message}"
  | .execution reason => s!"Execution error: {reason}"
  | .serialization error => s!"Serialization error: {error.message}"

end WorkflowCanvas
