import WorkflowCanvas.Json.Fields

/-! Nodes of a workflow: what the user edits, and what the last run left behind. -/
namespace WorkflowCanvas

/-- The settings of a node, by field key. -/
abbrev Config := KeyMap Json

/-- A place on the canvas. -/
structure Position where
  x : Float
  y : Float

namespace Position

def origin : Position := ⟨0, 0⟩

def offset (p d : Position) : Position := ⟨p.x + d.x, p.y + d.y⟩

/-- Equality of places as numbers are equal, so that the two zeros are one. -/
def same (p q : Position) : Bool := p.x == q.x && p.y == q.y

def toJson (p : Position) : Json := .obj [("x", .float p.x), ("y", .float p.y)]

def reader : Reader Position :=
  .record "struct Position" <|
    Position.mk <$> .required "x" .float <*> .required "y" .float

end Position

/-- How far a node has come in a run. -/
inductive Status where
  | idle | queued | running | success | error
  deriving DecidableEq, Repr

namespace Status

def name : Status → String
  | .idle => "none"
  | .queued => "queued"
  | .running => "running"
  | .success => "success"
  | .error => "error"

def all : List Status := [.idle, .queued, .running, .success, .error]

/-- Whether the node is done with the run. -/
def terminal : Status → Bool
  | .success | .error => true
  | _ => false

def named : List (String × Status) := all.map fun s => (s.name, s)

def reader : Reader Status := .variant named

end Status

/-- What a run writes into a node. -/
structure RunState where
  status : Status := .idle
  lastOutput : Option Json := none
  lastInput : Option Json := none
  lastError : Option String := none

/-- Whether two runs left the same behind. -/
def RunState.same (r s : RunState) : Bool :=
  r.status == s.status && Json.sameOption r.lastOutput s.lastOutput
    && Json.sameOption r.lastInput s.lastInput && r.lastError == s.lastError

/-- The label, notes and settings of a node, and its run state. -/
structure NodeData where
  label : String
  notes : String := ""
  config : Config := []
  run : RunState := {}

namespace NodeData

/-- The data without what a run wrote. -/
def clear (d : NodeData) : NodeData := { d with run := {} }

def same (d e : NodeData) : Bool :=
  d.label == e.label && d.notes == e.notes && Json.sameMembers d.config e.config
    && d.run.same e.run

def toJson (d : NodeData) : Json := .obj <|
  [("label", .str d.label), ("notes", .str d.notes), ("config", .obj d.config),
    ("status", .str d.run.status.name)]
  ++ Json.member? "last_output" d.run.lastOutput
  ++ Json.member? "last_input" d.run.lastInput
  ++ Json.member? "last_error" (d.run.lastError.map .str)

def ofParts (label notes : String) (config : Config) (status : Status)
    (lastOutput lastInput : Option Json) (lastError : Option String) : NodeData :=
  ⟨label, notes, config, ⟨status, lastOutput, lastInput, lastError⟩⟩

def reader : Reader NodeData :=
  .record "struct NodeData" <| ofParts
    <$> .required "label" .text
    <*> .optional "notes" .text ""
    <*> .optional "config" .members []
    <*> .optional "status" Status.reader .idle
    <*> .optional "last_output" Reader.json.option none
    <*> .optional "last_input" Reader.json.option none
    <*> .optional "last_error" Reader.text.option none

end NodeData

/-- A node on the canvas. -/
structure Node where
  id : String
  type : String
  position : Position := .origin
  data : NodeData

namespace Node

/-- A node that is labelled with its type. -/
def fresh (id type : String) : Node := { id, type, data := { label := type } }

def status (n : Node) : Status := n.data.run.status

def same (n m : Node) : Bool :=
  n.id == m.id && n.type == m.type && n.position.same m.position && n.data.same m.data

def clear (n : Node) : Node := { n with data := n.data.clear }

def setRun (n : Node) (f : RunState → RunState) : Node :=
  { n with data := { n.data with run := f n.data.run } }

def toJson (n : Node) : Json := .obj
  [("id", .str n.id), ("type", .str n.type), ("position", n.position.toJson),
    ("data", n.data.toJson)]

def reader : Reader Node :=
  .record "struct WorkflowNode" <| Node.mk
    <$> .required "id" .text
    <*> .required "type" .text
    <*> .required "position" Position.reader
    <*> .required "data" NodeData.reader

end Node
end WorkflowCanvas
