import WorkflowCanvas.Node

/-! Edges of a workflow: a connection from one node to another, at named handles or at none. -/
namespace WorkflowCanvas

/-- The two ends of a connection. -/
structure Connection where
  source : String
  target : String
  sourceHandle : Option String := none
  targetHandle : Option String := none
  deriving DecidableEq, Repr

/-- The id of an edge when none is given: its ends and their handles, one after the other. -/
def Connection.edgeId (c : Connection) : String :=
  "edge-" ++ c.source ++ c.sourceHandle.getD "" ++ "-" ++ c.target ++ c.targetHandle.getD ""

structure Edge where
  id : String
  source : String
  target : String
  sourceHandle : Option String := none
  targetHandle : Option String := none
  /-- Set while the node at the target is running. -/
  animated : Bool := false
  deriving DecidableEq, Repr

namespace Edge

/-- The edge of a connection, under the id that follows from its ends. -/
def ofConnection (c : Connection) : Edge :=
  ⟨c.edgeId, c.source, c.target, c.sourceHandle, c.targetHandle, false⟩

def connection (e : Edge) : Connection := ⟨e.source, e.target, e.sourceHandle, e.targetHandle⟩

/-- Whether the edge starts or ends at a node. -/
def touches (e : Edge) (node : String) : Bool := e.source == node || e.target == node

def clear (e : Edge) : Edge := { e with animated := false }

def toJson (e : Edge) : Json := .obj <|
  [("id", .str e.id), ("source", .str e.source), ("target", .str e.target)]
  ++ Json.member? "source_handle" (e.sourceHandle.map .str)
  ++ Json.member? "target_handle" (e.targetHandle.map .str)
  ++ [("animated", .bool e.animated)]

def reader : Reader Edge :=
  .record "struct WorkflowEdge" <| Edge.mk
    <$> .required "id" .text
    <*> .required "source" .text
    <*> .required "target" .text
    <*> .optional "source_handle" Reader.text.option none
    <*> .optional "target_handle" Reader.text.option none
    <*> .optional "animated" .bool false

end Edge
end WorkflowCanvas
