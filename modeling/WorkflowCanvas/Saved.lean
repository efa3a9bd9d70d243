import WorkflowCanvas.Graph

/-! The saved form of a graph: its nodes and edges without run state. Reading it takes `null` for a
missing key, and rebuilding the graph checks what every graph keeps. -/
namespace WorkflowCanvas

structure SavedData where
  label : String
  notes : String := ""
  config : Config := []

structure SavedNode where
  id : String
  type : String
  position : Position := .origin
  data : SavedData

structure SavedEdge where
  id : String
  source : String
  target : String
  sourceHandle : Option String := none
  targetHandle : Option String := none
  deriving DecidableEq, Repr

structure SavedGraph where
  nodes : List SavedNode := []
  edges : List SavedEdge := []

namespace SavedData

def toJson (d : SavedData) : Json := .obj
  [("label", .str d.label), ("notes", .str d.notes), ("config", .obj d.config)]

def reader : Reader SavedData :=
  .record "struct PersistedNodeData" <| SavedData.mk
    <$> .required "label" .text
    <*> .optional "notes" (.nullAs "" .text) ""
    <*> .optional "config" (.nullAs [] .members) []

end SavedData

namespace SavedNode

def ofNode (n : Node) : SavedNode :=
  ⟨n.id, n.type, n.position, ⟨n.data.label, n.data.notes, n.data.config⟩⟩

def toNode (n : SavedNode) : Node :=
  ⟨n.id, n.type, n.position, { label := n.data.label, notes := n.data.notes, config := n.data.config }⟩

def toJson (n : SavedNode) : Json := .obj
  [("id", .str n.id), ("type", .str n.type), ("position", n.position.toJson),
    ("data", n.data.toJson)]

def reader : Reader SavedNode :=
  .record "struct PersistedNode" <| SavedNode.mk
    <$> .required "id" .text
    <*> .required "type" .text
    <*> .optional "position" Position.reader .origin
    <*> .required "data" SavedData.reader

end SavedNode

namespace SavedEdge

def ofEdge (e : Edge) : SavedEdge := ⟨e.id, e.source, e.target, e.sourceHandle, e.targetHandle⟩

def toEdge (e : SavedEdge) : Edge :=
  ⟨e.id, e.source, e.target, e.sourceHandle, e.targetHandle, false⟩

def toJson (e : SavedEdge) : Json := .obj
  [("id", .str e.id), ("source", .str e.source), ("target", .str e.target),
    ("sourceHandle", .orNull (e.sourceHandle.map .str)),
    ("targetHandle", .orNull (e.targetHandle.map .str))]

def reader : Reader SavedEdge :=
  .record "struct PersistedEdge" <| SavedEdge.mk
    <$> .required "id" .text
    <*> .required "source" .text
    <*> .required "target" .text
    <*> .optional "sourceHandle" Reader.text.option none
    <*> .optional "targetHandle" Reader.text.option none

end SavedEdge

namespace SavedGraph

def toJson (g : SavedGraph) : Json := .obj
  [("nodes", .arr (g.nodes.map (·.toJson))), ("edges", .arr (g.edges.map (·.toJson)))]

/-- A list in which `null` stands for no items. -/
def listReader {α : Type} (r : Reader α) : Reader (List α) := .nullAs [] (.list r)

def reader : Reader SavedGraph :=
  .record "struct PersistedGraph" <| SavedGraph.mk
    <$> .optional "nodes" (listReader SavedNode.reader) []
    <*> .optional "edges" (listReader SavedEdge.reader) []

end SavedGraph

namespace Graph

/-- The saved form, without run state. -/
def save (g : Graph) : SavedGraph := ⟨g.nodes.map .ofNode, g.edges.map .ofEdge⟩

/-- Rebuild a graph: all nodes in turn, then all edges in turn, up to the first that is refused. -/
def load (saved : SavedGraph) : Except WorkflowError Graph := do
  let g ← saved.nodes.foldlM (fun g n => g.insertNode n.toNode) Graph.empty
  saved.edges.foldlM (fun g e => g.insertEdge e.toEdge) g

/-- A graph is written and read in its saved form. -/
def toJson (g : Graph) : Json := g.save.toJson

def ofJson (j : Json) : Except Misfit Graph := do
  let saved ← SavedGraph.reader.ofJson j
  (load saved).mapError fun e => .other e.message

end Graph
end WorkflowCanvas
