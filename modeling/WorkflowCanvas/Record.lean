import WorkflowCanvas.Saved

/-! Pipeline records: a name and a graph, with whatever else a backend keeps beside them. -/
namespace WorkflowCanvas

/-- The graph of a record, and the other members of its metadata. -/
structure Metadata where
  nodes : List SavedNode := []
  edges : List SavedEdge := []
  extra : KeyMap Json := []

structure Record where
  id : Option String := none
  name : String
  description : Option String := none
  metadata : Metadata := {}
  extra : KeyMap Json := []

namespace Metadata

def toJson (m : Metadata) : Json := .obj <|
  [("rf_nodes", .arr (m.nodes.map (·.toJson))), ("rf_edges", .arr (m.edges.map (·.toJson)))]
  ++ m.extra

def reader : Reader Metadata :=
  .openRecord "struct PipelineMetadata" <| Metadata.mk
    <$> .optional "rf_nodes" (SavedGraph.listReader SavedNode.reader) []
    <*> .optional "rf_edges" (SavedGraph.listReader SavedEdge.reader) []

end Metadata

namespace Record

def toJson (r : Record) : Json := .obj <|
  Json.member? "id" (r.id.map .str)
  ++ [("name", .str r.name)]
  ++ Json.member? "description" (r.description.map .str)
  ++ [("metadata", r.metadata.toJson)]
  ++ r.extra

def reader : Reader Record :=
  .openRecord "struct PipelineRecord" <| Record.mk
    <$> .optional "id" Reader.text.option none
    <*> .required "name" .text
    <*> .optional "description" Reader.text.option none
    <*> .optional "metadata" (.nullAs {} Metadata.reader) {}

/-- The record of a JSON text. -/
def parse (text : String) : Except TextError Record := Scan.whole reader.ofText text

/-- Put the saved form of a graph into the record. -/
def setGraph (r : Record) (g : Graph) : Record :=
  let saved := g.save
  { r with metadata := { r.metadata with nodes := saved.nodes, edges := saved.edges } }

/-- The graph in the record. -/
def graph (r : Record) : Except WorkflowError Graph :=
  Graph.load ⟨r.metadata.nodes, r.metadata.edges⟩

/-- A record without an id that holds nothing but a graph. -/
def ofGraph (name : String) (g : Graph) : Record := setGraph { name } g

end Record
end WorkflowCanvas
