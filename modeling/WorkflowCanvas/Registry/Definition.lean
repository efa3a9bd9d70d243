import WorkflowCanvas.Registry.Field
import WorkflowCanvas.Node

/-! Definitions of node types: how a type is presented, its settings and its handles. -/
namespace WorkflowCanvas

/-- A connection point of a node. -/
structure Handle where
  id : String
  label : Option String := none
  deriving DecidableEq, Repr

namespace Handle

def toJson (h : Handle) : Json := .obj <|
  [("id", .str h.id)] ++ Json.member? "label" (h.label.map .str)

def reader : Reader Handle :=
  .record "struct HandleSpec" <| Handle.mk
    <$> .required "id" .text
    <*> .optional "label" Reader.text.option none

end Handle

structure Definition where
  type : String
  label : String
  description : String := ""
  category : String
  color : String := "#64748b"
  fields : List FieldSpec := []
  inputs : List Handle := [⟨"in", none⟩]
  outputs : List Handle := [⟨"out", none⟩]
  mockOutput : Option Json := none

namespace Definition

/-- The first field under a key. -/
def field? (d : Definition) (key : String) : Option FieldSpec := d.fields.find? (·.key == key)

def hasInput (d : Definition) (handle : String) : Bool := d.inputs.any (·.id == handle)

def hasOutput (d : Definition) (handle : String) : Bool := d.outputs.any (·.id == handle)

/-- The settings of a new node: the defaults of the fields that have one. -/
def defaultConfig (d : Definition) : Config :=
  KeyMap.ofEntries ((d.fields.filter fun f => !f.default.isNull).map fun f => (f.key, f.default))

def toJson (d : Definition) : Json := .obj <|
  [("node_type", .str d.type), ("label", .str d.label), ("description", .str d.description),
    ("category", .str d.category), ("color", .str d.color),
    ("fields", .arr (d.fields.map (·.toJson))), ("inputs", .arr (d.inputs.map (·.toJson))),
    ("outputs", .arr (d.outputs.map (·.toJson)))]
  ++ Json.member? "mock_output" d.mockOutput

def reader : Reader Definition :=
  .record "struct NodeDefinition" <| Definition.mk
    <$> .required "node_type" .text
    <*> .required "label" .text
    <*> .required "description" .text
    <*> .required "category" .text
    <*> .required "color" .text
    <*> .required "fields" (.list FieldSpec.reader)
    <*> .required "inputs" (.list Handle.reader)
    <*> .required "outputs" (.list Handle.reader)
    <*> .optional "mock_output" Reader.json.option none

end Definition
end WorkflowCanvas
