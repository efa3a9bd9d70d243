import WorkflowCanvas.Json.Fields

/-! The settings that a node type offers: what kind of input each expects, its bounds, and when it
is shown. -/
namespace WorkflowCanvas

inductive FieldKind where
  | text | textarea | number | boolean | select | json
  deriving DecidableEq, Repr

namespace FieldKind

def name : FieldKind → String
  | .text => "text"
  | .textarea => "textarea"
  | .number => "number"
  | .boolean => "boolean"
  | .select => "select"
  | .json => "json"

def all : List FieldKind := [.text, .textarea, .number, .boolean, .select, .json]

def reader : Reader FieldKind := .variant (all.map fun k => (k.name, k))

end FieldKind

/-- Show a field only while the setting `field` is one of `equals`. -/
structure FieldCondition where
  field : String
  equals : List Json

namespace FieldCondition

def toJson (c : FieldCondition) : Json := .obj [("field", .str c.field), ("equals", .arr c.equals)]

def reader : Reader FieldCondition :=
  .record "struct FieldCondition" <| FieldCondition.mk
    <$> .required "field" .text
    <*> .required "equals" (.list .json)

end FieldCondition

structure FieldSpec where
  key : String
  label : String
  kind : FieldKind
  default : Json := .null
  required : Bool := false
  min : Option Float := none
  max : Option Float := none
  maxLength : Option Nat := none
  options : List String := []
  visibleWhen : Option FieldCondition := none
  help : Option String := none

namespace FieldSpec

def toJson (f : FieldSpec) : Json := .obj <|
  [("key", .str f.key), ("label", .str f.label), ("field_type", .str f.kind.name),
    ("default", f.default), ("required", .bool f.required)]
  ++ Json.member? "min" (f.min.map .float)
  ++ Json.member? "max" (f.max.map .float)
  ++ Json.member? "max_length" (f.maxLength.map .nat)
  ++ (if f.options.isEmpty then [] else [("options", .strings f.options)])
  ++ Json.member? "visible_when" (f.visibleWhen.map (·.toJson))
  ++ Json.member? "help" (f.help.map .str)

def reader : Reader FieldSpec :=
  .record "struct FieldSpec" <| FieldSpec.mk
    <$> .required "key" .text
    <*> .required "label" .text
    <*> .required "field_type" FieldKind.reader
    <*> .optional "default" .json .null
    <*> .optional "required" .bool false
    <*> .optional "min" Reader.float.option none
    <*> .optional "max" Reader.float.option none
    <*> .optional "max_length" (Reader.natural "usize").option none
    <*> .optional "options" (.list .text) []
    <*> .optional "visible_when" FieldCondition.reader.option none
    <*> .optional "help" Reader.text.option none

end FieldSpec
end WorkflowCanvas
