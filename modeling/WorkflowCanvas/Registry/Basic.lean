import WorkflowCanvas.Registry.Definition

/-! The registry of node types, in the order in which they were registered, and the table of the
types whose nodes may be connected. -/
namespace WorkflowCanvas

structure Registry where
  definitions : List Definition := []
  /-- Source type and target type of each allowed connection. -/
  allowed : List (String × String) := []

namespace Registry

def empty : Registry := {}

def get? (r : Registry) (type : String) : Option Definition := r.definitions.find? (·.type == type)

def contains (r : Registry) (type : String) : Bool := r.definitions.any (·.type == type)

def types (r : Registry) : List String := r.definitions.map (·.type)

/-- Register a type at the end, or put a new definition in the place of its old one. -/
def register (r : Registry) (d : Definition) : Registry :=
  if r.contains d.type then
    { r with definitions := r.definitions.map fun old => if old.type = d.type then d else old }
  else { r with definitions := r.definitions ++ [d] }

def allow (r : Registry) (source target : String) : Registry :=
  { r with allowed := if r.allowed.contains (source, target) then r.allowed
      else r.allowed ++ [(source, target)] }

def allowAll (r : Registry) (source : String) (targets : List String) : Registry :=
  targets.foldl (fun r target => r.allow source target) r

/-- Whether an edge may run from a node of the one type to a node of the other. Both types have to
be registered. -/
def canConnect (r : Registry) (source target : String) : Bool :=
  r.contains source && r.contains target && r.allowed.contains (source, target)

/-- The types that a node of the given type may be connected to, in order of registration. -/
def targets (r : Registry) (source : String) : List String := r.types.filter (r.canConnect source)

/-- The categories in the order of their first definition. -/
def categories (r : Registry) : List String :=
  r.definitions.foldl
    (fun seen d => if seen.contains d.category then seen else seen ++ [d.category]) []

def byCategory (r : Registry) (category : String) : List Definition :=
  r.definitions.filter (·.category == category)

def defaultConfig? (r : Registry) (type : String) : Option Config :=
  (r.get? type).map (·.defaultConfig)

def mockOutput? (r : Registry) (type : String) : Option Json := (r.get? type).bind (·.mockOutput)

end Registry
end WorkflowCanvas
