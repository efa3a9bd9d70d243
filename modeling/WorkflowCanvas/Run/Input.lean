import WorkflowCanvas.Graph

/-! What a node is given to work on. -/
namespace WorkflowCanvas.Graph

/-- What the output of a node adds to the input of the next: its members if it is an object, or else
the output under the id of the node; nothing without an output. -/
def outputMembers (id : String) : Option Json → KeyMap Json
  | none => []
  | some (.obj members) => members
  | some output => [(id, output)]

/-- What one node adds to the input of the next. -/
def contribution (g : Graph) (id : String) : KeyMap Json :=
  outputMembers id ((g.node? id).bind (·.data.run.lastOutput))

/-- The contributions of the nodes before a node, later ones winning; the first nodes of a run get
its input. -/
def mergedInput (g : Graph) (id : String) (input : Json) : Json :=
  match g.predecessors id with
  | [] => input
  | before => .obj (before.foldl (fun acc other => KeyMap.overlay acc (g.contribution other)) [])

end WorkflowCanvas.Graph
