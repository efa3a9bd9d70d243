import WorkflowCanvas.Validation.Config
import WorkflowCanvas.Order

/-! Checking a whole graph: the settings of its nodes, and its structure. -/
namespace WorkflowCanvas

/-- A structural problem of a graph. -/
inductive GraphIssue where
  | unknownNodeType (node type : String)
  | disallowedConnection (edge source target : String)
  | unknownHandle (edge handle : String)
  | noEntryPoint
  | blocked (nodes : List String)
  deriving DecidableEq, Repr

def GraphIssue.toJson : GraphIssue → Json
  | .unknownNodeType node type => .obj
    [("kind", .str "unknown_node_type"), ("node_id", .str node), ("node_type", .str type)]
  | .disallowedConnection edge source target => .obj
    [("kind", .str "disallowed_connection"), ("edge_id", .str edge), ("source_type", .str source),
      ("target_type", .str target)]
  | .unknownHandle edge handle => .obj
    [("kind", .str "unknown_handle"), ("edge_id", .str edge), ("handle", .str handle)]
  | .noEntryPoint => .obj [("kind", .str "no_entry_point")]
  | .blocked nodes => .obj [("kind", .str "blocked"), ("node_ids", .strings nodes)]

structure GraphReport where
  nodes : KeyMap ConfigReport := []
  issues : List GraphIssue := []
  deriving DecidableEq, Repr

namespace GraphReport

def isValid (r : GraphReport) : Bool := r.issues.isEmpty && (KeyMap.values r.nodes).all (·.isValid)

def errorCount (r : GraphReport) : Nat :=
  r.issues.length + ((KeyMap.values r.nodes).flatMap (·.errors)).length

def toJson (r : GraphReport) : Json := .obj
  [("nodes", .obj (r.nodes.map fun (id, report) => (id, report.toJson))),
    ("issues", .arr (r.issues.map (·.toJson)))]

end GraphReport

namespace Registry

/-- Check the settings of each node, or note that its type is not registered. -/
def nodeReport (r : Registry) (report : GraphReport) (n : Node) : GraphReport :=
  match r.validateConfig n.type n.data.config with
  | .ok found => { report with nodes := KeyMap.insert report.nodes n.id found }
  | .error _ => { report with issues := report.issues ++ [.unknownNodeType n.id n.type] }

/-- A handle that a registered type does not have. -/
def handleIssue (r : Registry) (edge type : String) (handle : Option String)
    (has : Definition → String → Bool) : List GraphIssue :=
  match handle, r.get? type with
  | some handle, some d => if has d handle then [] else [.unknownHandle edge handle]
  | _, _ => []

/-- The problems of an edge between nodes of the given types. -/
def edgeIssues (r : Registry) (e : Edge) (source target : String) : List GraphIssue :=
  (if r.contains source && r.contains target && !r.canConnect source target
    then [.disallowedConnection e.id source target] else [])
  ++ r.handleIssue e.id source e.sourceHandle Definition.hasOutput
  ++ r.handleIssue e.id target e.targetHandle Definition.hasInput

/-- The problems of an edge of a graph. -/
def edgeIssuesIn (r : Registry) (g : Graph) (e : Edge) : List GraphIssue :=
  match g.node? e.source, g.node? e.target with
  | some source, some target => r.edgeIssues e source.type target.type
  | _, _ => []

/-- The problems of the order in which a graph runs. -/
def orderIssues (g : Graph) : List GraphIssue :=
  if g.isEmpty then []
  else
    let plan := g.plan
    (if plan.order.isEmpty then [.noEntryPoint] else [])
    ++ (if plan.blocked.isEmpty then [] else [.blocked plan.blocked])

def validate (r : Registry) (g : Graph) : GraphReport :=
  let report := g.nodes.foldl r.nodeReport {}
  { report with issues := report.issues ++ g.edges.flatMap (r.edgeIssuesIn g) ++ orderIssues g }

end Registry
end WorkflowCanvas
