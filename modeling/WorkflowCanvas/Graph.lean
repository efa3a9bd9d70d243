import WorkflowCanvas.Edge
import WorkflowCanvas.Error

/-! The graph of a workflow. Nodes and edges keep the order in which they were inserted. -/
namespace WorkflowCanvas

structure Graph where
  nodes : List Node := []
  edges : List Edge := []

namespace Graph

/-- Ids are not repeated, and edges run between nodes of the graph. -/
structure WellFormed (g : Graph) : Prop where
  nodes_nodup : (g.nodes.map (·.id)).Nodup
  edges_nodup : (g.edges.map (·.id)).Nodup
  source_mem : ∀ e ∈ g.edges, e.source ∈ g.nodes.map (·.id)
  target_mem : ∀ e ∈ g.edges, e.target ∈ g.nodes.map (·.id)

def empty : Graph := {}

def nodeIds (g : Graph) : List String := g.nodes.map (·.id)

def edgeIds (g : Graph) : List String := g.edges.map (·.id)

/-- Equality of nodes in order, run state included. -/
def sameNodes : List Node → List Node → Bool
  | [], [] => true
  | n :: ns, m :: ms => n.same m && sameNodes ns ms
  | _, _ => false

/-- Equality of graphs: the same nodes and the same edges, each in the same order. -/
def same (g h : Graph) : Bool := sameNodes g.nodes h.nodes && g.edges == h.edges

def isEmpty (g : Graph) : Bool := g.nodes.isEmpty

def node? (g : Graph) (id : String) : Option Node := g.nodes.find? (·.id == id)

def edge? (g : Graph) (id : String) : Option Edge := g.edges.find? (·.id == id)

def contains (g : Graph) (id : String) : Bool := g.nodes.any (·.id == id)

/-- Change the node under an id, if there is one. -/
def updateNode (g : Graph) (id : String) (f : Node → Node) : Graph :=
  { g with nodes := g.nodes.map fun n => if n.id = id then f n else n }

/-- Change the edge under an id, if there is one. -/
def updateEdge (g : Graph) (id : String) (f : Edge → Edge) : Graph :=
  { g with edges := g.edges.map fun e => if e.id = id then f e else e }

def insertNode (g : Graph) (n : Node) : Except WorkflowError Graph :=
  if g.contains n.id then .error (.duplicateNode n.id) else .ok { g with nodes := g.nodes ++ [n] }

/-- Insert an edge between nodes of the graph; a missing source is reported before a missing target,
and both before an id in use. -/
def insertEdge (g : Graph) (e : Edge) : Except WorkflowError Graph :=
  if !g.contains e.source then .error (.nodeNotFound e.source)
  else if !g.contains e.target then .error (.nodeNotFound e.target)
  else if (g.edge? e.id).isSome then .error (.duplicateEdge e.id)
  else .ok { g with edges := g.edges ++ [e] }

/-- A node that was taken out, the edges that went with it, and what is left. -/
structure Removal where
  node : Node
  edges : List Edge
  rest : Graph

/-- Take out a node together with every edge that touches it. -/
def removeNode (g : Graph) (id : String) : Except WorkflowError Removal :=
  match g.node? id with
  | none => .error (.nodeNotFound id)
  | some node => .ok
    { node
      edges := g.edges.filter (·.touches id)
      rest := ⟨g.nodes.eraseP (·.id == id), g.edges.filter (!·.touches id)⟩ }

def removeEdge (g : Graph) (id : String) : Except WorkflowError (Edge × Graph) :=
  match g.edge? id with
  | none => .error (.edgeNotFound id)
  | some edge => .ok (edge, { g with edges := g.edges.eraseP (·.id == id) })

def incoming (g : Graph) (id : String) : List Edge := g.edges.filter (·.target == id)

def outgoing (g : Graph) (id : String) : List Edge := g.edges.filter (·.source == id)

/-- The nodes with an edge into `id`, in the order of their first such edge. -/
def predecessors (g : Graph) (id : String) : List String :=
  (g.incoming id).foldl (fun seen e => if seen.contains e.source then seen else seen ++ [e.source]) []

/-- The first edge with the given ends and handles. -/
def findEdge? (g : Graph) (c : Connection) : Option Edge := g.edges.find? (·.connection == c)

/-- The graph without what runs have left behind. -/
def clear (g : Graph) : Graph := ⟨g.nodes.map (·.clear), g.edges.map (·.clear)⟩

end Graph
end WorkflowCanvas
