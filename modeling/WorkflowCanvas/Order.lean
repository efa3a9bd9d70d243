import WorkflowCanvas.Graph

/-! The order in which the nodes of a graph run. A walk starts with the nodes that no edge enters
and releases a node once every edge into it has been passed; nodes on a cycle, and those behind
one, are never released. -/
namespace WorkflowCanvas

/-- The nodes in the order in which they run, those that a cycle holds back, and the cycles. -/
structure Plan where
  order : List String := []
  blocked : List String := []
  cycles : List (List String) := []
  deriving DecidableEq, Repr

/-- Whether no node is held back. -/
def Plan.complete (p : Plan) : Bool := p.blocked.isEmpty

/-- A walk under way: for each node the number of edges into it that have not been passed, the
nodes released but not yet visited, and the nodes visited. -/
structure Walk where
  waiting : List (String × Nat)
  queue : List String
  order : List String
  deriving DecidableEq, Repr

namespace Walk

/-- Pass an edge into `target`, and release the node when that was the last. -/
def pass (w : Walk) (target : String) : Walk :=
  let count := (w.waiting.lookup target).getD 0
  { w with
    waiting := w.waiting.map fun (id, n) => if id = target then (id, n - 1) else (id, n)
    queue := if count = 1 then w.queue ++ [target] else w.queue }

/-- Visit the node at the head of the queue and pass the edges that leave it. -/
def step (g : Graph) (w : Walk) : Walk :=
  match w.queue with
  | [] => w
  | id :: queue =>
    (g.outgoing id).foldl (fun w e => w.pass e.target) { w with queue, order := w.order ++ [id] }

def start (g : Graph) : Walk :=
  let waiting := g.nodeIds.map fun id => (id, (g.incoming id).length)
  ⟨waiting, (waiting.filter (·.2 == 0)).map (·.1), []⟩

/-- The walk after `count` visits. -/
def after (g : Graph) : Nat → Walk
  | 0 => start g
  | count + 1 => (after g count).step g

/-- The walk when no more nodes can be visited: none is visited twice. -/
def finish (g : Graph) : Walk := after g g.nodes.length

end Walk

namespace Graph

def successors (g : Graph) (id : String) : List String := (g.outgoing id).map (·.target)

def sources (g : Graph) (id : String) : List String := (g.incoming id).map (·.source)

/-- The nodes that `next` leads to from those in `todo`, in one step or more. -/
def closure (next : String → List String) : Nat → List String → List String → List String
  | 0, _, seen => seen
  | _, [], seen => seen
  | fuel + 1, id :: todo, seen =>
    let found := (next id).eraseDups.filter fun other => !seen.contains other
    closure next fuel (todo ++ found) (seen ++ found)

/-- The nodes at the end of a path that starts at `id` and has at least one edge. -/
def reachable (g : Graph) (id : String) : List String :=
  closure g.successors (g.nodes.length + 1) [id] []

/-- The nodes from which such a path leads to `id`. -/
def reaching (g : Graph) (id : String) : List String :=
  closure g.sources (g.nodes.length + 1) [id] []

/-- The nodes that lie with `id` on a cycle, in insertion order; none when `id` is on no cycle. -/
def cycleOf (g : Graph) (id : String) : List String :=
  let ahead := g.reachable id
  let behind := g.reaching id
  g.nodeIds.filter fun other => ahead.contains other && behind.contains other

/-- The groups of nodes that share a cycle, each once. -/
def cyclesAmong (g : Graph) : Nat → List String → List (List String)
  | 0, _ => []
  | _, [] => []
  | fuel + 1, id :: ids =>
    match g.cycleOf id with
    | [] => g.cyclesAmong fuel ids
    | cycle => cycle :: g.cyclesAmong fuel (ids.filter fun other => !cycle.contains other)

def plan (g : Graph) : Plan :=
  let w := Walk.finish g
  let blocked := (w.waiting.filter (·.2 > 0)).map (·.1)
  { order := w.order, blocked, cycles := g.cyclesAmong blocked.length blocked }

/-- The order of a graph without cycles. -/
def strictOrder (g : Graph) : Except WorkflowError (List String) :=
  if g.plan.complete then .ok g.plan.order else .error (.cyclicDependency g.plan.blocked)

end Graph
end WorkflowCanvas
