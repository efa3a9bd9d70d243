import WorkflowCanvas.Validation.Graph
import WorkflowCanvas.Record
import WorkflowCanvas.NodeId
import WorkflowCanvas.Run.Basic

/-! The canvas: a graph under edit, the registry that decides what may be connected, and the source of
ids for new nodes. An operation that fails leaves the canvas as it was. -/
namespace WorkflowCanvas

structure CanvasSettings where
  /-- How far a copy is placed from the node that it is made of. -/
  duplicateOffset : Position := ⟨40, 40⟩
  run : RunSettings := {}

structure Canvas where
  registry : Registry
  settings : CanvasSettings := {}
  graph : Graph := .empty
  ids : IdSource := {}

/-- Why a connection is not allowed. -/
inductive ConnectionFault where
  | loop (node : String)
  | notAllowed (source target : String)
  | noOutputs (source : String)
  | noInputs (target : String)
  | unknownOutput (source handle : String)
  | unknownInput (target handle : String)
  deriving DecidableEq, Repr

def ConnectionFault.reason : ConnectionFault → String
  | .loop node => s!"{node} cannot connect to itself"
  | .notAllowed source target => s!"{source} nodes cannot connect into {target} nodes"
  | .noOutputs source => s!"{source} nodes have no outputs"
  | .noInputs target => s!"{target} nodes have no inputs"
  | .unknownOutput source handle => s!"{source} has no output handle '{handle}'"
  | .unknownInput target handle => s!"{target} has no input handle '{handle}'"

/-- What is wrong with a connection between the types of two nodes, at the given handles. -/
def Registry.connectionFault? (r : Registry) (source target : String)
    (sourceHandle targetHandle : Option String) : Option ConnectionFault :=
  match r.canConnect source target, r.get? source, r.get? target with
  | true, some s, some t =>
    if s.outputs.isEmpty then some (.noOutputs source)
    else if t.inputs.isEmpty then some (.noInputs target)
    else
      match sourceHandle.filter (!s.hasOutput ·), targetHandle.filter (!t.hasInput ·) with
      | some handle, _ => some (.unknownOutput source handle)
      | none, some handle => some (.unknownInput target handle)
      | none, none => none
  | _, _, _ => some (.notAllowed source target)

namespace Canvas

/-- Take over a graph. Numbering of new nodes goes on after as many as the graph has. -/
def load (c : Canvas) (g : Graph) : Canvas :=
  { c with graph := g, ids := ⟨UInt64.ofNat g.nodes.length⟩ }

def loadRecord (c : Canvas) (r : Record) : Except WorkflowError Canvas := do
  return c.load (← r.graph)

def toRecord (c : Canvas) (name : String) : Record := .ofGraph name c.graph

/-- An id that no node has. The first one free among as many as there are nodes, and one more. -/
def freshId (g : Graph) (stamp : Nat → String) : Nat → IdSource → String × IdSource
  | 0, ids => ids.next (stamp 0)
  | fuel + 1, ids =>
    let (id, ids') := ids.next (stamp (fuel + 1))
    if g.contains id then freshId g stamp fuel ids' else (id, ids')

/-- Put a new node on the canvas, made for the next free id. The clock is read for each id. -/
def place (c : Canvas) (stamp : Nat → String) (make : String → Node) :
    Except WorkflowError (String × Canvas) := do
  let (id, ids) := freshId c.graph stamp c.graph.nodes.length c.ids
  let graph ← c.graph.insertNode (make id)
  return (id, { c with graph, ids })

/-- Add a node of a type, with the defaults of its settings. -/
def addNode (c : Canvas) (stamp : Nat → String) (type : String) (position : Position) :
    Except WorkflowError (String × Canvas) :=
  match c.registry.get? type with
  | none => .error (.unknownNodeType type)
  | some d => c.place stamp fun id =>
    { id, type, position, data := { label := d.label, config := d.defaultConfig } }

/-- Copy a node, without its edges and without what runs left in it. -/
def duplicate (c : Canvas) (stamp : Nat → String) (id : String) :
    Except WorkflowError (String × Canvas) :=
  match c.graph.node? id with
  | none => .error (.nodeNotFound id)
  | some old => c.place stamp fun id =>
    { old with
      id
      position := old.position.offset c.settings.duplicateOffset
      data := old.data.clear }

/-- Change a node that is on the canvas. -/
def edit (c : Canvas) (id : String) (f : Node → Node) : Except WorkflowError Canvas :=
  if c.graph.contains id then .ok { c with graph := c.graph.updateNode id f }
  else .error (.nodeNotFound id)

def move (c : Canvas) (id : String) (position : Position) : Except WorkflowError Canvas :=
  c.edit id ({ · with position })

def editData (c : Canvas) (id : String) (f : NodeData → NodeData) : Except WorkflowError Canvas :=
  c.edit id fun n => { n with data := f n.data }

def rename (c : Canvas) (id label : String) : Except WorkflowError Canvas :=
  c.editData id ({ · with label })

def setNotes (c : Canvas) (id notes : String) : Except WorkflowError Canvas :=
  c.editData id ({ · with notes })

def setConfig (c : Canvas) (id key : String) (value : Json) : Except WorkflowError Canvas :=
  c.editData id fun d => { d with config := KeyMap.insert d.config key value }

def replaceConfig (c : Canvas) (id : String) (config : Config) : Except WorkflowError Canvas :=
  c.editData id ({ · with config })

/-- Take a node off the canvas together with its edges. -/
def removeNode (c : Canvas) (id : String) : Except WorkflowError (Node × Canvas) := do
  let removal ← c.graph.removeNode id
  return (removal.node, { c with graph := removal.rest })

def removeEdge (c : Canvas) (id : String) : Except WorkflowError (Edge × Canvas) := do
  let (edge, graph) ← c.graph.removeEdge id
  return (edge, { c with graph })

/-- Check whether a connection would be accepted. -/
def checkConnection (c : Canvas) (conn : Connection) : Except WorkflowError Unit :=
  match c.graph.node? conn.source, c.graph.node? conn.target with
  | none, _ => .error (.nodeNotFound conn.source)
  | some _, none => .error (.nodeNotFound conn.target)
  | some source, some target =>
    if source.id = target.id then .error (.invalidConnection (ConnectionFault.loop source.id).reason)
    else
      match c.registry.connectionFault? source.type target.type conn.sourceHandle
        conn.targetHandle with
      | some fault => .error (.invalidConnection fault.reason)
      | none => .ok ()

/-- The first id not in use among `base-n`, `base-(n+1)` and so on. -/
def freeEdgeId (g : Graph) (base : String) : Nat → Nat → String
  | 0, n => s!"{base}-{n}"
  | fuel + 1, n =>
    if (g.edge? s!"{base}-{n}").isSome then freeEdgeId g base fuel (n + 1) else s!"{base}-{n}"

/-- The id of a new edge: the one that follows from its ends, with a number if that is in use. -/
def newEdgeId (g : Graph) (conn : Connection) : String :=
  if (g.edge? conn.edgeId).isSome then freeEdgeId g conn.edgeId g.edges.length 1 else conn.edgeId

/-- Connect two nodes. A connection that is there already is left as it is. -/
def connect (c : Canvas) (conn : Connection) : Except WorkflowError (String × Canvas) := do
  c.checkConnection conn
  match c.graph.findEdge? conn with
  | some edge => return (edge.id, c)
  | none =>
    let edge := { Edge.ofConnection conn with id := newEdgeId c.graph conn }
    let graph ← c.graph.insertEdge edge
    return (edge.id, { c with graph })

def validateNode (c : Canvas) (id : String) : Except WorkflowError ConfigReport :=
  match c.graph.node? id with
  | none => .error (.nodeNotFound id)
  | some node => c.registry.validateConfig node.type node.data.config

def validate (c : Canvas) : GraphReport := c.registry.validate c.graph

/-- The mock executor with the delays of the settings. -/
def mock (c : Canvas) : Mock := .between c.settings.run.minDelay c.settings.run.maxDelay

/-- The run that the canvas starts with the given executor and input. -/
def simulation (c : Canvas) (executor : Executor) (input : Json) : Simulation :=
  { registry := c.registry, executor, settings := c.settings.run, input }

/-- Run the graph, and keep what the run leaves in it. -/
def run (c : Canvas) (sim : Simulation) : Except WorkflowError (Run × Canvas) := do
  let run ← sim.run c.graph
  return (run, { c with graph := run.graph })

def reset (c : Canvas) : Canvas := { c with graph := c.graph.clear }

end Canvas
end WorkflowCanvas
