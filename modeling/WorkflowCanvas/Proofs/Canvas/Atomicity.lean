import WorkflowCanvas.Proofs.Canvas.Connect
import WorkflowCanvas.Proofs.Canvas.FreshId
import WorkflowCanvas.Proofs.Canvas.Procedure

/-! Failures leave the canvas as it was, with its run state, its source of ids and what has been
reported of its runs. -/
namespace WorkflowCanvas

/-! ### Canvases -/

namespace Canvas.InPlace
open Procedure

def onGraph {α : Type} (p : Procedure Graph α) : Procedure Canvas α :=
  within (·.graph) (fun c g => { c with graph := g }) p

noncomputable def takeId (stamp : Nat → String) : Procedure Canvas String := do
  let c ← get
  let (id, ids) ← await (takeFree c.graph stamp c.graph.nodes.length c.ids)
  modify fun c => { c with ids }
  return id

noncomputable def place (stamp : Nat → String) (make : String → Node) : Procedure Canvas String := do
  let id ← takeId stamp
  onGraph <| Graph.InPlace.insertNode (make id)

noncomputable def addNode (stamp : Nat → String) (type : String) (position : Position) :
    Procedure Canvas String := do
  let d ← demand ((← get).registry.get? type) (.unknownNodeType type)
  place stamp fun id =>
    { id, type, position, data := { label := d.label, config := d.defaultConfig } }

noncomputable def duplicate (stamp : Nat → String) (id : String) : Procedure Canvas String := do
  let c ← get
  let old ← demand (c.graph.node? id) (.nodeNotFound id)
  place stamp fun id =>
    { old with
      id
      position := old.position.offset c.settings.duplicateOffset
      data := old.data.clear }

def edit (id : String) (f : Node → Node) : Procedure Canvas Unit := do
  require ((← get).graph.contains id) (.nodeNotFound id)
  onGraph <| modify (·.updateNode id f)

def editData (id : String) (f : NodeData → NodeData) : Procedure Canvas Unit :=
  edit id fun n => { n with data := f n.data }

def connect (conn : Connection) : Procedure Canvas String := do
  let c ← get
  check (c.checkConnection conn)
  match c.graph.findEdge? conn with
  | some edge => return edge.id
  | none => onGraph <| Graph.InPlace.insertEdge (newEdge c.graph conn)

def removeNode (id : String) : Procedure Canvas Node := do
  let (node, _) ← onGraph <| Graph.InPlace.removeNode id
  return node

def removeEdge (id : String) : Procedure Canvas Edge :=
  onGraph <| Graph.InPlace.removeEdge id

/-- The graph is built beside the one on the canvas, and takes its place at the end. -/
def loadRecord (r : Record) : Procedure Canvas Unit := do
  let g ← aside Graph.empty <| Graph.InPlace.insertSaved ⟨r.metadata.nodes, r.metadata.edges⟩
  modify (·.load g)

variable {c : Canvas} {stamp : Nat → String} {make : String → Node}

theorem onGraph_atomic {α : Type} {p : Procedure Graph α} (hp : p.Atomic) : (onGraph p).Atomic :=
  hp.within fun _ => rfl

theorem takeId_on (stamp : Nat → String) (c : Canvas) :
    (takeId stamp).on c = (takeFree c.graph stamp c.graph.nodes.length c.ids).map fun x =>
      (.ok x.1, { c with ids := x.2 }) := by
  simp only [takeId, on_bind, on_get, Option.bind_some, on_await]
  cases takeFree c.graph stamp c.graph.nodes.length c.ids <;> rfl

/-- A new node goes under an id that is free, so that it cannot be refused. -/
theorem place_on (hmake : ∀ id, (make id).id = id) (c : Canvas) : (place stamp make).on c =
    (takeFree c.graph stamp c.graph.nodes.length c.ids).map fun x => (.ok x.1,
      { c with graph := { c.graph with nodes := c.graph.nodes ++ [make x.1] }, ids := x.2 }) := by
  rw [place, on_bind, takeId_on]
  cases htake : takeFree c.graph stamp c.graph.nodes.length c.ids with
  | none => rfl
  | some x =>
    obtain ⟨id, ids⟩ := x
    have hinsert : c.graph.insertNode (make id) =
        .ok { c.graph with nodes := c.graph.nodes ++ [make id] } := by
      rw [Graph.insertNode, hmake, takeFree_free htake]
      rfl
    simp [onGraph, on_within, Graph.InPlace.insertNode_on, hinsert, hmake, Except.map]

theorem place_sure (hmake : ∀ id, (make id).id = id) : (place stamp make).Sure := by
  intro c e c' h
  rw [place_on hmake] at h
  obtain ⟨x, -, h⟩ := Option.map_eq_some_iff.mp h
  cases h

theorem place_settled (hmake : ∀ id, (make id).id = id)
    (hc : c.graph.nodes.length < UInt64.size) :
    (place stamp make).on c = some (settled c (c.place stamp make)) := by
  obtain ⟨id, ids, htake, hplace⟩ := place_eq_ok hmake hc stamp
  rw [place_on hmake, htake, hplace]
  rfl

theorem addNode_atomic (stamp : Nat → String) (type : String) (position : Position) :
    (addNode stamp type position).Atomic :=
  steady_get.bind fun _ => (steady_check _).bind fun _ => (place_sure fun _ => rfl).atomic

theorem addNode_on (stamp : Nat → String) (type : String) (position : Position)
    (hc : c.graph.nodes.length < UInt64.size) :
    (addNode stamp type position).on c = some (settled c (c.addNode stamp type position)) := by
  cases hd : c.registry.get? type with
  | none => simp [addNode, Canvas.addNode, on_bind, hd]
  | some d =>
    simp only [addNode, Canvas.addNode, on_bind, on_get, hd, Option.bind_some, on_demand_some]
    exact place_settled (fun _ => rfl) hc

theorem duplicate_atomic (stamp : Nat → String) (id : String) : (duplicate stamp id).Atomic :=
  steady_get.bind fun _ => (steady_check _).bind fun _ => (place_sure fun _ => rfl).atomic

theorem duplicate_on (stamp : Nat → String) (id : String)
    (hc : c.graph.nodes.length < UInt64.size) :
    (duplicate stamp id).on c = some (settled c (c.duplicate stamp id)) := by
  cases hold : c.graph.node? id with
  | none => simp [duplicate, Canvas.duplicate, on_bind, hold]
  | some old =>
    simp only [duplicate, Canvas.duplicate, on_bind, on_get, hold, Option.bind_some, on_demand_some]
    exact place_settled (fun _ => rfl) hc

theorem edit_atomic (id : String) (f : Node → Node) : (edit id f).Atomic :=
  steady_get.bind fun _ => (steady_check _).bind fun _ => onGraph_atomic (sure_modify _).atomic

theorem edit_on (id : String) (f : Node → Node) (c : Canvas) :
    (edit id f).on c = some (settled c ((c.edit id f).map fun c' => ((), c'))) := by
  by_cases h : c.graph.contains id = true
  · simp [edit, Canvas.edit, on_bind, onGraph, on_within, Except.map, h]
  · simp [edit, Canvas.edit, on_bind, Except.map, h]

theorem connect_atomic (conn : Connection) : (connect conn).Atomic := by
  refine steady_get.bind fun c => (steady_check _).bind fun _ => ?_
  cases c.graph.findEdge? conn with
  | none => exact onGraph_atomic (Graph.InPlace.insertEdge_atomic _)
  | some e => exact (sure_pure e.id).atomic

theorem connect_on (conn : Connection) (c : Canvas) :
    (connect conn).on c = some (settled c (c.connect conn)) := by
  cases hcheck : c.checkConnection conn with
  | error e => simp [connect, on_bind, hcheck, connect_of_error hcheck]
  | ok =>
    cases hfind : c.graph.findEdge? conn with
    | some e => simp [connect, on_bind, hcheck, hfind, connect_of_found hcheck hfind]
    | none =>
      have hedge := Graph.InPlace.insertEdge_on (newEdge c.graph conn) c.graph
      rw [insertEdge_newEdge hcheck] at hedge
      simp [connect, on_bind, onGraph, on_within, hcheck, hfind, connect_of_new hcheck hfind, hedge,
        Except.map, addEdge]

theorem removeNode_atomic (id : String) : (removeNode id).Atomic :=
  (onGraph_atomic (Graph.InPlace.removeNode_atomic id)).bind fun _ => sure_pure _

theorem removeNode_on (id : String) (c : Canvas) :
    (removeNode id).on c = some (settled c (c.removeNode id)) := by
  simp only [removeNode, Canvas.removeNode, on_bind, onGraph, on_within, Graph.InPlace.removeNode_on]
  cases c.graph.removeNode id <;> rfl

theorem removeEdge_atomic (id : String) : (removeEdge id).Atomic :=
  onGraph_atomic (Graph.InPlace.removeEdge_atomic id)

theorem removeEdge_on (id : String) (c : Canvas) :
    (removeEdge id).on c = some (settled c (c.removeEdge id)) := by
  simp only [removeEdge, Canvas.removeEdge, onGraph, on_within, Graph.InPlace.removeEdge_on]
  cases c.graph.removeEdge id <;> rfl

theorem loadRecord_atomic (r : Record) : (loadRecord r).Atomic :=
  (steady_aside _ _).bind fun _ => (sure_modify _).atomic

theorem loadRecord_on (r : Record) (c : Canvas) :
    (loadRecord r).on c = some (settled c ((c.loadRecord r).map fun c' => ((), c'))) := by
  simp only [loadRecord, Canvas.loadRecord, Record.graph, on_bind, on_aside,
    Graph.InPlace.finish_insertSaved]
  cases Graph.load ⟨r.metadata.nodes, r.metadata.edges⟩ <;> rfl

end Canvas.InPlace

namespace Canvas

/-- What can be done on a canvas and may fail, and what it returns. -/
inductive Operation : Type → Type where
  | addNode (stamp : Nat → String) (type : String) (position : Position) : Operation String
  | duplicate (stamp : Nat → String) (id : String) : Operation String
  | move (id : String) (position : Position) : Operation Unit
  | rename (id label : String) : Operation Unit
  | setNotes (id notes : String) : Operation Unit
  | setConfig (id key : String) (value : Json) : Operation Unit
  | replaceConfig (id : String) (config : Config) : Operation Unit
  | connect (conn : Connection) : Operation String
  | removeNode (id : String) : Operation Node
  | removeEdge (id : String) : Operation Edge
  | loadRecord (r : Record) : Operation Unit

namespace Operation
open Procedure
variable {α : Type}

noncomputable def procedure : Operation α → Procedure Canvas α
  | addNode stamp type position => InPlace.addNode stamp type position
  | duplicate stamp id => InPlace.duplicate stamp id
  | move id position => InPlace.edit id ({ · with position })
  | rename id label => InPlace.editData id ({ · with label })
  | setNotes id notes => InPlace.editData id ({ · with notes })
  | setConfig id key value =>
    InPlace.editData id fun d => { d with config := KeyMap.insert d.config key value }
  | replaceConfig id config => InPlace.editData id ({ · with config })
  | connect conn => InPlace.connect conn
  | removeNode id => InPlace.removeNode id
  | removeEdge id => InPlace.removeEdge id
  | loadRecord r => InPlace.loadRecord r

def outcome : Operation α → Canvas → Except WorkflowError (α × Canvas)
  | addNode stamp type position, c => c.addNode stamp type position
  | duplicate stamp id, c => c.duplicate stamp id
  | move id position, c => (c.move id position).map fun c' => ((), c')
  | rename id label, c => (c.rename id label).map fun c' => ((), c')
  | setNotes id notes, c => (c.setNotes id notes).map fun c' => ((), c')
  | setConfig id key value, c => (c.setConfig id key value).map fun c' => ((), c')
  | replaceConfig id config, c => (c.replaceConfig id config).map fun c' => ((), c')
  | connect conn, c => c.connect conn
  | removeNode id, c => c.removeNode id
  | removeEdge id, c => c.removeEdge id
  | loadRecord r, c => (c.loadRecord r).map fun c' => ((), c')

theorem procedure_atomic (op : Operation α) : op.procedure.Atomic := by
  cases op with
  | addNode stamp type position => exact InPlace.addNode_atomic stamp type position
  | duplicate stamp id => exact InPlace.duplicate_atomic stamp id
  | move | rename | setNotes | setConfig | replaceConfig => exact InPlace.edit_atomic _ _
  | connect conn => exact InPlace.connect_atomic conn
  | removeNode id => exact InPlace.removeNode_atomic id
  | removeEdge id => exact InPlace.removeEdge_atomic id
  | loadRecord r => exact InPlace.loadRecord_atomic r

theorem procedure_on (op : Operation α) {c : Canvas} (hc : c.graph.nodes.length < UInt64.size) :
    op.procedure.on c = some (settled c (op.outcome c)) := by
  cases op with
  | addNode stamp type position => exact InPlace.addNode_on stamp type position hc
  | duplicate stamp id => exact InPlace.duplicate_on stamp id hc
  | move | rename | setNotes | setConfig | replaceConfig => exact InPlace.edit_on _ _ c
  | connect conn => exact InPlace.connect_on conn c
  | removeNode id => exact InPlace.removeNode_on id c
  | removeEdge id => exact InPlace.removeEdge_on id c
  | loadRecord r => exact InPlace.loadRecord_on r c

end Operation
end Canvas

/-! ### Runs and reports -/

/-- A canvas, and what has been reported of its runs. -/
structure Desk where
  canvas : Canvas
  log : List Moment := []

namespace Desk
open Procedure

def onCanvas {α : Type} (p : Procedure Canvas α) : Procedure Desk α :=
  within (·.canvas) (fun d c => { d with canvas := c }) p

theorem onCanvas_atomic {α : Type} {p : Procedure Canvas α} (hp : p.Atomic) : (onCanvas p).Atomic :=
  hp.within fun _ => rfl

theorem onCanvas_on {α : Type} {p : Procedure Canvas α} {d : Desk}
    {outcome : Except WorkflowError (α × Canvas)}
    (hp : p.on d.canvas = some (settled d.canvas outcome)) : (onCanvas p).on d =
      some (settled d (outcome.map fun x => (x.1, { d with canvas := x.2 }))) := by
  rw [onCanvas, on_within, hp]
  cases outcome <;> rfl

/-- An act changes the graph and is reported at once. -/
def perform (a : Act) : Procedure Desk Unit :=
  modify fun d =>
    let g := a.change d.canvas.graph
    { canvas := { d.canvas with graph := g }, log := d.log ++ [⟨a.time, a.happening, g⟩] }

/-- Nothing is done before the plan of the graph is accepted, and nothing fails after that. -/
def run (sim : Simulation) : Procedure Desk Summary := do
  let g := (← get).canvas.graph
  require (g.plan.complete || sim.settings.onCycle != .reject) (.cyclicDependency g.plan.blocked)
  (sim.script g g.plan).forM perform
  return (sim.course g g.plan).summary g.plan.blocked

variable {d d' : Desk} {sim : Simulation}

def performed (d : Desk) (acts : List Act) : Desk where
  canvas := { d.canvas with graph := Act.perform d.canvas.graph acts }
  log := d.log ++ Act.moments d.canvas.graph acts

theorem forM_perform_on (acts : List Act) (d : Desk) :
    (acts.forM perform).on d = some (.ok (), d.performed acts) := by
  induction acts generalizing d with
  | nil =>
    show some _ = some _
    simp [performed, Act.perform, Act.moments]
  | cons a acts ih =>
    show (perform a >>= fun _ => acts.forM perform).on d = _
    rw [on_bind]
    refine (ih _).trans ?_
    simp [performed, Act.perform, Act.moments]

theorem run_atomic (sim : Simulation) : (run sim).Atomic := by
  refine steady_get.bind fun d => (steady_check _).bind fun _ => Sure.atomic ?_
  exact (Sure.forM fun a => sure_modify _).bind fun _ => sure_pure _

theorem run_refused (hplan : d.canvas.graph.plan.complete = false)
    (hreject : sim.settings.onCycle = .reject) :
    (run sim).on d = some (.error (.cyclicDependency d.canvas.graph.plan.blocked), d) := by
  simp [run, on_bind, hplan, hreject]

theorem run_accepted
    (haccept : (d.canvas.graph.plan.complete || sim.settings.onCycle != .reject) = true) :
    (run sim).on d = some (.ok ((sim.follow d.canvas.graph d.canvas.graph.plan).summary),
      d.performed (sim.script d.canvas.graph d.canvas.graph.plan)) := by
  simp only [run, on_bind, on_get, on_require, Option.bind_some, haccept, if_true,
    forM_perform_on, on_pure]
  rfl

/-- The acts of a run, one after the other, leave what the run leaves. -/
theorem run_on (sim : Simulation) (d : Desk) :
    (run sim).on d = some (settled d ((d.canvas.run sim).map fun x =>
      (x.1.summary, { canvas := x.2, log := d.log ++ x.1.moments }))) := by
  by_cases hrefused : d.canvas.graph.plan.complete = false ∧ sim.settings.onCycle = .reject
  · rw [run_refused hrefused.1 hrefused.2]
    simp [Canvas.run, Simulation.run, hrefused, bind, Except.bind, Except.map]
  · have haccept : (d.canvas.graph.plan.complete || sim.settings.onCycle != .reject) = true := by
      cases hplan : d.canvas.graph.plan.complete with
      | true => rfl
      | false => simpa using fun hreject => hrefused ⟨hplan, hreject⟩
    have hrun : sim.run d.canvas.graph = .ok (sim.follow d.canvas.graph d.canvas.graph.plan) := by
      simpa [Simulation.run] using hrefused
    rw [run_accepted haccept, Canvas.run, hrun]
    rfl

/-- What can be done at a desk and may fail, and what it returns. -/
inductive Operation : Type → Type 1 where
  | edit {α : Type} (op : Canvas.Operation α) : Operation α
  | run (sim : Simulation) : Operation Summary

namespace Operation
variable {α : Type}

noncomputable def procedure : Operation α → Procedure Desk α
  | edit op => onCanvas op.procedure
  | run sim => Desk.run sim

def outcome : Operation α → Desk → Except WorkflowError (α × Desk)
  | edit op, d => (op.outcome d.canvas).map fun x => (x.1, { d with canvas := x.2 })
  | run sim, d => (d.canvas.run sim).map fun x =>
    (x.1.summary, { canvas := x.2, log := d.log ++ x.1.moments })

theorem procedure_atomic (op : Operation α) : op.procedure.Atomic := by
  cases op with
  | edit op => exact onCanvas_atomic op.procedure_atomic
  | run sim => exact run_atomic sim

theorem procedure_on (op : Operation α) (hd : d.canvas.graph.nodes.length < UInt64.size) :
    op.procedure.on d = some (settled d (op.outcome d)) := by
  cases op with
  | edit op => exact onCanvas_on (op.procedure_on hd)
  | run sim => exact run_on sim d

end Operation

/-- An operation that fails changes nothing, be it one on a graph or one at a desk: neither the graph
with its run state, nor the source of ids, nor what has been reported. -/
theorem errors_atomic :
    (∀ {α : Type} (op : Graph.Operation α) (g : Graph),
      op.procedure.on g = some (settled g (op.outcome g)) ∧
      ∀ e g', op.procedure.on g = some (.error e, g') → g' = g) ∧
    (∀ {α : Type} (op : Operation α) (d : Desk),
      (d.canvas.graph.nodes.length < UInt64.size →
        op.procedure.on d = some (settled d (op.outcome d))) ∧
      ∀ e d', op.procedure.on d = some (.error e, d') → d' = d) ∧
    (∀ (record : Record) (e : WorkflowError) (d : Desk), record.graph = .error e →
      (Operation.edit (.loadRecord record)).procedure.on d = some (.error e, d)) ∧
    ∀ (sim : Simulation) (d : Desk), d.canvas.graph.plan.complete = false →
      sim.settings.onCycle = .reject →
      (Operation.run sim).procedure.on d =
        some (.error (.cyclicDependency d.canvas.graph.plan.blocked), d) := by
  refine ⟨fun op g => ⟨op.procedure_on g, op.procedure_atomic g⟩,
    fun op d => ⟨op.procedure_on, op.procedure_atomic d⟩, fun record e d hrecord => ?_,
    fun sim d => run_refused⟩
  have hload : (d.canvas.loadRecord record).map (fun c => ((), c)) = .error e := by
    rw [Canvas.loadRecord, hrecord]
    rfl
  have hon := Canvas.InPlace.loadRecord_on record d.canvas
  rw [hload] at hon
  exact onCanvas_on hon

end Desk
end WorkflowCanvas
