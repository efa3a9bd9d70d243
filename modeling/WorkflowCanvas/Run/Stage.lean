import WorkflowCanvas.Event.Bus
import WorkflowCanvas.Run.Basic

/-! Runs before an audience. Every act of a run is performed on the graph, and its event is sent on a
bus at once; between two events the receivers of the bus do as they like. -/
namespace WorkflowCanvas

/-- What happens among the receivers of a bus: a new one joins, or one that is there reads or leaves. -/
inductive Turn where
  | join
  | read (receiver : Nat)
  | leave (receiver : Nat)

def Turn.take (bus : Bus Event) (audience : List Receiver) : Turn → List Receiver
  | join => audience ++ [bus.subscribe]
  | read i => audience.modify i fun r => (bus.receive r).2
  | leave i => audience.eraseIdx i

/-- Where a run takes place: its graph, the bus with its receivers, and the events that the run has
sent so far. -/
structure Stage where
  graph : Graph
  bus : Bus Event
  audience : List Receiver := []
  log : List Event := []

/-- The event that reports an act. -/
def Act.event (execution : Uuid) (started : Timestamp) (a : Act) : Event :=
  ⟨execution, started.addMillis a.time, a.happening⟩

namespace Stage
variable (execution : Uuid) (started : Timestamp) (turns : Nat → List Turn)

/-- Perform an act and send its event, after the turns that the audience takes before it. -/
def act (s : Stage) (a : Act) : Stage where
  graph := a.change s.graph
  bus := s.bus.send (a.event execution started)
  audience := (turns s.log.length).foldl (Turn.take s.bus) s.audience
  log := s.log ++ [a.event execution started]

def play (s : Stage) (acts : List Act) : Stage := acts.foldl (act execution started turns) s

end Stage

namespace Simulation
variable (sim : Simulation) (started : Timestamp) (turns : Nat → List Turn)

/-- Walk along the given nodes. A step finds the graph as the acts before it have left it. -/
def walkOn : List String → Progress → Stage → Course × Stage
  | [], p, stage => ({ time := p.time, execution := sim.execution }, stage)
  | id :: rest, p, stage =>
    let play := Stage.play sim.execution started turns
    if p.cancelled || sim.cancellation.reached p.time then
      ({ left := id :: rest, stop := some .cancelled, time := p.time, execution := sim.execution },
        play stage (release p.time Stop.cancelled.reason (id :: rest)))
    else
      let a := sim.attempt { p with graph := stage.graph } id
      let stage := play stage a.acts
      match a.stop? sim.settings.onError with
      | some stop =>
        ({ attempts := [a], left := rest, stop := some stop, time := a.after.time,
            execution := sim.execution },
          play stage (release a.after.time stop.reason rest))
      | none =>
        let (course, stage) := walkOn rest a.after stage
        ({ course with attempts := a :: course.attempts }, stage)

/-- Run the graph of a stage. -/
def runOn (stage : Stage) : Except WorkflowError (Summary × Stage) :=
  let plan := stage.graph.plan
  let play := Stage.play sim.execution started turns
  if !plan.complete && sim.settings.onCycle = .reject then .error (.cyclicDependency plan.blocked)
  else
    let opened := play stage (opening plan)
    let (course, stage) := sim.walkOn started turns plan.order { graph := opened.graph } opened
    let summary := course.summary plan.blocked
    .ok (summary, play stage [summary.completed])

end Simulation
end WorkflowCanvas
