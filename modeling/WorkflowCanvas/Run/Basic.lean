import WorkflowCanvas.Run.Settings
import WorkflowCanvas.Run.Executor
import WorkflowCanvas.Run.Input
import WorkflowCanvas.Order

/-! Runs of a graph. A run is a list of acts, each of which changes the graph and is reported at
once; what an act does depends only on what the acts before it have left. Time is counted in
milliseconds from the start of the run, and only the delays of steps take any. -/
namespace WorkflowCanvas

/-- A change of the graph and its report. -/
structure Act where
  time : Nat
  change : Graph → Graph := id
  happening : Happening

/-- A report, and the graph as it stood then. -/
structure Moment where
  time : Nat
  happening : Happening
  graph : Graph

namespace Act

/-- The graph after some acts. -/
def perform (g : Graph) (acts : List Act) : Graph := acts.foldl (fun g a => a.change g) g

/-- The moments that acts pass through. -/
def moments : Graph → List Act → List Moment
  | _, [] => []
  | g, a :: acts => ⟨a.time, a.happening, a.change g⟩ :: moments (a.change g) acts

/-- A node comes to a status. -/
def status (time : Nat) (node : String) (status : Status)
    (result : RunState → RunState := id) : Act where
  time := time
  change g := g.updateNode node (·.setRun fun r => { result r with status })
  happening := .nodeStatus node status

/-- A node goes back to idle and will not run. -/
def skip (time : Nat) (reason node : String) : Act where
  time := time
  change g := g.updateNode node (·.setRun ({ · with status := .idle }))
  happening := .nodeSkipped node .idle reason

def activity (time : Nat) (active : Bool) (edge : String) : Act where
  time := time
  change g := g.updateEdge edge ({ · with animated := active })
  happening := .edgeActivity edge active

/-- A step sends a message, so many milliseconds after its start. -/
def message (start : Nat) (node : String) (m : Nat × StepMessage) : Act where
  time := start + m.1
  happening := .nodeMessage node m.2

end Act

/-- When the user cancels a run: never, before its start, or so many milliseconds after it. -/
inductive Cancellation where
  | never | before | after (millis : Nat)
  deriving DecidableEq, Repr

namespace Cancellation

/-- Whether the run is found cancelled between two steps. -/
def reached (c : Cancellation) (time : Nat) : Bool :=
  match c with
  | .never => false
  | .before => true
  | .after millis => millis < time

/-- The moment at which a step is cut off that would end at `stop`. -/
def cut? (c : Cancellation) (stop : Nat) : Option Nat :=
  match c with
  | .after millis => if millis < stop then some millis else none
  | _ => none

end Cancellation

/-- All that a run depends on besides the graph. -/
structure Simulation where
  registry : Registry
  executor : Executor
  settings : RunSettings
  /-- The input of the first nodes. -/
  input : Json
  cancellation : Cancellation := .never
  /-- The random number for each step. -/
  chance : Nat → Nat := fun _ => 0
  /-- The id of the execution, new for each run. -/
  execution : Uuid := ⟨0⟩

/-- How a step ended: when, whether it cancelled the run, what it had sent by then, and with what
output or failure. -/
structure Ending where
  time : Nat
  cancels : Bool := false
  messages : List (Nat × StepMessage) := []
  result : Except StepError Json

/-- Where a run stands between two steps. -/
structure Progress where
  graph : Graph
  time : Nat := 0
  attempts : Nat := 0
  cancelled : Bool := false

/-- What a run did with one node, and where it stood then. -/
structure Attempt where
  node : String
  /-- What the step was told, if the node was in the graph. -/
  told : Option StepContext := none
  /-- The acts with which the step began, its messages, and the acts with which it ended. -/
  begun : List Act := []
  sent : List Act := []
  ended : List Act := []
  result : Except StepError Json
  after : Progress

namespace Attempt

def acts (a : Attempt) : List Act := a.begun ++ a.sent ++ a.ended

def succeeded (a : Attempt) : Bool :=
  match a.result with
  | .ok _ => true
  | .error _ => false

end Attempt

/-- Why a run goes no further. -/
inductive Stop where
  | cancelled | failed
  deriving DecidableEq, Repr

def Stop.reason : Stop → String
  | .cancelled => "run cancelled"
  | .failed => "run stopped after a failure"

/-- Whether an attempt is the last of its run. -/
def Attempt.stop? (a : Attempt) (onError : ErrorHandling) : Option Stop :=
  match a.result, onError with
  | .ok _, _ => none
  | .error .cancelled, _ => some .cancelled
  | .error _, .stop => some .failed
  | .error _, .carryOn => none

/-- How far a run went: what it did with each node that it came to, the nodes that it left out when
it stopped, the time at its end, and the id of its execution. -/
structure Course where
  attempts : List Attempt := []
  left : List String := []
  stop : Option Stop := none
  time : Nat
  execution : Uuid

/-- The outcome of a run. -/
structure Summary where
  /-- The id of the execution, under which its events are sent. -/
  execution : Uuid := ⟨0⟩
  executed : List String := []
  failed : List String := []
  skipped : List String := []
  cancelled : Bool := false
  /-- The time that the run took. It is written as a count of 64 bits. -/
  millis : Nat := 0
  deriving DecidableEq, Repr

def Summary.success (s : Summary) : Bool := s.failed.isEmpty && !s.cancelled

namespace Simulation

/-- A step that is not cancelled ends after its delay, or at the timeout if that comes first. -/
def naturalEnd (sim : Simulation) (start : Nat) (step : Step) : Ending :=
  match sim.settings.stepTimeout.filter (· < step.delay) with
  | some timeout =>
    { time := start + timeout
      messages := step.sent (· ≤ timeout)
      result := .error (.timeout timeout) }
  | none =>
    { time := start + step.delay
      cancels := step.cancels
      messages := step.sent (· ≤ step.delay)
      result := step.outcome step.cancels }

/-- The end of a step that starts at the given time. -/
def ending (sim : Simulation) (start : Nat) (step : Step) : Ending :=
  let natural := sim.naturalEnd start step
  match sim.cancellation.cut? natural.time with
  | some time =>
    { time
      messages := step.sent (start + · < time)
      result := .error .cancelled }
  | none => natural

def context (sim : Simulation) (p : Progress) (node : Node) (input : Json) : StepContext where
  node := node.id
  type := node.type
  config := node.data.config
  input := input
  definition := sim.registry.get? node.type
  chance := sim.chance p.attempts

/-- The acts with which a step begins. -/
def beginning (time : Nat) (told : StepContext) (edges : List String) : List Act :=
  [Act.status time told.node .running ({ · with lastInput := some told.input }),
    { time, happening := .nodeStarted told.node told.type }]
  ++ edges.map (Act.activity time true)

/-- What a step leaves in its node, and what is reported of it. -/
def outcome (start : Nat) (node : String) (e : Ending) : List Act :=
  match e.result with
  | .ok output =>
    [Act.status e.time node .success ({ · with lastOutput := some output }),
      { time := e.time, happening := .nodeCompleted node output (e.time - start) }]
  | .error error =>
    [Act.status e.time node .error ({ · with lastError := some error.message }),
      { time := e.time, happening := .nodeFailed node error.message }]

/-- The acts with which a step ends. -/
def closing (start : Nat) (node : String) (edges : List String) (e : Ending) : List Act :=
  edges.map (Act.activity e.time false) ++ outcome start node e

/-- Run a node of the graph. -/
def attemptNode (sim : Simulation) (p : Progress) (node : Node) : Attempt :=
  let told := sim.context p node (p.graph.mergedInput node.id sim.input)
  let edges := (p.graph.incoming node.id).map (·.id)
  let e := sim.ending p.time (sim.executor told)
  let begun := beginning p.time told edges
  let sent := e.messages.map (Act.message p.time node.id)
  let ended := closing p.time node.id edges e
  { node := node.id
    told := some told
    begun, sent, ended
    result := e.result
    after :=
      { graph := Act.perform p.graph (begun ++ sent ++ ended)
        time := e.time
        attempts := p.attempts + 1
        cancelled := p.cancelled || e.cancels } }

/-- Run the node under an id. -/
def attempt (sim : Simulation) (p : Progress) (id : String) : Attempt :=
  match p.graph.node? id with
  | some node => sim.attemptNode p node
  | none =>
    { node := id
      result := .error (.executionFailed s!"node {id} is not on the canvas")
      after := p }

/-- Run the given nodes one after the other, as far as the run goes. -/
def walk (sim : Simulation) : List String → Progress → Course
  | [], p => { time := p.time, execution := sim.execution }
  | id :: rest, p =>
    if p.cancelled || sim.cancellation.reached p.time then
      { left := id :: rest, stop := some .cancelled, time := p.time, execution := sim.execution }
    else
      let a := sim.attempt p id
      match a.stop? sim.settings.onError with
      | some stop =>
        { attempts := [a], left := rest, stop := some stop, time := a.after.time,
          execution := sim.execution }
      | none =>
        let course := sim.walk rest a.after
        { course with attempts := a :: course.attempts }

/-- Leave out the given nodes. -/
def release (time : Nat) (reason : String) (nodes : List String) : List Act :=
  nodes.map (Act.skip time reason)

/-- The acts before the first step: what earlier runs left is cleared, and the nodes are queued or
left out. -/
def opening (plan : Plan) : List Act :=
  [{ time := 0, change := Graph.clear, happening := .runStarted plan.order }]
  ++ plan.order.map (fun id => Act.status 0 id .queued)
  ++ release 0 "blocked by a cycle" plan.blocked

end Simulation

namespace Course

/-- The acts of the steps, and the release of the nodes left out. -/
def acts (c : Course) : List Act :=
  c.attempts.flatMap (·.acts)
  ++ match c.stop with
    | none => []
    | some stop => Simulation.release c.time stop.reason c.left

/-- What became of the nodes, beside those that a cycle holds back. -/
def summary (c : Course) (blocked : List String) : Summary where
  execution := c.execution
  executed := (c.attempts.filter (·.succeeded)).map (·.node)
  failed := (c.attempts.filter (!·.succeeded)).map (·.node)
  skipped := blocked ++ c.left
  cancelled := c.stop == some .cancelled
  millis := c.time

end Course

def Summary.completed (s : Summary) : Act where
  time := s.millis
  happening := .runCompleted s.success s.cancelled s.millis

/-- A run that took place: its summary, what it did with the nodes that it came to, the moments it
passed through and the graph it left. -/
structure Run where
  summary : Summary
  attempts : List Attempt
  moments : List Moment
  graph : Graph

/-- What was reported of a run, in order. -/
def Run.log (r : Run) : List Happening := r.moments.map (·.happening)

/-- The events of a run under the id of its execution, started at the given time. -/
def Run.events (r : Run) (execution : Uuid) (started : Timestamp) : List Event :=
  r.moments.map fun m => ⟨execution, started.addMillis m.time, m.happening⟩

namespace Simulation

/-- How far a run along a plan goes. -/
def course (sim : Simulation) (g : Graph) (plan : Plan) : Course :=
  sim.walk plan.order { graph := Act.perform g (opening plan) }

/-- All acts of a run along a plan. -/
def script (sim : Simulation) (g : Graph) (plan : Plan) : List Act :=
  let course := sim.course g plan
  opening plan ++ course.acts ++ [(course.summary plan.blocked).completed]

/-- The run along a plan. -/
def follow (sim : Simulation) (g : Graph) (plan : Plan) : Run where
  summary := (sim.course g plan).summary plan.blocked
  attempts := (sim.course g plan).attempts
  moments := Act.moments g (sim.script g plan)
  graph := Act.perform g (sim.script g plan)

/-- Run a graph. A graph with a cycle is refused if the settings say so. -/
def run (sim : Simulation) (g : Graph) : Except WorkflowError Run :=
  let plan := g.plan
  if !plan.complete && sim.settings.onCycle = .reject then .error (.cyclicDependency plan.blocked)
  else .ok (sim.follow g plan)

end Simulation
end WorkflowCanvas
