import WorkflowCanvas.Registry.Basic
import WorkflowCanvas.Event.Basic
import WorkflowCanvas.Error

/-! Executors run single nodes. The mock executor waits for a while and answers with the mock output
of the node's type; it can be told to fail. -/
namespace WorkflowCanvas

/-- What a step is told of the node that it runs. -/
structure StepContext where
  node : String
  type : String
  config : Config
  /-- The merged outputs of the nodes before it. -/
  input : Json
  /-- The definition of the type, if it is registered. -/
  definition : Option Definition
  /-- A number drawn at random for this step. -/
  chance : Nat

/-- What a step does: it sends messages, waits, and ends. It sends nothing after its end, and nothing as
another node than its own: what is known of the logs of runs rests on that. -/
structure Step where
  /-- The messages that it sends at once. -/
  messages : List StepMessage := []
  /-- Those that it sends while it waits, each so many milliseconds after its start. -/
  later : List (Nat × StepMessage) := []
  /-- The time that it waits, in milliseconds. -/
  delay : Nat := 0
  /-- Whether it cancels the run at the end of that time. It ends regularly all the same. -/
  cancels : Bool := false
  /-- Its output or failure, given whether the run has been cancelled by then. -/
  outcome : Bool → Except StepError Json

/-- The messages of a step that goes on as long as `going` says, by the time after its start. -/
def Step.sent (s : Step) (going : Nat → Bool) : List (Nat × StepMessage) :=
  s.messages.map (0, ·) ++ s.later.takeWhile fun m => going m.1

/-- The step for a node depends only on what it is told: nothing that sends is kept from one step to the
next. -/
abbrev Executor := StepContext → Step

/-- The output of nodes whose type has no mock output. -/
def fallbackOutput : Json := .obj [("result", .str "ok")]

/-- The mock executor: a range of delays, and the nodes and types that fail. Delays are counts of 64 bits
where they are set. -/
structure Mock where
  minDelay : Nat := 0
  maxDelay : Nat := 0
  failingNodes : List String := []
  failingTypes : List String := []
  deriving DecidableEq, Repr

namespace Mock

/-- A mock with delays between two bounds, given in any order. -/
def between (a b : Nat) : Mock := { minDelay := min a b, maxDelay := max a b }

def failNode (m : Mock) (node : String) : Mock :=
  { m with failingNodes := m.failingNodes ++ [node] }

def failType (m : Mock) (type : String) : Mock :=
  { m with failingTypes := m.failingTypes ++ [type] }

/-- The delay that a random number stands for. -/
def delay (m : Mock) (chance : Nat) : Nat := m.minDelay + chance % (m.maxDelay - m.minDelay + 1)

def fails (m : Mock) (ctx : StepContext) : Bool :=
  m.failingNodes.contains ctx.node || m.failingTypes.contains ctx.type

def execute (m : Mock) : Executor := fun ctx =>
  let delay := m.delay ctx.chance
  { messages := [.info s!"Simulating {ctx.type} for {delay}ms"]
    delay
    outcome := fun _ =>
      if m.fails ctx then .error (.executionFailed s!"simulated failure in {ctx.node}")
      else .ok ((ctx.definition.bind (·.mockOutput)).getD fallbackOutput) }

end Mock
end WorkflowCanvas
