import WorkflowCanvas.CommandLine.Command
import WorkflowCanvas.CommandLine.Script
import WorkflowCanvas.Event.Bus
import WorkflowCanvas.Registry.Catalogue
import WorkflowCanvas.Canvas

/-! The commands as scripts. -/
namespace WorkflowCanvas

/-- What a command is told when it starts: the time, an id for its execution, and random numbers. -/
structure Session where
  stamp : String
  execution : Uuid
  chance : Nat → Nat := fun _ => 0

namespace Command

/-! Pipeline files -/

def readRecord (path : String) : Script Record := do
  let text ← Script.readFile path
  Script.ofExcept (fun e => ⟨s!"parsing {path}", [e.message]⟩) (Record.parse text)

/-- A canvas with the graph of a pipeline file, and the record that it was read from. -/
def loadCanvas (path : String) (settings : CanvasSettings := {}) : Script (Canvas × Record) := do
  let record ← readRecord path
  let canvas : Canvas := { registry := Catalogue.registry, settings }
  let canvas ← Script.ofExcept Failure.ofWorkflow (canvas.loadRecord record)
  return (canvas, record)

/-! Running -/

/-- What is printed of an event, if anything. -/
def eventLine? : Happening → Option String
  | .runStarted queued => some s!"Run started, {queued.length} node(s) queued"
  | .nodeStarted node type => some s!"  running  {node} ({type})"
  | .nodeCompleted node output millis =>
    some s!"  success  {node} in {millis}ms -> {output.sorted.compact}"
  | .nodeFailed node error => some s!"  error    {node}: {error}"
  | .nodeSkipped node _ reason => some s!"  skipped  {node} ({reason})"
  | .nodeMessage node (.info text) => some s!"           [{node}] {text}"
  | .nodeMessage node (.warning text) => some s!"           [{node}] warning: {text}"
  | .runCompleted success cancelled millis =>
    let outcome := if cancelled then "cancelled" else if success then "completed" else "failed"
    some s!"Run {outcome} after {millis}ms"
  | _ => none

/-- The task that prints the events of a run while it goes on: its place on the bus, and whether it has
come to its end. -/
structure Printer where
  receiver : Receiver
  ended : Bool := false

namespace Printer

/-- Print the next event, if there is one. The task ends with the run, and also where it has missed
something. -/
def turn (bus : Bus Happening) (p : Printer) : List String × Printer :=
  if p.ended then ([], p)
  else
    match bus.receive p.receiver with
    | (.message h, receiver) => ((eventLine? h).toList, { receiver, ended := h.isEnd })
    | (.lagged _, receiver) => ([], { receiver, ended := true })
    | (.empty, receiver) => ([], { receiver })

def turns (bus : Bus Happening) : Nat → Printer → List String × Printer
  | 0, p => ([], p)
  | count + 1, p =>
    let (lines, p) := p.turn bus
    let (more, p) := turns bus count p
    (lines ++ more, p)

end Printer

/-- Send the events of a run as its moments pass. After each of them the task that prints them takes as
many turns as `pace` says for the number of events before it, and after the last as many as it can. -/
def follow (pace : Nat → Nat) : Nat → Bus Happening → Printer → List Moment → Script Unit
  | _, bus, printer, [] => Script.sayAll (printer.turns bus (bus.kept.length + 1)).1
  | now, bus, printer, m :: moments => do
    if now < m.time then Script.wait (m.time - now) (.done ())
    let (lines, printer) := printer.turns (bus.send m.happening) (pace bus.sent)
    Script.sayAll lines
    follow pace m.time (bus.send m.happening) printer moments

/-- The input of a run: an object, empty unless it is given. -/
def runInput : Option String → Script Json
  | none => return .obj []
  | some text => do
    let input ← Script.ofExcept (fun e => ⟨e.message, []⟩) (Json.parse text)
    if input.isObject then return input else Script.fail ⟨"Input must be a JSON object", []⟩

def summaryLines (s : Summary) : List String :=
  let named (name : String) (ids : List String) : List String :=
    if ids.isEmpty then [] else [s!"   {name}: " ++ ", ".intercalate ids]
  ["", "Summary:", s!"   Execution ID: {s.execution.text}",
    "   Executed: " ++ ", ".intercalate s.executed]
  ++ named "Failed" s.failed ++ named "Skipped" s.skipped

/-- A run whose events are printed at the given pace. -/
def runScript (session : Session) (r : RunRequest) (pace : Nat → Nat := fun _ => 1) :
    Script Unit := do
  let settings : RunSettings :=
    { minDelay := r.minDelay
      maxDelay := r.maxDelay
      onError := if r.continueOnError then .carryOn else .stop
      onCycle := if r.strict then .reject else .skip }
  let (canvas, record) ← loadCanvas r.file { run := settings }
  Script.sayAll [s!"Pipeline: {record.name}", s!"   Nodes: {canvas.graph.nodes.length}",
    s!"   Edges: {canvas.graph.edges.length}", ""]
  let input ← runInput r.input
  let mock := r.failing.foldl Mock.failNode canvas.mock
  let sim := { canvas.simulation mock.execute input with
    chance := session.chance, execution := session.execution }
  let run ← Script.ofExcept
    (fun e => ⟨(CanvasError.workflow e).message, [e.message]⟩) (sim.run canvas.graph)
  let bus : Bus Happening := Bus.withCapacity settings.eventRoom
  follow pace 0 bus { receiver := bus.subscribe } run.moments
  Script.sayAll (summaryLines run.summary)
  if run.summary.success then return
  else Script.fail ⟨"run did not complete successfully", []⟩

/-! Checking and ordering -/

def reportLines (report : GraphReport) : List String :=
  report.issues.map (fun issue => s!"  issue: {issue.toJson.compact}")
  ++ report.nodes.flatMap (fun (node, found) =>
    found.errors.map (fun (key, message) => s!"  error   {node}.{key}: {message}")
    ++ found.warnings.map (fun (key, message) => s!"  warning {node}.{key}: {message}"))
  ++ [if report.isValid then "Pipeline is valid" else s!"{report.errorCount} problem(s) found"]

def validateScript (file : String) : Script Unit := do
  let (canvas, record) ← loadCanvas file
  Script.say s!"Validating pipeline: {record.name}"
  Script.sayAll (reportLines canvas.validate)

/-- A number with blanks before it, up to three places. -/
def ordinal (n : Nat) : String :=
  let s := toString n
  String.ofList (List.replicate (3 - s.length) ' ') ++ s

def orderLines (g : Graph) : List String :=
  let plan := g.plan
  let type (id : String) : String := ((g.node? id).map (·.type)).getD "?"
  (plan.order.zipIdx 1).map (fun (id, n) => s!"{ordinal n}. {id} ({type id})")
  ++ if plan.blocked.isEmpty then []
    else ("Blocked by cycles: " ++ ", ".intercalate plan.blocked)
      :: plan.cycles.map fun cycle => "   cycle: " ++ " -> ".intercalate cycle

def orderScript (file : String) : Script Unit := do
  let (canvas, _) ← loadCanvas file
  Script.sayAll (orderLines canvas.graph)

/-! Node types -/

def definitionLines (r : Registry) (d : Definition) : List String :=
  let targets := r.targets d.type
  [s!"  - {d.type} ({d.label})"]
  ++ (if d.description.isEmpty then [] else ["    " ++ d.description])
  ++ (if targets.isEmpty then [] else ["    connects to: " ++ ", ".intercalate targets])

def nodesLines (r : Registry) : List String :=
  "Available node types:" :: r.categories.flatMap fun category =>
    "" :: category :: (r.byCategory category).flatMap (definitionLines r)

/-! The example -/

/-- Put a node on a line with those before it. -/
def placeNode (stamp : String) (canvas : Canvas) (type : String) (x : Float) :
    Except WorkflowError (String × Canvas) := canvas.addNode (fun _ => stamp) type ⟨x, 100⟩

/-- A pipeline from a trigger over an agent and an approval to its output. -/
def example? (stamp : String) : Except WorkflowError Record := do
  let canvas : Canvas := { registry := Catalogue.registry }
  let (trigger, canvas) ← placeNode stamp canvas "trigger" 100
  let (agent, canvas) ← placeNode stamp canvas "agent" 300
  let canvas ← canvas.setConfig agent "agent_id" (.str "support-triage")
  let (approval, canvas) ← placeNode stamp canvas "hitl" 500
  let canvas ← canvas.setConfig approval "approvers" (.str "ops@example.com")
  let (last, canvas) ← placeNode stamp canvas "output" 700
  let (_, canvas) ← canvas.connect { source := trigger, target := agent }
  let (_, canvas) ← canvas.connect { source := agent, target := approval }
  let (_, canvas) ← canvas.connect { source := approval, target := last }
  return { canvas.toRecord "Example triage pipeline" with
    description := some "Triggers an agent and asks for approval before finishing" }

def initScript (session : Session) (output : String) : Script Unit := do
  let record ← Script.ofExcept Failure.ofWorkflow (example? session.stamp)
  Script.writeFile output record.toJson.pretty
  Script.sayAll [s!"Created example pipeline: {output}", "", "Run it with:",
    s!"  canvas run --file {output}"]

/-! The backend -/

/-- The name of the file for a record, the one at the given place of a list. -/
def fileName (r : Record) (index : Nat) : String :=
  let stem := r.id.getD s!"pipeline-{index}"
  stem.map (fun c => if c.isAlphanum || c == '-' || c == '_' then c else '_') ++ ".json"

def joined (dir name : String) : String := if dir.endsWith "/" then dir ++ name else dir ++ "/" ++ name

def pullScript (api dir : String) : Script Unit := do
  let records := listOrEmpty (← Script.call (Backend.list ⟨api⟩))
  Script.makeDirectories dir
  for (r, index) in records.zipIdx do
    let path := joined dir (fileName r index)
    Script.writeFile path r.toJson.pretty
    Script.say s!"  {r.name} -> {path}"
  Script.say s!"Pulled {records.length} pipeline(s)"

def pushScript (api file : String) : Script Unit := do
  let (canvas, record) ← loadCanvas file
  let saved ← Script.call (Backend.save ⟨api⟩ (record.setGraph canvas.graph))
  let saved ← Script.ofExcept Failure.ofStore saved
  Script.say <| match saved.id with
    | some id => s!"Saved pipeline {saved.name} ({id})"
    | none => s!"Saved pipeline {saved.name}"

/-- What a command does. The events of a run are printed one by one unless another pace is given. -/
def script (session : Session) (c : Command) (pace : Nat → Nat := fun _ => 1) : Script Unit :=
  match c with
  | .run request => runScript session request pace
  | .validate file => validateScript file
  | .order file => orderScript file
  | .nodes => Script.sayAll (nodesLines Catalogue.registry)
  | .init output => initScript session output
  | .pull api dir => pullScript api dir
  | .push api file => pushScript api file

end Command
end WorkflowCanvas
