import WorkflowCanvas.Proofs.CommandLine.Printing
import WorkflowCanvas.Proofs.Graph.Saving
import WorkflowCanvas.Proofs.Run.Calm
import WorkflowCanvas.Proofs.Run.Dependence
import WorkflowCanvas.Proofs.Run.Log

/-! What the command `run` prints, and the code that it ends with, by the pipeline file and by what is
asked for. -/
namespace WorkflowCanvas
open Script

variable (server : Request → Reply) {d : Disk} {session : Session} {record : Record} {g : Graph}
  {q : RunRequest} {input : Json}

/-! ### Loading -/

namespace Command

variable {path : String} (settings : CanvasSettings)

def blank (settings : CanvasSettings) : Canvas := { registry := Catalogue.registry, settings }

/-- A pipeline file holds a graph. -/
def Holds (d : Disk) (path : String) (record : Record) (g : Graph) : Prop :=
  ∃ text, d.read path = .ok text ∧ Record.parse text = .ok record ∧ record.graph = .ok g

theorem readRecord_shows {text : String} (hread : d.read path = .ok text)
    (hparse : Record.parse text = .ok record) :
    Shows server d (readRecord path) [] (.ok record) :=
  (Shows.readFile_ok hread).silent (.ofExcept_ok hparse)

theorem loadCanvas_shows (h : Holds d path record g) :
    Shows server d (loadCanvas path settings) [] (.ok ((blank settings).load g, record)) := by
  obtain ⟨text, hread, hparse, hgraph⟩ := h
  have hload : (blank settings).loadRecord record = .ok ((blank settings).load g) := by
    rw [Canvas.loadRecord, hgraph]
    rfl
  exact (readRecord_shows server hread hparse).silent ((Shows.ofExcept_ok hload).silent (.done _))

theorem loadCanvas_fails (h : ∀ record g, ¬Holds d path record g) :
    ∃ e, Shows server d (loadCanvas path settings) [] (.error e) := by
  cases hread : d.read path with
  | error e => exact ⟨_, (Shows.readFile_error hread).bind_error.bind_error⟩
  | ok text =>
  cases hparse : Record.parse text with
  | error e => exact ⟨_, ((Shows.readFile_ok hread).silent (.ofExcept_error hparse)).bind_error⟩
  | ok record =>
  cases hgraph : record.graph with
  | ok g => exact absurd ⟨text, hread, hparse, hgraph⟩ (h record g)
  | error e =>
    have hload : (blank settings).loadRecord record = .error e := by
      rw [Canvas.loadRecord, hgraph]
      rfl
    exact ⟨_, (readRecord_shows server hread hparse).silent (Shows.ofExcept_error hload).bind_error⟩

theorem runInput_shows {given : Option String}
    (h : ∀ raw ∈ given, ∃ input, Json.parse raw = .ok input ∧ input.isObject = true) :
    ∃ input, Shows server d (runInput given) [] (.ok input) := by
  cases given with
  | none => exact ⟨_, .done _⟩
  | some raw =>
    obtain ⟨input, hparse, hobject⟩ := h raw rfl
    refine ⟨input, (Shows.ofExcept_ok hparse).silent ?_⟩
    rw [if_pos hobject]
    exact .done input

theorem runInput_fails {given : Option String}
    (h : ¬∀ raw ∈ given, ∃ input, Json.parse raw = .ok input ∧ input.isObject = true) :
    ∃ e, Shows server d (runInput given) [] (.error e) := by
  cases given with
  | none => exact absurd nofun h
  | some raw =>
    cases hparse : Json.parse raw with
    | error e => exact ⟨_, (Shows.ofExcept_error hparse).bind_error⟩
    | ok input =>
      have hobject : ¬input.isObject = true := by
        intro hobject
        refine h fun other hother => ?_
        obtain rfl := Option.some.inj hother
        exact ⟨input, hparse, hobject⟩
      refine ⟨⟨"Input must be a JSON object", []⟩, (Shows.ofExcept_ok hparse).silent ?_⟩
      rw [if_neg hobject]
      exact .fail _

end Command

/-! ### Runs that are asked for -/

namespace RunRequest
variable (q : RunRequest)

def settings : RunSettings where
  minDelay := q.minDelay
  maxDelay := q.maxDelay
  onError := if q.continueOnError then .carryOn else .stop
  onCycle := if q.strict then .reject else .skip

/-- The mock executor that fails at the nodes that are asked for. -/
def mock : Mock := { Mock.between q.minDelay q.maxDelay with failingNodes := q.failing }

def simulation (session : Session) (input : Json) : Simulation where
  registry := Catalogue.registry
  executor := q.mock.execute
  settings := q.settings
  input := input
  chance := session.chance
  execution := session.execution

theorem foldl_failNode (ids : List String) (m : Mock) :
    ids.foldl Mock.failNode m = { m with failingNodes := m.failingNodes ++ ids } := by
  induction ids generalizing m with
  | nil => simp
  | cons id ids ih => simp [ih, Mock.failNode]

theorem simulation_calm (session : Session) (input : Json) :
    (q.simulation session input).Calm (q.failing.contains ·) :=
  .of_mock (m := q.mock) rfl rfl rfl rfl

/-- The line of a summary for some nodes, unless there are none. -/
def named (name : String) (ids : List String) : List String :=
  if ids = [] then [] else ["   " ++ name ++ ": " ++ ", ".intercalate ids]

theorem summaryLines_eq (s : Summary) : Command.summaryLines s =
    ["", "Summary:", "   Execution ID: " ++ s.execution.text,
      "   Executed: " ++ ", ".intercalate s.executed]
    ++ named "Failed" s.failed ++ named "Skipped" s.skipped := by
  have hnamed : ∀ name ids, (if ids.isEmpty then []
      else [s!"   {name}: " ++ ", ".intercalate ids]) = named name ids := by
    intro name ids
    simp only [named, List.isEmpty_iff]
    rfl
  simp only [Command.summaryLines, hnamed]
  rfl

theorem scriptSimulation_eq (session : Session) (input : Json) (g : Graph) :
    let canvas := (Command.blank { run := q.settings }).load g
    { canvas.simulation (q.failing.foldl Mock.failNode canvas.mock).execute input with
      chance := session.chance, execution := session.execution } = q.simulation session input := by
  simp only [foldl_failNode]
  rfl

/-- The bus that the events of the command are sent on. -/
def bus : Bus Happening := Bus.withCapacity q.settings.eventRoom

/-- What the task that prints the events of a run prints of them at the given pace. -/
def reported (pace : Nat → Nat) (run : Run) : List String :=
  Command.report pace q.bus ⟨q.bus.subscribe, false⟩ run.log

def headLines (record : Record) (g : Graph) : List String :=
  [s!"Pipeline: {record.name}", s!"   Nodes: {g.nodes.length}", s!"   Edges: {g.edges.length}", ""]

/-- What the script of a request prints once a run has taken place, and its result. -/
theorem runScript_shows (hfile : Command.Holds d q.file record g)
    (hinput : Shows server d (Command.runInput q.input) [] (.ok input))
    {run : Run} (hrun : (q.simulation session input).run g = .ok run) (pace : Nat → Nat) :
    Shows server d (Command.runScript session q pace)
      (headLines record g ++ (q.reported pace run ++ Command.summaryLines run.summary))
      (if run.summary.success then .ok ()
        else .error ⟨"run did not complete successfully", []⟩) := by
  have hload := Command.loadCanvas_shows server { run := q.settings } hfile
  have hfollow := Command.follow_shows server (d := d) pace 0 q.bus ⟨q.bus.subscribe, false⟩
    run.moments
  rw [← q.scriptSimulation_eq session input g] at hrun
  refine hload.silent ((Shows.sayAll _).bind (hinput.silent
    ((Shows.ofExcept_ok hrun).silent (hfollow.bind ((Shows.sayAll _).last ?_)))))
  split <;> rfl

theorem runScript_refused (hfile : Command.Holds d q.file record g)
    (hinput : Shows server d (Command.runInput q.input) [] (.ok input)) {e : WorkflowError}
    (hrun : (q.simulation session input).run g = .error e) (pace : Nat → Nat) :
    ∃ lines e, Shows server d (Command.runScript session q pace) lines (.error e) := by
  have hload := Command.loadCanvas_shows server { run := q.settings } hfile
  rw [← q.scriptSimulation_eq session input g] at hrun
  exact ⟨_, _, hload.silent ((Shows.sayAll _).bind (hinput.silent
    (Shows.ofExcept_error hrun).bind_error))⟩

/-! ### What becomes of the nodes -/

/-- A run takes place on a graph: the file holds the graph, the input, if any, is a JSON object, and
no cycle holds a node back unless that is put up with. -/
structure Runs (q : RunRequest) (d : Disk) (g : Graph) : Prop where
  file : ∃ record, Command.Holds d q.file record g
  input : ∀ raw ∈ q.input, ∃ input, Json.parse raw = .ok input ∧ input.isObject = true
  order : g.plan.blocked = [] ∨ q.strict = false

theorem Runs.linked {q : RunRequest} (h : q.Runs d g) : g.Linked := by
  obtain ⟨record, text, -, -, hgraph⟩ := h.file
  exact (Graph.load_ok hgraph).2.linked

theorem Runs.unique {q : RunRequest} {g' : Graph} (h : q.Runs d g) (h' : q.Runs d g') : g = g' := by
  obtain ⟨record, text, hread, hparse, hgraph⟩ := h.file
  obtain ⟨record', text', hread', hparse', hgraph'⟩ := h'.file
  obtain rfl := Except.ok.inj (hread.symm.trans hread')
  obtain rfl := Except.ok.inj (hparse.symm.trans hparse')
  exact Except.ok.inj (hgraph.symm.trans hgraph')

/-- The nodes of an order that are executed: those that do not fail, up to the first that does unless
the run carries on. -/
def executed (order : List String) : List String :=
  if q.continueOnError then order.filter (· ∉ q.failing) else order.takeWhile (· ∉ q.failing)

def failed (order : List String) : List String :=
  if q.continueOnError then order.filter (· ∈ q.failing)
  else (order.find? (· ∈ q.failing)).toList

/-- What stands behind the first node that fails, unless the run carries on. -/
def unreached (order : List String) : List String :=
  if q.continueOnError then [] else (order.dropWhile (· ∉ q.failing)).tail

variable {q}

theorem follow_summary (q : RunRequest) (hg : g.Linked) (session : Session) (input : Json) :
    let s := ((q.simulation session input).follow g g.plan).summary
    s.executed = q.executed g.plan.order ∧ s.failed = q.failed g.plan.order ∧
    s.skipped = g.plan.blocked ++ q.unreached g.plan.order ∧ s.execution = session.execution := by
  have hcalm := q.simulation_calm session input
  have hexecution : ((q.simulation session input).follow g g.plan).summary.execution =
      session.execution := Simulation.walk_execution _ _ _
  have honError : (q.simulation session input).settings.onError =
      if q.continueOnError then .carryOn else .stop := rfl
  cases hcontinue : q.continueOnError with
  | true =>
    rw [hcontinue] at honError
    obtain ⟨hexecuted, hfailed, hskipped⟩ := Simulation.follow_carryOn hcalm hg honError
    refine ⟨hexecuted.trans ?_, hfailed.trans ?_, hskipped.trans ?_, hexecution⟩ <;>
      simp [executed, failed, unreached, hcontinue]
  | false =>
    rw [hcontinue] at honError
    obtain ⟨hexecuted, hfailed, hskipped⟩ := Simulation.follow_stop hcalm hg honError
    refine ⟨hexecuted.trans ?_, hfailed.trans ?_, hskipped.trans ?_, hexecution⟩ <;>
      simp [executed, failed, unreached, hcontinue]

theorem follow_failing {failing : List String}
    (h : ∀ id ∈ g.plan.order, id ∈ failing ↔ id ∈ q.failing) (session : Session) (input : Json) :
    ({ q with failing }.simulation session input).follow g g.plan =
      (q.simulation session input).follow g g.plan := by
  refine Simulation.follow_eq (fun id hid p => ?_) rfl rfl rfl
  refine (q.simulation session input).attempt_executor (fun told htold => ?_) p
  have hfails : { q with failing }.mock.fails told = q.mock.fails told := by
    simp [Mock.fails, mock, Mock.between, htold, h id hid]
  have hdelay : { q with failing }.mock.delay told.chance = q.mock.delay told.chance := rfl
  have hexecutor : (q.simulation session input).executor = q.mock.execute := rfl
  rw [hexecutor, Mock.execute, Mock.execute, hfails, hdelay]

theorem simulation_run (session : Session) (input : Json) (g : Graph) :
    (q.simulation session input).run g = if g.plan.blocked = [] ∨ q.strict = false
      then .ok ((q.simulation session input).follow g g.plan)
      else .error (.cyclicDependency g.plan.blocked) := by
  have honCycle : (q.simulation session input).settings.onCycle = .skip ↔ q.strict = false := by
    cases hstrict : q.strict <;> simp [simulation, settings, hstrict]
  rw [Simulation.run_eq]
  simp only [honCycle]

/-! ### The command -/

/-- What is left when the command has been carried out in memory. -/
def outcome (server : Request → Reply) (d : Disk) (session : Session) (q : RunRequest) :
    Outcome Unit := onDisk server d ((Command.run q).script session)

/-- Where no run takes place, the command fails. -/
theorem outcome_fails (session : Session) (h : ∀ g, ¬q.Runs d g) :
    ∃ e, (outcome server d session q).result = .error e := by
  suffices hfails : ∃ lines e, Shows server d (Command.runScript session q) lines (.error e) by
    obtain ⟨lines, e, hshows⟩ := hfails
    exact ⟨e, congrArg Outcome.result hshows⟩
  -- Loading, the input and the run are tried in this order, and the script goes no further than the
  -- first of them that fails.
  by_cases hfile : ∃ record g, Command.Holds d q.file record g
  swap
  · obtain ⟨e, hload⟩ := Command.loadCanvas_fails server { run := q.settings }
      fun record g hg => hfile ⟨record, g, hg⟩
    exact ⟨_, e, hload.bind_error⟩
  obtain ⟨record, g, hfile⟩ := hfile
  by_cases hinput : ∀ raw ∈ q.input, ∃ input, Json.parse raw = .ok input ∧ input.isObject = true
  · obtain ⟨input, hshows⟩ := Command.runInput_shows server (d := d) hinput
    have horder : ¬(g.plan.blocked = [] ∨ q.strict = false) :=
      fun horder => h g ⟨⟨record, hfile⟩, hinput, horder⟩
    exact q.runScript_refused server hfile hshows (by rw [simulation_run, if_neg horder]) _
  · obtain ⟨e, hshows⟩ := Command.runInput_fails server (d := d) hinput
    have hload := Command.loadCanvas_shows server { run := q.settings } hfile
    exact ⟨_, e, hload.silent ((Shows.sayAll _).bind hshows.bind_error)⟩

/-- Where a run takes place, the command prints its summary last, and its result is that of the run. -/
theorem Runs.outcome_eq (session : Session) (h : q.Runs d g) : ∃ before input,
    outcome server d session q =
      ⟨d, before ++ Command.summaryLines ((q.simulation session input).follow g g.plan).summary,
        if ((q.simulation session input).follow g g.plan).summary.success then .ok ()
        else .error ⟨"run did not complete successfully", []⟩⟩ ∧
    ∀ failing, (∀ id ∈ g.plan.order, id ∈ failing ↔ id ∈ q.failing) →
      outcome server d session { q with failing } = outcome server d session q := by
  obtain ⟨record, hfile⟩ := h.file
  obtain ⟨input, hinput⟩ := Command.runInput_shows server (d := d) h.input
  have hrun : (q.simulation session input).run g =
      .ok ((q.simulation session input).follow g g.plan) := by
    rw [simulation_run, if_pos h.order]
  have hshows := q.runScript_shows server hfile hinput hrun fun _ => 1
  rw [← List.append_assoc] at hshows
  refine ⟨_, input, hshows, fun failing hfailing => ?_⟩
  have hrun' : ({ q with failing }.simulation session input).run g =
      .ok ((q.simulation session input).follow g g.plan) := by
    rw [simulation_run, if_pos h.order, follow_failing hfailing]
  have hshows' := { q with failing }.runScript_shows server hfile hinput hrun' fun _ => 1
  rw [← List.append_assoc] at hshows'
  exact hshows'.trans hshows.symm

theorem Runs.result_eq_ok_iff (session : Session) (h : q.Runs d g) :
    (outcome server d session q).result = .ok () ↔ ∀ id ∈ q.failing, id ∉ g.plan.order := by
  obtain ⟨before, input, houtcome, -⟩ := h.outcome_eq server session
  have hsuccess := Simulation.follow_success_iff (q.simulation_calm session input) h.linked
  have hresult : (outcome server d session q).result = .ok () ↔
      ((q.simulation session input).follow g g.plan).summary.success = true := by
    rw [houtcome]
    split <;> simp_all
  rw [hresult, hsuccess]
  simp only [List.contains_eq_mem, decide_eq_false_iff_not]
  exact ⟨fun h id hid horder => h id horder hid, fun h id horder hid => h id hid horder⟩

/-- The command ends with 0 if a run takes place and no node of the order is asked to fail, and with 1
otherwise. Where a run takes place, the last lines list the nodes that it executed, those that failed,
and those that it left out. To ask for failures of other nodes has no effect. -/
theorem run_exit (server : Request → Reply) (d : Disk) (session : Session) (q : RunRequest) :
    (exitCode (outcome server d session q).result = 0 ↔
      ∃ g, q.Runs d g ∧ ∀ id ∈ q.failing, id ∉ g.plan.order) ∧
    (exitCode (outcome server d session q).result ≠ 0 →
      exitCode (outcome server d session q).result = 1) ∧
    ∀ g, q.Runs d g →
      (∃ before, (outcome server d session q).printed = before ++
        ["", "Summary:", "   Execution ID: " ++ session.execution.text,
          "   Executed: " ++ ", ".intercalate (q.executed g.plan.order)]
        ++ named "Failed" (q.failed g.plan.order)
        ++ named "Skipped" (g.plan.blocked ++ q.unreached g.plan.order)) ∧
      ∀ failing, (∀ id ∈ g.plan.order, id ∈ failing ↔ id ∈ q.failing) →
        outcome server d session { q with failing } = outcome server d session q := by
  refine ⟨?_, exitCode_eq_one, fun g h => ?_⟩
  · rw [exitCode_eq_zero_iff]
    constructor
    · intro hok
      by_contra hnone
      obtain ⟨e, herror⟩ := outcome_fails server session fun g h =>
        hnone ⟨g, h, (h.result_eq_ok_iff server session).mp hok⟩
      rw [herror] at hok
      cases hok
    · rintro ⟨g, h, hfailing⟩
      exact (h.result_eq_ok_iff server session).mpr hfailing
  · obtain ⟨before, input, houtcome, hfailing⟩ := h.outcome_eq server session
    obtain ⟨hexecuted, hfailed, hskipped, hexecution⟩ := q.follow_summary h.linked session input
    refine ⟨⟨before, ?_⟩, hfailing⟩
    simp only [houtcome, summaryLines_eq, hexecuted, hfailed, hskipped, hexecution,
      List.append_assoc]

/-- A pipeline file with three nodes in a row, and one that an edge leads back to. -/
def rowText : String :=
  "\x7b\"name\":\"row\",\"metadata\":\x7b\"rf_nodes\":[[\"d\",\"\",[0,0],[\"\"]],[\"a\",\"\",[0,0],[\"\"]],"
  ++ "[\"b\",\"\",[0,0],[\"\"]],[\"c\",\"\",[0,0],[\"\"]]],"
  ++ "\"rf_edges\":[[\"\",\"a\",\"b\"],[\"x\",\"b\",\"c\"],[\"y\",\"d\",\"d\"]]\x7d\x7d"

def rowDisk : Disk where
  entries := [(["row.json"], .file rowText)]

def rowRequest (failing : List String) : RunRequest where
  file := "row.json"
  input := some "\x7b\x7d"
  failing := failing

theorem ok_of_toOption {ε α : Type} {x : Except ε α} {a : α} (h : x.toOption = some a) :
    x = .ok a := by
  cases x with
  | error e => cases h
  | ok b => exact congrArg Except.ok (Option.some.inj h)

theorem names_eq (path : String) : Disk.names path =
    ((path.toList.splitOn '/').map String.ofList).filter (· ≠ "") := by
  rw [Disk.names, String.toList_split_char]

theorem read_row (text : String) :
    ({ entries := [(["row.json"], .file text)] } : Disk).read "row.json" = .ok text := by
  have hnames : Disk.names "row.json" = ["row.json"] := by
    rw [names_eq]
    decide
  have hstart : "row.json".startsWith "/" = false := by decide +kernel
  have hend : "row.json".endsWith "/" = false := by decide +kernel
  have hlocate : ({ entries := [(["row.json"], .file text)] } : Disk).locate "row.json" =
      .ok ["row.json"] := by
    simp only [Disk.locate, hnames, Disk.start, hstart]
    rfl
  simp only [Disk.read, hlocate]
  rw [hend]
  rfl

theorem rowDisk_read : rowDisk.read "row.json" = .ok rowText := read_row rowText

theorem runs_rowRequest : ∃ g, g.plan.order = ["a", "b", "c"] ∧ g.plan.blocked = ["d"] ∧
    ∀ failing, (rowRequest failing).Runs rowDisk g := by
  have hplan : ((Record.parse rowText).toOption.bind fun record => record.graph.toOption.map
      fun g => (g.plan.order, g.plan.blocked)) = some (["a", "b", "c"], ["d"]) := by
    decide +kernel
  obtain ⟨record, hrecord, hplan⟩ := Option.bind_eq_some_iff.mp hplan
  obtain ⟨g, hgraph, hplan⟩ := Option.map_eq_some_iff.mp hplan
  obtain ⟨horder, hblocked⟩ := Prod.mk.inj hplan
  have hfile : Command.Holds rowDisk "row.json" record g :=
    ⟨rowText, rowDisk_read, ok_of_toOption hrecord, ok_of_toOption hgraph⟩
  refine ⟨g, horder, hblocked, fun failing => ⟨⟨record, hfile⟩, fun raw hraw => ?_, .inr rfl⟩⟩
  obtain rfl := Option.some.inj hraw
  exact ⟨.obj [], rfl, rfl⟩

theorem run_exit_row :
    let outcome := outcome (fun _ => .down) rowDisk ⟨"", ⟨0⟩, fun _ => 0⟩
    exitCode (outcome (rowRequest ["d", "x"])).result = 0 ∧
    exitCode (outcome (rowRequest ["d", "b"])).result = 1 ∧
    (∃ before, (outcome (rowRequest ["d", "b"])).printed = before ++
      ["", "Summary:", "   Execution ID: " ++ Uuid.text ⟨0⟩, "   Executed: a", "   Failed: b",
        "   Skipped: d, c"]) ∧
    outcome (rowRequest ["b"]) = outcome (rowRequest ["d", "b"]) := by
  obtain ⟨g, horder, hblocked, hruns⟩ := runs_rowRequest
  obtain ⟨hfree, -, -⟩ := run_exit (fun _ => .down) rowDisk ⟨"", ⟨0⟩, fun _ => 0⟩
    (rowRequest ["d", "x"])
  obtain ⟨hzero, hone, hlines⟩ := run_exit (fun _ => .down) rowDisk ⟨"", ⟨0⟩, fun _ => 0⟩
    (rowRequest ["d", "b"])
  obtain ⟨⟨before, hprinted⟩, hsame⟩ := hlines g (hruns _)
  refine ⟨hfree.mpr ⟨g, hruns _, ?_⟩, hone fun h => ?_, ⟨before, ?_⟩, hsame ["b"] ?_⟩
  · rw [horder]
    decide
  · obtain ⟨g', hruns', hnone⟩ := hzero.mp h
    rw [hruns'.unique (hruns _), horder] at hnone
    exact absurd hnone (by decide)
  · rw [hprinted, horder, hblocked, List.append_assoc, List.append_assoc]
    rfl
  · rw [horder]
    decide

end RunRequest
end WorkflowCanvas
