import WorkflowCanvas.Proofs.CommandLine.Running
import WorkflowCanvas.Proofs.Record.Text
import WorkflowCanvas.Proofs.Json.Compact
import WorkflowCanvas.Proofs.Run.Clock

/-! The command `run` while its events are printed at any pace: which of them are printed, and which
may be lost. -/
namespace WorkflowCanvas

/-! ### The logs of runs -/

namespace Simulation
variable {sim : Simulation} {g : Graph} {r : Run}

theorem run_endsLast (hg : g.Linked) (h : sim.run g = .ok r) : EndsLast r.log := by
  obtain rfl := run_eq_follow h
  obtain ⟨steps, left, hlog⟩ := follow_logged sim hg
  rw [hlog.log, Graph.log]
  refine endsLast_concat (fun x hx => ?_) rfl
  simp only [List.mem_append, List.mem_singleton, List.mem_map, List.mem_flatMap] at hx
  obtain (((rfl | ⟨_, _, rfl⟩) | ⟨_, _, rfl⟩) | ⟨s, _, hx⟩) | ⟨_, _, rfl⟩ := hx
  · rfl
  · rfl
  · rfl
  · obtain ⟨_, rfl⟩ | rfl | ⟨_, _, rfl⟩ | ⟨_, rfl⟩ | ⟨_, rfl⟩ | ⟨_, rfl⟩ := StepLog.mem_block hx <;> rfl
  · rfl

/-- A run reports its start, its end, and something of every node. -/
theorem length_log (hg : g.Linked) (h : sim.run g = .ok r) : g.nodes.length + 2 ≤ r.log.length := by
  obtain rfl := run_eq_follow h
  obtain ⟨steps, left, hlog⟩ := follow_logged sim hg
  have hnodes : g.plan.order.length + g.plan.blocked.length = g.nodes.length := by
    simpa [Graph.nodeIds] using (Graph.plan_perm hg).length_eq
  simp only [hlog.log, Graph.log, List.length_append, List.length_map, List.length_singleton]
  omega

end Simulation

/-! ### The command at any pace -/

namespace RunRequest
open Script (onDisk Shows)
variable {d : Disk} {g : Graph} {q : RunRequest}

theorem bus_room (q : RunRequest) : q.bus.room = 1024 := by
  have hsettings : q.settings.eventRoom = 1000 := rfl
  have hpower : Bus.powerFrom 1000 = 1024 := by decide
  rw [bus, hsettings]
  exact hpower

/-- What the command prints where the first `k` events of the run are printed. -/
def told (record : Record) (g : Graph) (run : Run) (k : Nat) : List String :=
  headLines record g ++ (run.log.take k).filterMap Command.eventLine?
    ++ Command.summaryLines run.summary

/-- The task may print just the first events of a run, if more come than the bus has room for. -/
theorem reported_upTo {run : Run} (hend : EndsLast run.log) {k : Nat}
    (hk : k = run.log.length ∨ k + 1024 < run.log.length) :
    q.reported (Command.upTo k) run = (run.log.take k).filterMap Command.eventLine? := by
  have hbus : q.bus.Carries [] := Bus.withCapacity_carries _
  have hroom := q.bus_room
  have hsplit : run.log = [] ++ run.log := rfl
  have hreport := Command.report_upTo (p := ⟨q.bus.subscribe, false⟩) hend hbus hsplit (by omega)
    (hroom ▸ hk) (by simp [Bus.subscribe, hbus.sent]) (by simp)
  simpa [reported] using hreport

/-- At every pace the lines of the first events are printed: of all of them, or of some behind which more
come than the bus has room for. -/
theorem reported_iff {run : Run} (hend : EndsLast run.log) (lines : List String) :
    (∃ pace, q.reported pace run = lines) ↔
      ∃ k, (k = run.log.length ∨ k + 1024 < run.log.length) ∧
        (run.log.take k).filterMap Command.eventLine? = lines := by
  constructor
  · rintro ⟨pace, rfl⟩
    have hbus : q.bus.Carries [] := Bus.withCapacity_carries _
    have hsplit : run.log = [] ++ run.log := rfl
    have hpast : (⟨q.bus.subscribe, false⟩ : Command.Printer).Past q.bus.room run.log 0 :=
      ⟨fun _ => rfl, by simp⟩
    obtain ⟨k, hk, hlines⟩ := Command.report_take hend hbus hsplit hpast (Nat.le_refl 0) pace
    exact ⟨k, q.bus_room ▸ hk, by simpa [reported] using hlines.symm⟩
  · rintro ⟨k, hk, rfl⟩
    exact ⟨Command.upTo k, reported_upTo hend hk⟩

/-- A run that takes place reports at least two events more than there are nodes, and the end last. The
command may print the lines of all its events, and the lines of any first ones of them behind which more
than 1024 come; it prints nothing else between its heading and its summary. -/
theorem run_printed (server : Request → Reply) (session : Session) (h : q.Runs d g) :
    ∃ record input, ∃ run : Run, Command.Holds d q.file record g ∧
      Shows server d (Command.runInput q.input) [] (.ok input) ∧
      (q.simulation session input).run g = .ok run ∧
      g.nodes.length + 2 ≤ run.log.length ∧
      (∃ outcome : String, run.log.getLast?.bind Command.eventLine? =
        some s!"Run {outcome} after {run.summary.millis}ms") ∧
      ∀ lines, (∃ pace, (onDisk server d ((Command.run q).script session pace)).printed = lines) ↔
        ∃ k, (k = run.log.length ∨ k + 1024 < run.log.length) ∧ lines = told record g run k := by
  obtain ⟨record, hfile⟩ := h.file
  obtain ⟨input, hinput⟩ := Command.runInput_shows server (d := d) h.input
  have hrun : (q.simulation session input).run g =
      .ok ((q.simulation session input).follow g g.plan) := by
    rw [simulation_run, if_pos h.order]
  refine ⟨record, input, _, hfile, hinput, hrun, Simulation.length_log h.linked hrun, ?_, ?_⟩
  · rw [Simulation.log_getLast?]
    exact ⟨_, rfl⟩
  · intro lines
    have hprinted : ∀ pace, (onDisk server d ((Command.run q).script session pace)).printed =
        headLines record g ++ (q.reported pace _ ++ Command.summaryLines _) := fun pace =>
      congrArg Script.Outcome.printed (q.runScript_shows server hfile hinput hrun pace)
    have hreported := reported_iff (q := q) (Simulation.run_endsLast h.linked hrun)
    constructor
    · rintro ⟨pace, rfl⟩
      obtain ⟨k, hk, hlines⟩ := (hreported _).mp ⟨pace, rfl⟩
      exact ⟨k, hk, by rw [hprinted, ← hlines, told, List.append_assoc]⟩
    · rintro ⟨k, hk, rfl⟩
      obtain ⟨pace, hpace⟩ := (hreported _).mpr ⟨k, hk, rfl⟩
      exact ⟨pace, by rw [hprinted, hpace, told, List.append_assoc]⟩

/-- At some pace everything is printed of a run of four nodes. -/
theorem run_printed_row : ∃ g record run, (rowRequest ["b"]).Runs rowDisk g ∧
    6 ≤ run.log.length ∧
    ∃ pace, (onDisk (fun _ => .down) rowDisk
        ((Command.run (rowRequest ["b"])).script ⟨"", ⟨0⟩, fun _ => 0⟩ pace)).printed =
      told record g run run.log.length := by
  obtain ⟨g, horder, hblocked, hruns⟩ := runs_rowRequest
  obtain ⟨record, input, run, -, -, -, hlength, -, hprinted⟩ :=
    run_printed (fun _ => .down) ⟨"", ⟨0⟩, fun _ => 0⟩ (hruns ["b"])
  have hnodes : g.nodes.length = 4 := by
    have hperm := (Graph.plan_perm (hruns ["b"]).linked).length_eq
    simpa [horder, hblocked, Graph.nodeIds] using hperm.symm
  exact ⟨g, record, run, hruns _, by omega, (hprinted _).mpr ⟨_, .inl rfl, rfl⟩⟩

/-! ### A pipeline of loops -/

/-- Nodes each of which an edge leads back to. -/
def loops (n : Nat) : Graph where
  nodes := (List.range n).map fun i => .fresh i.repr "action"
  edges := (List.range n).map fun i => ⟨i.repr, i.repr, i.repr, none, none, false⟩

theorem nodeIds_loops (n : Nat) : (loops n).nodeIds = (List.range n).map Nat.repr := by
  simp [Graph.nodeIds, loops, Node.fresh, Function.comp_def]

theorem loops_wellFormed (n : Nat) : (loops n).WellFormed := by
  have hnodup : ((List.range n).map Nat.repr).Nodup :=
    List.Nodup.map (fun _ _ => Nat.repr_injective) List.nodup_range
  have hnodes : (loops n).nodes.map (·.id) = (List.range n).map Nat.repr := nodeIds_loops n
  have hedges : (loops n).edges.map (·.id) = (List.range n).map Nat.repr := by
    simp [loops, Function.comp_def]
  refine ⟨hnodes ▸ hnodup, hedges ▸ hnodup, fun e he => ?_, fun e he => ?_⟩ <;>
    obtain ⟨i, hi, rfl⟩ := List.mem_map.mp he <;> exact hnodes ▸ List.mem_map_of_mem hi

theorem loops_clear (n : Nat) : (loops n).clear = loops n := by
  simp only [Graph.clear, loops, List.map_map]
  rfl

def loopsRecord (n : Nat) : Record := .ofGraph "loops" (loops n)

def loopsDisk (n : Nat) : Disk where
  entries := [(["row.json"], .file (loopsRecord n).toJson.compact)]

theorem zero_legible : (Number.float 0).Legible := ⟨_, rfl, rfl⟩

theorem loopsRecord_legible (n : Nat) : (loopsRecord n).toJson.Legible Cursor.maxDepth := by
  have hplace : Position.origin.toJson.Legible 123 := by
    have hzero : Json.float 0 = .num (.float 0) := rfl
    simp [Position.toJson, Position.origin, hzero, Json.Legible.num zero_legible]
  simp [loopsRecord, Record.ofGraph, Record.setGraph, Graph.save, loops, Record.toJson,
    Metadata.toJson, Json.member?, Cursor.maxDepth, SavedNode.toJson, SavedNode.ofNode, Node.fresh,
    SavedData.toJson, SavedEdge.toJson, SavedEdge.ofEdge, Json.orNull, Json.Legible.null, hplace]

theorem holds_loops (n : Nat) :
    Command.Holds (loopsDisk n) "row.json" (loopsRecord n) (loops n) := by
  have htidy : (loopsRecord n).Tidy := ⟨KeyMap.beside_nil _, KeyMap.beside_nil _⟩
  have hplaced : ∀ x ∈ (loopsRecord n).metadata.nodes, x.position.Finite := by
    simp [loopsRecord, Record.ofGraph, Record.setGraph, Graph.save, loops, SavedNode.ofNode, Node.fresh,
      Position.finite_origin]
  have hsorted : (loopsRecord n).sorted = loopsRecord n := by
    have hnone : Json.sortedMembers [] = [] := rfl
    have hempty : KeyMap.ofEntries ([] : List (String × Json)) = [] := rfl
    simp [hnone, hempty, Record.sorted, Metadata.sorted, loopsRecord, Record.ofGraph, Record.setGraph,
      Graph.save, loops, SavedNode.sorted, SavedData.sorted, SavedNode.ofNode, Node.fresh]
  have hparse := Record.parse_compact htidy hplaced (loopsRecord_legible n)
  rw [hsorted] at hparse
  refine ⟨_, read_row _, hparse, ?_⟩
  have hload := Graph.load_save (loops_wellFormed n)
  rwa [loops_clear] at hload

theorem plan_loops (n : Nat) : (loops n).plan.order = [] ∧
    (loops n).plan.blocked = (List.range n).map Nat.repr := by
  have hg := (loops_wellFormed n).linked
  have horder : (loops n).plan.order = [] := by
    refine (Graph.plan_order_eq_nil_iff hg).mpr fun x hx => ?_
    obtain ⟨i, hi, rfl⟩ := List.mem_map.mp hx
    exact ⟨_, List.mem_map_of_mem hi, rfl⟩
  refine ⟨horder, ?_⟩
  rw [Graph.plan_blocked hg, horder, nodeIds_loops]
  simp

/-- A run of loops starts no node: it leaves all of them out and ends. -/
theorem log_loops {sim : Simulation} {n : Nat} {run : Run} (h : sim.run (loops n) = .ok run) :
    run.log = .runStarted []
      :: (List.range n).map (fun i => .nodeSkipped i.repr .idle "blocked by a cycle")
      ++ [.runCompleted run.summary.success run.summary.cancelled run.summary.millis] := by
  obtain rfl := Simulation.run_eq_follow h
  obtain ⟨steps, left, hlog⟩ := Simulation.follow_logged sim (loops_wellFormed n).linked
  obtain ⟨horder, hblocked⟩ := plan_loops n
  obtain ⟨hsteps, rfl⟩ : steps = [] ∧ left = [] := by
    simpa [horder] using hlog.order
  rw [hlog.log, Graph.log, horder, hblocked, hsteps]
  simp [Function.comp_def]

theorem length_summaryLines (s : Summary) : (Command.summaryLines s).length ≤ 6 := by
  have hnamed : ∀ name ids, (named name ids).length ≤ 1 := by
    intro name ids
    unfold named
    split <;> simp
  have hfailed := hnamed "Failed" s.failed
  have hskipped := hnamed "Skipped" s.skipped
  simp only [summaryLines_eq, List.length_append, List.length_cons, List.length_nil]
  omega

end RunRequest

/-- Whether an event says what becomes of a node, or how the run ends. -/
def Happening.isLandmark : Happening → Bool
  | .nodeStarted _ _ | .nodeCompleted _ _ _ | .nodeFailed _ _ | .nodeSkipped _ _ _
  | .runCompleted _ _ _ => true
  | _ => false

namespace RunRequest
open Script (onDisk Shows)

theorem length_headLines (record : Record) (g : Graph) : (headLines record g).length = 4 := rfl

/-- What stands in the file `row.json` is run. -/
def rowFile : RunRequest where
  file := "row.json"

theorem runs_loops (n : Nat) : rowFile.Runs (loopsDisk n) (loops n) :=
  ⟨⟨_, holds_loops n⟩, nofun, .inr rfl⟩

/-- A run of loops may be over before the task that prints its events takes a turn. If the bus has no
room for all of them, no line is printed, also where only the first event is lost. -/
theorem printed_loops {n : Nat} (hn : 1023 ≤ n) (server : Request → Reply) (session : Session) :
    ∃ run, (rowFile.simulation session (.obj [])).run (loops n) = .ok run ∧
      run.log = .runStarted []
        :: (List.range n).map (fun i => .nodeSkipped i.repr .idle "blocked by a cycle")
        ++ [.runCompleted run.summary.success run.summary.cancelled run.summary.millis] ∧
      (onDisk server (loopsDisk n) ((Command.run rowFile).script session (Command.upTo 0))).printed =
        headLines (loopsRecord n) (loops n) ++ Command.summaryLines run.summary := by
  have hrun : (rowFile.simulation session (.obj [])).run (loops n) =
      .ok ((rowFile.simulation session (.obj [])).follow (loops n) (loops n).plan) := by
    rw [simulation_run, if_pos (runs_loops n).order]
  have hlog := log_loops hrun
  have hlong : 0 + 1024 < ((rowFile.simulation session (.obj [])).follow (loops n)
      (loops n).plan).log.length := by
    rw [hlog]
    simp
    omega
  have hnothing : rowFile.reported (Command.upTo 0)
      ((rowFile.simulation session (.obj [])).follow (loops n) (loops n).plan) = [] :=
    reported_upTo (Simulation.run_endsLast (runs_loops n).linked hrun) (.inr hlong)
  have hprinted := congrArg Script.Outcome.printed
    (rowFile.runScript_shows server (holds_loops n) (.done _) hrun (Command.upTo 0))
  rw [hnothing] at hprinted
  exact ⟨_, hrun, hlog, hprinted⟩

/-- In a pipeline of so many nodes, the lines of what becomes of them and of the end of the run are not
printed at every pace, although the bus keeps all the events that the lines are of. -/
theorem not_printed_loops :
    let session : Session := ⟨"", ⟨0⟩, fun _ => 0⟩
    rowFile.Runs (loopsDisk 1023) (loops 1023) ∧
    ∃ run, (rowFile.simulation session (.obj [])).run (loops 1023) = .ok run ∧
      (rowFile.bus.sendAll run.log).kept.filter (·.isLandmark) = run.log.filter (·.isLandmark) ∧
      ¬ ∀ pace, ((run.log.filter (·.isLandmark)).filterMap Command.eventLine?).Sublist
        (onDisk (fun _ => .down) (loopsDisk 1023)
          ((Command.run rowFile).script session pace)).printed := by
  intro session
  obtain ⟨run, hrun, hlog, hprinted⟩ :=
    printed_loops (Nat.le_refl 1023) (fun _ => .down) session
  have hlength : run.log.length = 1025 := by simp [hlog]
  refine ⟨runs_loops 1023, run, hrun, ?_, fun hall => ?_⟩
  · have hkept : (rowFile.bus.sendAll run.log).kept = run.log.drop 1 := by
      have hcarries : (rowFile.bus.sendAll run.log).Carries ([] ++ run.log) :=
        (Bus.withCapacity_carries _).sendAll run.log
      rw [hcarries.kept, List.nil_append, hlength, Bus.sendAll_room, bus_room]
    rw [hkept, hlog, List.cons_append, List.drop_one, List.tail_cons]
    exact (List.filter_cons_of_neg (by simp [Happening.isLandmark])).symm
  · have hlandmarks :
        ((run.log.filter (·.isLandmark)).filterMap Command.eventLine?).length = 1024 := by
      rw [hlog]
      simp [Happening.isLandmark, Command.eventLine?, List.filter_map, Function.comp_def]
    have hle := (hall (Command.upTo 0)).length_le
    have hsummary := length_summaryLines run.summary
    rw [hprinted, hlandmarks, List.length_append, length_headLines] at hle
    omega

end RunRequest
end WorkflowCanvas
