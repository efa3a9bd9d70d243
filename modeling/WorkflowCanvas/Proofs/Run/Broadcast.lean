import WorkflowCanvas.Proofs.Event.Delivery
import WorkflowCanvas.Proofs.Run.Clock
import WorkflowCanvas.Proofs.Run.Dependence
import WorkflowCanvas.Run.Stage

/-! Runs before an audience are the runs of the graph alone, whatever the room of the bus and whoever
listens; one who listens only afterwards gets the newest events of the run. -/
namespace WorkflowCanvas

theorem Act.map_event_moments (execution : Uuid) (started : Timestamp) (g : Graph)
    (acts : List Act) :
    (Act.moments g acts).map (fun m => ⟨execution, started.addMillis m.time, m.happening⟩) =
      acts.map (·.event execution started) := by
  induction acts generalizing g with
  | nil => rfl
  | cons a acts ih => simp [Act.moments, Act.event, ih]

/-! ### Acts on a stage -/

namespace Stage
variable (execution : Uuid) (started : Timestamp) (turns : Nat → List Turn)

theorem play_append (s : Stage) (acts later : List Act) :
    s.play execution started turns (acts ++ later) =
      (s.play execution started turns acts).play execution started turns later :=
  List.foldl_append

theorem play_graph (s : Stage) (acts : List Act) :
    (s.play execution started turns acts).graph = Act.perform s.graph acts := by
  induction acts generalizing s with
  | nil => rfl
  | cons a acts ih => exact ih (s.act execution started turns a)

theorem play_log (s : Stage) (acts : List Act) :
    (s.play execution started turns acts).log =
      s.log ++ acts.map (·.event execution started) := by
  induction acts generalizing s with
  | nil => simp [play]
  | cons a acts ih => exact (ih (s.act execution started turns a)).trans (by simp [act])

/-- The audience takes nothing from the bus and puts nothing on it. -/
theorem play_bus (s : Stage) (acts : List Act) :
    (s.play execution started turns acts).bus =
      (acts.map (·.event execution started)).foldl Bus.send s.bus := by
  induction acts generalizing s with
  | nil => rfl
  | cons a acts ih => exact ih (s.act execution started turns a)

end Stage

/-! ### Runs on a stage -/

namespace Simulation
variable (sim : Simulation) (started : Timestamp) (turns : Nat → List Turn)

/-- The acts of a walk on a stage are those of the walk along the same nodes. -/
theorem walkOn_eq (ids : List String) (p : Progress) (stage : Stage)
    (hgraph : stage.graph = p.graph) : sim.walkOn started turns ids p stage =
      (sim.walk ids p, stage.play sim.execution started turns (sim.walk ids p).acts) := by
  fun_induction walk sim ids p generalizing stage with
  | case1 p => rfl
  | case2 id rest p hcancelled =>
    rw [walkOn, if_pos hcancelled]
    rfl
  | case3 id rest p hgoing a stop hstop =>
    have ha : sim.attempt { p with graph := stage.graph } id = a := by rw [hgraph]
    simp only [walkOn, if_neg hgoing, ha, hstop, ← Stage.play_append]
    simp [Course.acts]
  | case4 id rest p hgoing a hnone course ih =>
    have ha : sim.attempt { p with graph := stage.graph } id = a := by rw [hgraph]
    have hafter : (stage.play sim.execution started turns a.acts).graph = a.after.graph := by
      rw [Stage.play_graph, hgraph, ← attempt_graph]
    simp only [walkOn, if_neg hgoing, ha, hnone, ih _ hafter, ← Stage.play_append, acts_cons, course]

/-- A run on a stage is the run of its graph, with its acts played on the stage. -/
theorem runOn_eq (stage : Stage) : sim.runOn started turns stage =
    (sim.run stage.graph).map fun r => (r.summary,
      stage.play sim.execution started turns (sim.script stage.graph stage.graph.plan)) := by
  simp only [runOn, run]
  split
  · rfl
  · have hopened : (stage.play sim.execution started turns (opening stage.graph.plan)).graph =
        Act.perform stage.graph (opening stage.graph.plan) := Stage.play_graph _ _ _ _ _
    have hwalk := sim.walkOn_eq started turns stage.graph.plan.order
      { graph := Act.perform stage.graph (opening stage.graph.plan) } _ hopened
    simp only [hopened, hwalk, Except.map, follow, course, script, Stage.play_append]

/-- Runs do not depend on the room that the settings give to the bus. -/
theorem run_eventRoom (room : Nat) (g : Graph) :
    { sim with settings := { sim.settings with eventRoom := room } }.run g = sim.run g := by
  have hfollow : { sim with settings := { sim.settings with eventRoom := room } }.follow g g.plan =
      sim.follow g g.plan := follow_eq (fun _ _ _ => rfl) rfl rfl rfl
  rw [run_eq, run_eq, hfollow]

/-- What a run leaves on a stage: its events are its log, and the bus has carried them all. -/
theorem runOn_ok {bus : Bus Event} {earlier : List Event} (hbus : bus.Carries earlier)
    {audience : List Receiver} {summary : Summary} {stage : Stage}
    (h : sim.runOn started turns ⟨g, bus, audience, []⟩ = .ok (summary, stage)) :
    summary = (sim.follow g g.plan).summary ∧
    stage.log = (sim.follow g g.plan).events sim.execution started ∧
    stage.bus = bus.sendAll stage.log := by
  rw [runOn_eq] at h
  cases hrun : sim.run g with
  | error e => simp [hrun, Except.map] at h
  | ok r =>
    obtain ⟨rfl, rfl⟩ := Prod.mk.inj (Except.ok.inj ((congrArg _ hrun).symm.trans h))
    obtain rfl := run_eq_follow hrun
    have hlog : (Stage.play sim.execution started turns ⟨g, bus, audience, []⟩
        (sim.script g g.plan)).log = (sim.script g g.plan).map (·.event sim.execution started) :=
      Stage.play_log _ _ _ _ _
    refine ⟨rfl, ?_, ?_⟩
    · rw [hlog, Run.events, follow, Act.map_event_moments]
    · rw [hlog, Stage.play_bus, hbus.foldl_send]

/-- A run takes the same course whatever the room of the bus, the events that were sent on it before
and the turns of its audience. One who subscribes before the run and reads only after it is told how
many of its events the bus has no room for, if there are any, and then gets all others in order, up to
the end of the run. -/
theorem runOn_heard (sim : Simulation) (g : Graph) (started : Timestamp) (turns : Nat → List Turn)
    (capacity : Nat) (earlier : List Event) (audience : List Receiver) :
    let bus : Bus Event := (Bus.withCapacity capacity).sendAll earlier
    IsLeast {room | max capacity 1 ≤ room ∧ ∃ k, room = 2 ^ k} bus.room ∧
    (∀ room, { sim with settings := { sim.settings with eventRoom := room } }.run g = sim.run g) ∧
    (sim.runOn started turns ⟨g, bus, audience, []⟩).map (fun x => (x.1, x.2.graph, x.2.log)) =
      (sim.run g).map (fun r => (r.summary, r.graph, r.events sim.execution started)) ∧
    ∀ summary stage, sim.runOn started turns ⟨g, bus, audience, []⟩ = .ok (summary, stage) →
      let lost := stage.log.length - bus.room
      (∀ received last, stage.bus.Reads bus.subscribe received last ↔
        received = (if 0 < lost then [.lagged lost] else []) ++ (stage.log.drop lost).map .message ∧
        last = stage.bus.subscribe) ∧
      (stage.log.drop lost).getLast?.map (·.happening) =
        some (.runCompleted summary.success summary.cancelled summary.millis) := by
  intro bus
  have hbus : bus.Carries earlier := (Bus.withCapacity_carries capacity).sendAll earlier
  refine ⟨Bus.withCapacity_room (α := Event) capacity, fun room => sim.run_eventRoom room g, ?_, ?_⟩
  · rw [runOn_eq, run_eq]
    split
    · simp [Except.map, Stage.play_graph, Stage.play_log, follow, Run.events, Act.map_event_moments]
    · rfl
  · intro summary stage hrun lost
    obtain ⟨rfl, hlog, hsent⟩ := sim.runOn_ok started turns hbus hrun
    refine ⟨fun received last => ?_, ?_⟩
    · rw [hsent]
      exact hbus.reads_sendAll stage.log
    · have hlast : stage.log.getLast?.map (·.happening) =
          (sim.follow g g.plan).log.getLast? := by
        rw [hlog, ← List.getLast?_map]
        simp [Run.events, Run.log, Function.comp_def]
      have hlength : 0 < stage.log.length := by
        refine List.length_pos_of_ne_nil fun hnil => ?_
        rw [hnil, log_getLast?] at hlast
        cases hlast
      have hroom : 0 < bus.room := Bus.powerFrom_pos capacity
      rw [List.getLast?_drop, if_neg (by omega), hlast, log_getLast?]

/-- A bus that is given no room keeps only the end of a run, here of one in which a node fails while
others listen. -/
theorem runOn_heard_row :
    let earlier : List Event := [⟨⟨7⟩, ⟨0, 0⟩, .runCompleted true false 0⟩]
    let bus : Bus Event := (Bus.withCapacity 0).sendAll earlier
    ∃ summary stage last, (rowRun .stop).runOn ⟨0, 0⟩ (fun _ => [.join, .read 0, .leave 1])
        ⟨row, bus, [⟨0⟩], []⟩ = .ok (summary, stage) ∧
      summary.failed = ["second"] ∧
      stage.bus.Reads bus.subscribe [.lagged 18, .message last] ⟨20⟩ ∧
      last.happening = .runCompleted false false 0 := by
  intro earlier bus
  obtain ⟨-, -, hsame, hheard⟩ := runOn_heard (rowRun .stop) row ⟨0, 0⟩
    (fun _ => [.join, .read 0, .leave 1]) 0 earlier [⟨0⟩]
  rw [run_of_skip rfl] at hsame
  obtain ⟨⟨summary, stage⟩, hrun, hleft⟩ := map_eq_ok.mp hsame
  obtain ⟨rfl, hgraph, hlog⟩ : summary = ((rowRun .stop).follow row row.plan).summary ∧
      stage.graph = _ ∧ stage.log = _ := by simpa using hleft
  have hlength : stage.log.length = 19 := by
    rw [hlog, Run.events, List.length_map]
    decide
  have hroom : bus.room = 1 := rfl
  obtain ⟨hreads, hlast⟩ := hheard _ stage hrun
  rw [hlength, hroom] at hreads hlast
  obtain ⟨last, hdrop⟩ := List.length_eq_one_iff.mp
    (show (stage.log.drop 18).length = 1 by rw [List.length_drop, hlength])
  rw [hdrop] at hreads hlast
  have hsent : stage.bus.subscribe = ⟨20⟩ := by
    obtain ⟨-, -, hbus⟩ := runOn_ok _ _ _ ((Bus.withCapacity_carries 0).sendAll earlier) hrun
    rw [hbus, Bus.subscribe, Bus.sendAll, hlength]
    rfl
  refine ⟨_, stage, last, hrun, by decide, (hreads _ _).mpr ⟨rfl, hsent.symm⟩, ?_⟩
  exact Option.some.inj hlast

end Simulation
end WorkflowCanvas
