import WorkflowCanvas.Proofs.Order.Release
import WorkflowCanvas.Proofs.Run.Calm
import WorkflowCanvas.Proofs.Run.Dependence
import WorkflowCanvas.Proofs.Run.Log
import WorkflowCanvas.Proofs.Validation.Graph

/-! Whoever asks for the cycles of a graph gets the same answer: its strict order, a run that refuses
cycles, validation, and the log of a run that leaves out what a cycle holds back. -/
namespace WorkflowCanvas

/-- The node that a report says is left out for the given reason. -/
def Happening.skipped? (reason : String) : Happening → Option String
  | .nodeSkipped node _ given => if given = reason then some node else none
  | _ => none

/-- The nodes that a log says are left out for the given reason, in order. -/
def skippedFor (reason : String) (log : List Happening) : List String :=
  log.filterMap (·.skipped? reason)

theorem skippedFor_append (reason : String) (log later : List Happening) :
    skippedFor reason (log ++ later) = skippedFor reason log ++ skippedFor reason later :=
  List.filterMap_append

theorem skippedFor_silent {reason : String} {log : List Happening}
    (h : ∀ x ∈ log, x.skipped? reason = none) : skippedFor reason log = [] :=
  List.filterMap_eq_nil_iff.mpr h

theorem skippedFor_skips (reason given : String) (ids : List String) :
    skippedFor reason (ids.map (Happening.nodeSkipped · .idle given)) =
      if given = reason then ids else [] := by
  by_cases h : given = reason <;>
    simp [skippedFor, List.filterMap_map, Happening.skipped?, h]

theorem StepLog.skippedFor_block (reason : String) (g : Graph) (s : StepLog) :
    skippedFor reason (s.block g) = [] := by
  refine skippedFor_silent fun x hx => ?_
  obtain ⟨_, rfl⟩ | rfl | ⟨_, _, rfl⟩ | ⟨_, rfl⟩ | ⟨_, rfl⟩ | ⟨_, rfl⟩ := mem_block hx <;> rfl

/-- A log leaves out the blocked nodes for one reason, and those behind the end of the run for
another. -/
theorem Graph.skippedFor_log (g : Graph) (steps : List StepLog) (left : List String) (s : Summary)
    (reason : String) : skippedFor reason (g.log steps left s) =
      (if "blocked by a cycle" = reason then g.plan.blocked else [])
      ++ if s.reason = reason then left else [] := by
  have hqueued : skippedFor reason (g.plan.order.map (Happening.nodeStatus · .queued)) = [] := by
    refine skippedFor_silent fun x hx => ?_
    obtain ⟨id, -, rfl⟩ := List.mem_map.mp hx
    rfl
  have hsteps : skippedFor reason (steps.flatMap (·.block g)) = [] := by
    refine skippedFor_silent fun x hx => ?_
    obtain ⟨step, -, hstep⟩ := List.mem_flatMap.mp hx
    exact List.filterMap_eq_nil_iff.mp (step.skippedFor_block reason g) x hstep
  have hstart : skippedFor reason [Happening.runStarted g.plan.order] = [] := rfl
  have hend : skippedFor reason [Happening.runCompleted s.success s.cancelled s.millis] = [] := rfl
  simp only [Graph.log, skippedFor_append, skippedFor_skips, hqueued, hsteps, hstart, hend,
    List.append_nil, List.nil_append]

theorem Summary.reason_ne (s : Summary) : s.reason ≠ "blocked by a cycle" := by
  unfold reason
  split <;> decide

/-! ### The answers -/

/-- The simulation with the given rule for cycles. -/
def Simulation.onCycle (sim : Simulation) (policy : CyclePolicy) : Simulation :=
  { sim with settings := { sim.settings with onCycle := policy } }

section Answers
variable {g : Graph} {ids : List String}

/-- What refuses blocked nodes names all of them, and there are some. -/
theorem refused_iff {α : Type} {blocked : List String} {a : α} :
    (if blocked = [] then .ok a else .error (.cyclicDependency blocked) : Except WorkflowError α) =
      .error (.cyclicDependency ids) ↔ ids ≠ [] ∧ blocked = ids := by
  split
  · next h =>
    rw [h]
    exact iff_of_false (by simp) fun hids => hids.1 hids.2.symm
  · next h =>
    rw [Except.error.injEq, WorkflowError.cyclicDependency.injEq]
    exact ⟨fun heq => ⟨heq ▸ h, heq⟩, And.right⟩

theorem Graph.strictOrder_eq (g : Graph) : g.strictOrder =
    if g.plan.blocked = [] then .ok g.plan.order else .error (.cyclicDependency g.plan.blocked) := by
  simp [strictOrder, Plan.complete]

namespace Simulation
variable (sim : Simulation)

theorem run_onCycle (policy : CyclePolicy) : (sim.onCycle policy).run g =
    if g.plan.blocked = [] ∨ policy = .skip then .ok (sim.follow g g.plan)
    else .error (.cyclicDependency g.plan.blocked) := by
  have hfollow : (sim.onCycle policy).follow g g.plan = sim.follow g g.plan :=
    follow_eq (fun _ _ _ => rfl) rfl rfl rfl
  rw [run_eq, hfollow]
  rfl

theorem run_reject : (sim.onCycle .reject).run g =
    if g.plan.blocked = [] then .ok (sim.follow g g.plan)
    else .error (.cyclicDependency g.plan.blocked) := by
  simp [run_onCycle]

theorem run_skip : (sim.onCycle .skip).run g = .ok (sim.follow g g.plan) := by
  simp [run_onCycle]

/-- A run that leaves out the blocked nodes says so of them and of no others. -/
theorem run_skip_log (hg : g.Linked) : ∃ r, (sim.onCycle .skip).run g = .ok r ∧
    skippedFor "blocked by a cycle" r.log = g.plan.blocked := by
  obtain ⟨steps, left, hlog⟩ := follow_logged sim hg
  refine ⟨_, sim.run_skip, ?_⟩
  rw [hlog.log, g.skippedFor_log, if_pos rfl, if_neg (Summary.reason_ne _), List.append_nil]

/-- Without a cycle, a run in which nothing fails executes all nodes in the order of the graph. -/
theorem follow_complete (hg : g.Linked) (hcalm : sim.Calm fun _ => false)
    (hnil : g.plan.blocked = []) :
    (sim.follow g g.plan).summary.executed = g.plan.order ∧
    (sim.follow g g.plan).summary.failed = [] ∧
    (sim.follow g g.plan).summary.skipped = [] ∧
    (sim.follow g g.plan).summary.cancelled = false ∧
    ∀ reason, skippedFor reason (sim.follow g g.plan).log = [] := by
  obtain ⟨hexecuted, hfailed, hskipped, hcancelled⟩ := follow_reached hcalm hg
  rw [reached_of_none] at hexecuted hfailed hskipped
  have hskipped : (sim.follow g g.plan).summary.skipped = [] := by
    rw [hskipped, hnil, List.drop_length, List.append_nil]
  refine ⟨by simpa using hexecuted, by simpa using hfailed, hskipped, hcancelled, fun reason => ?_⟩
  obtain ⟨steps, left, hlog⟩ := follow_logged sim hg
  have hleft : left = [] := (List.append_eq_nil_iff.mp (hlog.skipped.trans hskipped)).2
  rw [hlog.log, g.skippedFor_log, hnil, hleft, ite_self, ite_self, List.append_nil]

end Simulation

/-- A run that refuses cycles, the strict order, validation, and the log of a run that leaves out what
a cycle holds back name the same nodes, and they name some if and only if there is a cycle. Without a
cycle it does not matter for a run what is done about them. -/
theorem Simulation.cyclicity_agrees (hg : g.Linked) (r : Registry) (sim : Simulation) :
    (∀ ids,
      ((sim.onCycle .reject).run g = .error (.cyclicDependency ids) ↔
        g.strictOrder = .error (.cyclicDependency ids)) ∧
      (g.strictOrder = .error (.cyclicDependency ids) ↔
        .blocked ids ∈ (r.validate g).issues) ∧
      (.blocked ids ∈ (r.validate g).issues ↔ ids ≠ [] ∧
        ∃ x, (sim.onCycle .skip).run g = .ok x ∧
          skippedFor "blocked by a cycle" x.log = ids)) ∧
    ((∃ ids, g.strictOrder = .error (.cyclicDependency ids)) ↔ ∃ c, g.OnCycle c) ∧
    ((∀ c, ¬g.OnCycle c) →
      (sim.onCycle .reject).run g = (sim.onCycle .skip).run g ∧
      (sim.Calm (fun _ => false) → ∃ x order, (sim.onCycle .reject).run g = .ok x ∧
        g.strictOrder = .ok order ∧ order.Perm g.nodeIds ∧ x.summary.executed = order ∧
        x.summary.failed = [] ∧ x.summary.skipped = [] ∧ x.summary.cancelled = false ∧
        ∀ reason, skippedFor reason x.log = [])) := by
  refine ⟨fun ids => ⟨?_, ?_, ?_⟩, ?_, fun hacyclic => ?_⟩
  · rw [sim.run_reject, g.strictOrder_eq, refused_iff, refused_iff]
  · rw [g.strictOrder_eq, refused_iff, r.blocked_mem_validate_iff hg]
  · obtain ⟨x, hx, hskipped⟩ := sim.run_skip_log hg
    rw [r.blocked_mem_validate_iff hg, hx]
    refine and_congr_right fun _ => ⟨fun h => ⟨x, rfl, hskipped.trans h⟩, ?_⟩
    rintro ⟨y, hy, rfl⟩
    rw [← Except.ok.inj hy, hskipped]
  · simp only [g.strictOrder_eq, refused_iff]
    have hnil := Graph.plan_blocked_eq_nil_iff hg
    constructor
    · rintro ⟨_, hne, rfl⟩
      by_contra hnone
      exact hne (hnil.mpr (not_exists.mp hnone))
    · rintro ⟨c, hc⟩
      exact ⟨_, fun h => hnil.mp h c hc, rfl⟩
  · have hnil := (Graph.plan_blocked_eq_nil_iff hg).mpr hacyclic
    have hperm : g.plan.order.Perm g.nodeIds := by
      simpa [hnil] using Graph.plan_perm hg
    rw [sim.run_reject, sim.run_skip, g.strictOrder_eq, if_pos hnil, if_pos hnil]
    exact ⟨rfl, fun hcalm => ⟨_, _, rfl, rfl, hperm, sim.follow_complete hg hcalm hnil⟩⟩

/-- A run in which nothing fails, and that takes no time. -/
def Simulation.plain : Simulation where
  registry := {}
  executor := Mock.execute {}
  settings := {}
  input := .obj []

theorem Simulation.cyclicity_agrees_tangled : Graph.tangled.Linked ∧ Graph.braided.Linked ∧
    (plain.onCycle .reject).run Graph.tangled = .error (.cyclicDependency ["loop", "behind"]) ∧
    .blocked ["loop", "behind"] ∈ (Registry.validate {} Graph.tangled).issues ∧
    (∃ x, (plain.onCycle .skip).run Graph.tangled = .ok x ∧
      skippedFor "blocked by a cycle" x.log = ["loop", "behind"]) ∧
    (∃ c, Graph.tangled.OnCycle c) ∧
    ∃ x, (plain.onCycle .reject).run Graph.braided = .ok x ∧
      x.summary.executed = ["a", "b", "w", "z", "x", "y"] ∧ x.summary.skipped = [] := by
  have htangled : Graph.tangled.Linked := ⟨by decide, by decide, by decide⟩
  have hbraided : Graph.braided.Linked := ⟨by decide, by decide, by decide⟩
  have hstrict : Graph.tangled.strictOrder = .error (.cyclicDependency ["loop", "behind"]) :=
    (Graph.tangled.strictOrder_eq ▸ refused_iff).mpr ⟨by decide, by decide⟩
  obtain ⟨hviews, hcycle, -⟩ := cyclicity_agrees htangled {} plain
  obtain ⟨hreject, hissues, hskip⟩ := hviews ["loop", "behind"]
  have hacyclic := (Graph.plan_blocked_eq_nil_iff hbraided).mp (by decide)
  obtain ⟨-, hplain⟩ := (cyclicity_agrees hbraided {} plain).2.2 hacyclic
  obtain ⟨x, order, hrun, horder, -, hexecuted, -, hskipped, -⟩ :=
    hplain (Calm.of_mock (m := {}) rfl rfl rfl rfl)
  have hbraid : Graph.braided.strictOrder = .ok ["a", "b", "w", "z", "x", "y"] := by
    rw [Graph.strictOrder_eq, if_pos (by decide)]
    exact congrArg _ (by decide)
  rw [horder] at hbraid
  refine ⟨htangled, hbraided, hreject.mpr hstrict, hissues.mp hstrict,
    (hskip.mp (hissues.mp hstrict)).2, hcycle.mp ⟨_, hstrict⟩, x, hrun, ?_, hskipped⟩
  exact hexecuted.trans (Except.ok.inj hbraid)

end Answers
end WorkflowCanvas
