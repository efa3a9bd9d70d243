import WorkflowCanvas.Proofs.Run.Shadow
import WorkflowCanvas.Proofs.Graph.Saving

/-! What a run depends on: the graph without what earlier runs have left in it, and what the steps of
its nodes do. Simulations that agree in this run the same, but for the id of the execution. -/
namespace WorkflowCanvas

/-! ### Plans -/

namespace Graph
variable (g : Graph) (m : Marks)

@[simp] theorem nodeIds_marked : (g.marked m).nodeIds = g.nodeIds := by
  simp only [nodeIds, marked, List.map_map]
  rfl

theorem outgoing_marked (id : String) : (g.marked m).outgoing id =
    (g.outgoing id).map fun e => { e with animated := m.lit e.id } := by
  simp only [outgoing, marked, List.filter_map]
  rfl

@[simp] theorem successors_marked : (g.marked m).successors = g.successors := by
  funext id
  simp [successors, outgoing_marked, Function.comp_def]

@[simp] theorem sources_marked : (g.marked m).sources = g.sources := by
  funext id
  simp [sources, incoming_marked, Function.comp_def]

theorem cycleOf_marked : (g.marked m).cycleOf = g.cycleOf := by
  have hlength : (g.marked m).nodes.length = g.nodes.length := by simp [marked]
  funext id
  simp [cycleOf, reachable, reaching, hlength]

theorem cyclesAmong_marked (fuel : Nat) (ids : List String) :
    (g.marked m).cyclesAmong fuel ids = g.cyclesAmong fuel ids := by
  induction fuel generalizing ids with
  | zero => rfl
  | succ fuel ih =>
    cases ids with
    | nil => rfl
    | cons id ids => simp only [cyclesAmong, cycleOf_marked, ih]

end Graph

namespace Walk
variable (g : Graph) (m : Marks)

theorem step_marked (w : Walk) : w.step (g.marked m) = w.step g := by
  simp only [step, Graph.outgoing_marked, List.foldl_map]

theorem after_marked (count : Nat) : after (g.marked m) count = after g count := by
  induction count with
  | zero => simp [after, start, Graph.incoming_marked]
  | succ count ih => rw [after, after, ih, step_marked]

end Walk

/-- How a graph runs does not depend on what runs have left in it. -/
theorem Graph.plan_marked (g : Graph) (m : Marks) : (g.marked m).plan = g.plan := by
  have hwalk : Walk.finish (g.marked m) = Walk.finish g := by
    have hlength : (g.marked m).nodes.length = g.nodes.length := by simp [marked]
    rw [Walk.finish, Walk.finish, hlength, Walk.after_marked]
  simp only [plan, hwalk, cyclesAmong_marked]

theorem Graph.plan_clear (g : Graph) : g.clear.plan = g.plan := g.plan_marked {}

/-! ### Courses -/

/-- The same run under the id of another execution. -/
def Run.under (r : Run) (execution : Uuid) : Run :=
  { r with summary := { r.summary with execution } }

namespace Simulation
variable {sim sim' : Simulation} {g g' : Graph} {plan : Plan}

/-- The same simulation under the id of another execution. -/
def under (sim : Simulation) (execution : Uuid) : Simulation := { sim with execution }

/-- Simulations that do the same at every node of a list, and stop for the same reasons, take the
same course along it. -/
theorem walk_congr {ids : List String}
    (hattempt : ∀ id ∈ ids, ∀ p, sim'.attempt p id = sim.attempt p id)
    (honError : sim'.settings.onError = sim.settings.onError)
    (hcancellation : sim'.cancellation = sim.cancellation) (p : Progress) :
    sim'.walk ids p = { sim.walk ids p with execution := sim'.execution } := by
  fun_induction walk sim ids p with
  | case1 => rfl
  | case2 id rest p hstop => simp only [walk, hcancellation, hstop, if_true]
  | case3 id rest p hgo a stop ha =>
    have hsame := hattempt id List.mem_cons_self p
    simp only [walk, hcancellation, hgo, hsame, honError]
    simp [a, ha]
  | case4 id rest p hgo a ha course ih =>
    have hsame := hattempt id List.mem_cons_self p
    have hrest := ih fun other hother => hattempt other (List.mem_cons_of_mem id hother)
    simp only [walk, hcancellation, hgo, hsame, honError]
    simp [a, ha, hrest, course]

/-- The first act of a run clears the graph, so that all that follows is the same for graphs that
differ only in what earlier runs have left. -/
theorem opening_forgets (h : g'.clear = g.clear) (plan : Plan) (later : List Act) :
    Act.perform g' (opening plan ++ later) = Act.perform g (opening plan ++ later) ∧
    Act.moments g' (opening plan ++ later) = Act.moments g (opening plan ++ later) := by
  have hperform : ∀ k : Graph, Act.perform k (opening plan ++ later) =
      Act.perform k.clear ((opening plan).tail ++ later) := fun _ => rfl
  have hmoments : ∀ k : Graph, Act.moments k (opening plan ++ later) =
      ⟨0, .runStarted plan.order, k.clear⟩ ::
        Act.moments k.clear ((opening plan).tail ++ later) := fun _ => rfl
  exact ⟨by rw [hperform, hperform, h], by rw [hmoments, hmoments, h]⟩

theorem course_congr (hclear : g'.clear = g.clear)
    (hattempt : ∀ id ∈ plan.order, ∀ p, sim'.attempt p id = sim.attempt p id)
    (honError : sim'.settings.onError = sim.settings.onError)
    (hcancellation : sim'.cancellation = sim.cancellation) :
    sim'.course g' plan = { sim.course g plan with execution := sim'.execution } := by
  have hopening := (opening_forgets hclear plan []).1
  rw [List.append_nil] at hopening
  rw [course, course, hopening]
  exact walk_congr hattempt honError hcancellation _

/-- Along one plan such simulations run the same, whatever earlier runs have left in the graph. -/
theorem follow_congr (hclear : g'.clear = g.clear)
    (hattempt : ∀ id ∈ plan.order, ∀ p, sim'.attempt p id = sim.attempt p id)
    (honError : sim'.settings.onError = sim.settings.onError)
    (hcancellation : sim'.cancellation = sim.cancellation) :
    sim'.follow g' plan = (sim.follow g plan).under sim'.execution := by
  have hcourse := course_congr hclear hattempt honError hcancellation
  have hscript : sim'.script g' plan = sim.script g plan := by
    rw [script, script, hcourse]
    rfl
  obtain ⟨hgraph, hmoments⟩ := opening_forgets hclear plan
    ((sim.course g plan).acts ++ [((sim.course g plan).summary plan.blocked).completed])
  rw [← List.append_assoc] at hgraph hmoments
  have hgraph' : Act.perform g' (sim.script g plan) = Act.perform g (sim.script g plan) := hgraph
  have hmoments' : Act.moments g' (sim.script g plan) = Act.moments g (sim.script g plan) := hmoments
  rw [Run.under, follow, follow, hscript, hcourse, hgraph', hmoments']
  rfl

theorem follow_eq (hattempt : ∀ id ∈ plan.order, ∀ p, sim'.attempt p id = sim.attempt p id)
    (honError : sim'.settings.onError = sim.settings.onError)
    (hcancellation : sim'.cancellation = sim.cancellation)
    (hexecution : sim'.execution = sim.execution) : sim'.follow g plan = sim.follow g plan := by
  have hsame : sim.follow g plan = (sim.follow g plan).under sim.execution :=
    follow_congr rfl (fun _ _ _ => rfl) rfl rfl
  rw [follow_congr rfl hattempt honError hcancellation, hexecution]
  exact hsame.symm

/-- What a run does with a node depends on the executor by the steps of this node alone. -/
theorem attempt_executor (sim : Simulation) {executor : Executor} {id : String}
    (h : ∀ told : StepContext, told.node = id → executor told = sim.executor told) (p : Progress) :
    ({ sim with executor } : Simulation).attempt p id = sim.attempt p id := by
  cases hn : p.graph.node? id with
  | none => simp only [attempt, hn]
  | some n =>
    have hid : n.id = id := by simpa using List.find?_some hn
    have hstep := h (sim.context p n (p.graph.mergedInput n.id sim.input)) hid
    simp only [context] at hstep
    simp only [attempt, hn, attemptNode, context, hstep]
    rfl

theorem run_under (h : g'.clear = g.clear) (sim : Simulation) (execution : Uuid) :
    (sim.under execution).run g' = (sim.run g).map (·.under execution) := by
  have hplan : g'.plan = g.plan := by rw [← g'.plan_clear, h, g.plan_clear]
  have hfollow : (sim.under execution).follow g' g.plan = (sim.follow g g.plan).under execution :=
    follow_congr h (fun _ _ _ => rfl) rfl rfl
  have hsettings : (sim.under execution).settings = sim.settings := rfl
  simp only [run, hplan, hfollow, hsettings]
  split <;> rfl

end Simulation

/-! ### Runs one after the other -/

/-- The graph after some runs. A run that is refused leaves it as it is. -/
def Graph.rerun (g : Graph) (sims : List Simulation) : Graph :=
  sims.foldl (fun g sim => match sim.run g with | .ok r => r.graph | .error _ => g) g

theorem Graph.clear_marked (g : Graph) (m : Marks) : (g.marked m).clear = g.clear :=
  g.marked_marked m {}

theorem Graph.clear_rerun (g : Graph) (sims : List Simulation) : (g.rerun sims).clear = g.clear := by
  induction sims generalizing g with
  | nil => rfl
  | cons sim sims ih =>
    rw [rerun, List.foldl_cons]
    refine (ih _).trans ?_
    split
    · next r h =>
      obtain ⟨m, hm⟩ := Simulation.run_marked h
      rw [hm, clear_marked]
    · rfl

namespace Simulation

/-- Runs forget the past. On two graphs that are equal once they have been cleared, a simulation is
refused with one error, or runs with one summary, one log and one graph at the end; only the id of
the execution is new. So after any runs of a graph the next one is as if the saved graph had just been
loaded. -/
theorem run_forgets {g g' : Graph} (h : g.clear = g'.clear) (sim : Simulation) (execution : Uuid) :
    (sim.under execution).run g' = (sim.run g).map (·.under execution) ∧
    (g.WellFormed → ∃ fresh, Graph.load g.save = .ok fresh ∧ ∀ earlier : List Simulation,
      (sim.under execution).run (g.rerun earlier) = (sim.run fresh).map (·.under execution)) := by
  refine ⟨run_under h.symm sim execution, fun hg => ⟨g.clear, Graph.load_save hg, fun earlier => ?_⟩⟩
  refine run_under ?_ sim execution
  rw [g.clear_rerun]
  exact (g.clear_marked {}).symm

theorem run_forgets_row :
    (row.rerun [rowRun .stop]).nodes.map (·.status) = [.idle, .success, .error, .idle] ∧
    row.nodes.map (·.status) = [.idle, .idle, .idle, .success] ∧
    row.clear = (row.rerun [rowRun .stop]).clear ∧ row.WellFormed ∧
    ((rowRun .carryOn).under ⟨1⟩).run (row.rerun [rowRun .stop]) =
      ((rowRun .carryOn).run row).map (·.under ⟨1⟩) ∧
    (row.WellFormed → ∃ fresh, Graph.load row.save = .ok fresh ∧ ∀ earlier : List Simulation,
      ((rowRun .carryOn).under ⟨1⟩).run (row.rerun earlier) =
        ((rowRun .carryOn).run fresh).map (·.under ⟨1⟩)) :=
  ⟨by decide, by decide, (row.clear_rerun _).symm, ⟨by decide, by decide, by decide, by decide⟩,
    run_forgets (row.clear_rerun _).symm (rowRun .carryOn) ⟨1⟩⟩

end Simulation
end WorkflowCanvas
