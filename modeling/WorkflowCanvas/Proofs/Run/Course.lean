import WorkflowCanvas.Proofs.Order.Plan
import WorkflowCanvas.Proofs.Run.Marks

/-! How far a run goes, and what it leaves behind: the marks after a step follow from its result,
and those after a walk from its attempts. -/
namespace WorkflowCanvas

/-- What an attempt leaves in its node. -/
def Attempt.mark (a : Attempt) : RunState :=
  match a.result with
  | .ok output =>
    { status := .success, lastOutput := some output, lastInput := a.told.map (·.input) }
  | .error error =>
    { status := .error, lastInput := a.told.map (·.input), lastError := some error.message }

namespace Attempt

theorem succeeded_of_stop?_none {a : Attempt} (h : a.stop? .stop = none) : a.succeeded = true := by
  unfold stop? at h
  split at h <;> simp_all [succeeded]

theorem stop?_of_succeeded {a : Attempt} (h : a.succeeded = true) (onError : ErrorHandling) :
    a.stop? onError = none := by
  unfold succeeded at h
  unfold stop?
  split at h <;> simp_all

theorem stop?_carryOn {a : Attempt} (h : a.result ≠ .error .cancelled) :
    a.stop? .carryOn = none := by
  unfold stop?
  split <;> simp_all

theorem stop?_eq_failed {a : Attempt} {onError : ErrorHandling}
    (h : a.stop? onError = some .failed) : onError = .stop ∧ a.succeeded = false := by
  unfold stop? at h
  split at h <;> simp_all [succeeded]

/-- Where the node decides whether an attempt fails, it decides in which list it is. -/
theorem nodes_of_fails {attempts : List Attempt} {fails : String → Bool}
    (h : ∀ a ∈ attempts, a.succeeded = !fails a.node) :
    (attempts.filter (·.succeeded)).map (·.node) =
      (attempts.map (·.node)).filter (!fails ·) ∧
    (attempts.filter (!·.succeeded)).map (·.node) = (attempts.map (·.node)).filter fails := by
  rw [List.filter_map, List.filter_map]
  refine ⟨congrArg _ (List.filter_congr h), congrArg _ (List.filter_congr fun a ha => ?_)⟩
  rw [h a ha, Bool.not_not]
  rfl

end Attempt

namespace Course
variable (c : Course) (blocked : List String)

theorem mem_executed (id : String) : id ∈ (c.summary blocked).executed ↔
    ∃ a ∈ c.attempts, a.succeeded = true ∧ a.node = id := by
  simp [summary, and_assoc]

theorem mem_failed (id : String) : id ∈ (c.summary blocked).failed ↔
    ∃ a ∈ c.attempts, a.succeeded = false ∧ a.node = id := by
  simp [summary, and_assoc]

theorem executed_sublist : (c.summary blocked).executed.Sublist (c.attempts.map (·.node)) :=
  List.filter_sublist.map _

theorem failed_sublist : (c.summary blocked).failed.Sublist (c.attempts.map (·.node)) :=
  List.filter_sublist.map _

theorem attempted_perm : ((c.summary blocked).executed ++ (c.summary blocked).failed).Perm
    (c.attempts.map (·.node)) := by
  simp only [summary, ← List.map_append]
  exact (List.filter_append_perm _ _).map _

end Course

namespace Simulation
variable (sim : Simulation) (g : Graph)

/-! ### The acts of a run -/

/-- After its start a run queues nodes or leaves them out. -/
theorem mem_opening_tail {plan : Plan} {a : Act} (h : a ∈ (opening plan).tail) :
    (∃ id, a = Act.status 0 id .queued) ∨ ∃ id, a = Act.skip 0 "blocked by a cycle" id := by
  simp only [opening, List.cons_append, List.nil_append, List.tail_cons, release, List.mem_append,
    List.mem_map] at h
  obtain ⟨id, _, rfl⟩ | ⟨id, _, rfl⟩ := h
  · exact .inl ⟨id, rfl⟩
  · exact .inr ⟨id, rfl⟩

theorem mem_beginning {time : Nat} {told : StepContext} {edges : List String} {a : Act}
    (h : a ∈ beginning time told edges) :
    a = Act.status time told.node .running ({ · with lastInput := some told.input }) ∨
    a = { time, happening := .nodeStarted told.node told.type } ∨
    ∃ edge, a = Act.activity time true edge := by
  simp only [beginning, List.mem_append, List.mem_cons, List.not_mem_nil, or_false,
    List.mem_map] at h
  obtain (h | h) | ⟨edge, _, rfl⟩ := h
  · exact .inl h
  · exact .inr (.inl h)
  · exact .inr (.inr ⟨edge, rfl⟩)

theorem mem_outcome {start : Nat} {node : String} {e : Ending} {a : Act}
    (h : a ∈ outcome start node e) :
    (∃ s result, a = Act.status e.time node s result) ∨
    (∃ output, a = { time := e.time, happening := .nodeCompleted node output (e.time - start) }) ∨
    ∃ message, a = { time := e.time, happening := .nodeFailed node message } := by
  cases hr : e.result with
  | ok output =>
    simp only [outcome, hr, List.mem_cons, List.not_mem_nil, or_false] at h
    obtain rfl | rfl := h
    · exact .inl ⟨_, _, rfl⟩
    · exact .inr (.inl ⟨_, rfl⟩)
  | error error =>
    simp only [outcome, hr, List.mem_cons, List.not_mem_nil, or_false] at h
    obtain rfl | rfl := h
    · exact .inl ⟨_, _, rfl⟩
    · exact .inr (.inr ⟨_, rfl⟩)

/-- What the end of a step writes into its node. -/
def written (result : Except StepError Json) (r : RunState) : RunState :=
  match result with
  | .ok output => { r with lastOutput := some output, status := .success }
  | .error error => { r with lastError := some error.message, status := .error }

theorem perform_beginning (m : Marks) (time : Nat) (told : StepContext) (edges : List String) :
    Act.perform (g.marked m) (beginning time told edges) = g.marked
      ((m.setRun told.node ({ · with lastInput := some told.input, status := .running })).light
        edges true) := by
  rw [beginning, Act.perform_append, ← Act.perform_activity g _ time, ← Graph.updateNode_marked]
  rfl

theorem perform_outcome (m : Marks) (start : Nat) (node : String) (e : Ending) :
    Act.perform (g.marked m) (outcome start node e) =
      g.marked (m.setRun node (written e.result)) := by
  rw [← Graph.updateNode_marked]
  cases h : e.result <;> simp only [outcome, h] <;> rfl

theorem perform_closing (m : Marks) (start : Nat) (node : String) (edges : List String)
    (e : Ending) :
    Act.perform (g.marked m) (closing start node edges e) =
      g.marked ((m.light edges false).setRun node (written e.result)) := by
  rw [closing, Act.perform_append, Act.perform_activity, perform_outcome]

theorem attempt_node (p : Progress) (id : String) : (sim.attempt p id).node = id := by
  simp only [attempt]
  split
  · next n h => simpa [attemptNode] using List.find?_some h
  · rfl

theorem attempt_of_found {p : Progress} {id : String} {n : Node} (h : p.graph.node? id = some n) :
    sim.attempt p id = sim.attemptNode p n := by
  simp only [attempt, h]

theorem attempt_graph (p : Progress) (id : String) :
    (sim.attempt p id).after.graph = Act.perform p.graph (sim.attempt p id).acts := by
  simp only [attempt]
  split <;> rfl

/-! ### Where a walk stops -/

/-- A walk that is not cancelled takes its next step, and goes on behind it unless that is the last. -/
theorem walk_next {p : Progress} {id : String} (rest : List String)
    (hgoing : (p.cancelled || sim.cancellation.reached p.time) = false) :
    (∀ stop, (sim.attempt p id).stop? sim.settings.onError = some stop →
      sim.walk (id :: rest) p =
        { attempts := [sim.attempt p id], left := rest, stop := some stop,
          time := (sim.attempt p id).after.time, execution := sim.execution }) ∧
    ((sim.attempt p id).stop? sim.settings.onError = none →
      sim.walk (id :: rest) p =
        { sim.walk rest (sim.attempt p id).after with
          attempts := sim.attempt p id :: (sim.walk rest (sim.attempt p id).after).attempts }) := by
  refine ⟨fun stop hstop => ?_, fun hnone => ?_⟩
  · simp only [walk, hgoing, hstop, Bool.false_eq_true, if_false]
  · simp only [walk, hgoing, hnone, Bool.false_eq_true, if_false]

/-- A walk attempts its nodes in turn and leaves out the rest. -/
theorem walk_nodes (ids : List String) (p : Progress) :
    (sim.walk ids p).attempts.map (·.node) ++ (sim.walk ids p).left = ids := by
  fun_induction walk sim ids p with
  | case1 => rfl
  | case2 => rfl
  | case3 id rest p _ a => simp [a, attempt_node]
  | case4 id rest p _ a _ course ih => simpa [a, course, attempt_node] using ih

theorem walk_left_of_stop_none (ids : List String) (p : Progress)
    (h : (sim.walk ids p).stop = none) : (sim.walk ids p).left = [] := by
  fun_induction walk sim ids p with
  | case1 => rfl
  | case2 => simp at h
  | case3 => simp at h
  | case4 id rest p _ a _ course ih => exact ih h

/-- A walk that stops at a failure had none before it. -/
theorem walk_stop_failed (ids : List String) (p : Progress)
    (h : (sim.walk ids p).stop = some .failed) :
    sim.settings.onError = .stop ∧
    ∃ earlier last, (sim.walk ids p).attempts = earlier ++ [last] ∧
      (∀ a ∈ earlier, a.succeeded = true) ∧ last.succeeded = false := by
  fun_induction walk sim ids p with
  | case1 => simp at h
  | case2 => simp at h
  | case3 id rest p _ a stop ha =>
    obtain rfl : stop = .failed := by simpa using h
    obtain ⟨hstop, hfailed⟩ := Attempt.stop?_eq_failed ha
    exact ⟨hstop, [], a, rfl, by simp, hfailed⟩
  | case4 id rest p _ a ha course ih =>
    obtain ⟨hstop, earlier, last, heq, hall, hlast⟩ := ih h
    refine ⟨hstop, a :: earlier, last, by simpa using heq, ?_, hlast⟩
    intro b hb
    obtain rfl | hb := List.mem_cons.mp hb
    · exact Attempt.succeeded_of_stop?_none (hstop ▸ ha)
    · exact hall b hb

/-! ### What a walk leaves -/

/-- A run that is about to walk along `ids`: all of them are queued, and no edge is lit. -/
structure Ready (ids : List String) (run : String → RunState) (p : Progress) : Prop where
  graph : p.graph = g.marked { run }
  queued : ∀ id ∈ ids, run id = { status := .queued }
  nodup : ids.Nodup
  subset : ids ⊆ g.nodeIds

/-- The node of an attempt, its step's context and end, and the edges into it. -/
structure Attempted (p : Progress) (id : String) (a : Attempt) (told : StepContext) (e : Ending) :
    Prop where
  told_eq : a.told = some told
  node_eq : told.node = id
  type_eq : ∃ n, g.node? id = some n ∧ told.type = n.type
  input_eq : told.input = p.graph.mergedInput id sim.input
  ending_eq : e = sim.ending p.time (sim.executor told)
  result_eq : a.result = e.result
  begun_eq : a.begun = beginning p.time told ((g.incoming id).map (·.id))
  sent_eq : a.sent = e.messages.map (Act.message p.time id)
  ended_eq : a.ended = closing p.time id ((g.incoming id).map (·.id)) e

variable {g} {id : String} {ids rest : List String} {run : String → RunState} {p : Progress}

theorem attempt_attempted (hgraph : ∃ m, p.graph = g.marked m) (hid : id ∈ g.nodeIds) :
    ∃ told e, Attempted sim g p id (sim.attempt p id) told e := by
  obtain ⟨m, hm⟩ := hgraph
  obtain ⟨n, hn, hnid⟩ := g.node?_isSome hid
  have hfound : p.graph.node? id = some (n.setRun fun _ => m.run id) := by
    rw [hm, g.node?_marked, hn]; rfl
  have hedges : (p.graph.incoming id).map (·.id) = (g.incoming id).map (·.id) := by simp [hm]
  have hnode : (n.setRun fun _ => m.run id).id = id := hnid
  rw [sim.attempt_of_found hfound]
  exact ⟨_, _, rfl, hnode, ⟨n, hn, rfl⟩, by rw [← hnode]; rfl, rfl, rfl,
    by rw [← hedges, ← hnode]; rfl, by rw [← hnode]; rfl, by rw [← hedges, ← hnode]; rfl⟩

namespace Ready

theorem attempted (h : Ready g (id :: rest) run p) :
    ∃ told e, Attempted sim g p id (sim.attempt p id) told e :=
  attempt_attempted sim ⟨_, h.graph⟩ (h.subset (by simp))

/-- While a step is in flight its node is running and the edges into it are lit. -/
theorem flight (h : Ready g (id :: rest) run p) :
    Act.perform p.graph (sim.attempt p id).begun = g.marked
      { run := Function.update run id
          { status := .running, lastInput := (sim.attempt p id).told.map (·.input) }
        lit := fun edge => decide (edge ∈ (g.incoming id).map (·.id)) } := by
  obtain ⟨told, e, ha⟩ := h.attempted sim
  rw [h.graph, ha.begun_eq, perform_beginning, ha.node_eq, ha.told_eq]
  simp only [Marks.setRun, Marks.light, h.queued id (by simp)]
  congr 2

/-- A step leaves its mark in its node and puts out the edges that it has lit. -/
theorem after (h : Ready g (id :: rest) run p) :
    (sim.attempt p id).after.graph =
      g.marked { run := Function.update run id (sim.attempt p id).mark } := by
  obtain ⟨told, e, ha⟩ := h.attempted sim
  rw [attempt_graph, Attempt.acts, Act.perform_append, Act.perform_append, h.flight sim, ha.sent_eq,
    Act.perform_message, ha.ended_eq, perform_closing, Marks.light_out]
  simp only [Marks.setRun, Function.update_self, Function.update_idem, Attempt.mark, ha.result_eq,
    ha.told_eq]
  cases e.result <;> rfl

theorem next (h : Ready g (id :: rest) run p) :
    Ready g rest (Function.update run id (sim.attempt p id).mark) (sim.attempt p id).after where
  graph := h.after sim
  queued other hother := by
    have hne : other ≠ id := fun heq => (List.nodup_cons.mp h.nodup).1 (heq ▸ hother)
    rw [Function.update_of_ne hne]
    exact h.queued other (List.mem_cons_of_mem id hother)
  nodup := (List.nodup_cons.mp h.nodup).2
  subset := fun _ hother => h.subset (List.mem_cons_of_mem id hother)

theorem walk_attempted (h : Ready g ids run p) : ∀ a ∈ (sim.walk ids p).attempts,
    ∃ before told e, Attempted sim g before a.node a told e := by
  revert run
  fun_induction Simulation.walk sim ids p with
  | case1 => simp
  | case2 => simp
  | case3 id rest p _ a stop =>
    intro run h b hb
    obtain rfl : b = a := by simpa using hb
    rw [attempt_node]
    exact ⟨p, h.attempted sim⟩
  | case4 id rest p _ a _ course =>
    rename_i ih
    intro run h b hb
    obtain rfl | hb := List.mem_cons.mp hb
    · rw [attempt_node]
      exact ⟨p, h.attempted sim⟩
    · exact ih (h.next sim) b hb

theorem skip (h : Ready g ids run p) (time : Nat) (reason : String) :
    Act.perform p.graph (release time reason ids) =
      g.marked { run := fun id => if id ∈ ids then {} else run id } := by
  rw [h.graph, release, Act.perform_skip]
  simp only [Marks.setStatus]
  congr 2
  funext id
  by_cases hid : id ∈ ids
  · simp [hid, h.queued id hid]
  · simp [hid]

end Ready

theorem acts_cons (a : Attempt) (c : Course) :
    ({ c with attempts := a :: c.attempts } : Course).acts = a.acts ++ c.acts := by
  simp [Course.acts]

/-- A walk marks every node that it attempts by the result and leaves no trace in the others. -/
theorem Ready.walk (h : Ready g ids run p) :
    ∃ run', Act.perform p.graph (sim.walk ids p).acts = g.marked { run := run' } ∧
      (∀ id ∉ ids, run' id = run id) ∧
      (∀ a ∈ (sim.walk ids p).attempts, run' a.node = a.mark) ∧
      ∀ id ∈ (sim.walk ids p).left, run' id = {} := by
  -- The marks at the start of a walk change from step to step.
  revert run
  fun_induction Simulation.walk sim ids p with
  | case1 p =>
    intro run h
    exact ⟨run, by simp [Course.acts, Act.perform, h.graph], by simp⟩
  | case2 id rest p =>
    intro run h
    refine ⟨_, h.skip p.time Stop.cancelled.reason, ?_, by simp, ?_⟩
    · intro other hother
      simp [hother]
    · intro other hother
      simp [hother]
  | case3 id rest p _ a stop =>
    intro run h
    have hnext := h.next sim
    refine ⟨fun other => if other ∈ rest then {} else Function.update run id a.mark other,
      ?_, ?_, ?_, ?_⟩
    · simp only [Course.acts, List.flatMap_cons, List.flatMap_nil, List.append_nil,
        Act.perform_append, ← attempt_graph, a]
      exact hnext.skip _ _
    · intro other hother
      obtain ⟨hne, hrest⟩ : other ≠ id ∧ other ∉ rest := by simpa using hother
      simp [hrest, hne]
    · have hid : id ∉ rest := (List.nodup_cons.mp h.nodup).1
      simp [a, attempt_node, hid]
    · intro other hother
      simp [hother]
  | case4 id rest p _ a _ course =>
    rename_i ih
    intro run h
    have hnext := h.next sim
    obtain ⟨run', hgraph, hframe, hmark, hleft⟩ := ih hnext
    refine ⟨run', ?_, ?_, ?_, hleft⟩
    · rw [acts_cons, Act.perform_append, ← attempt_graph]
      exact hgraph
    · intro other hother
      obtain ⟨hne, hrest⟩ : other ≠ id ∧ other ∉ rest := by simpa using hother
      rw [hframe other hrest, Function.update_of_ne hne]
    · intro b hb
      obtain rfl | hb := List.mem_cons.mp hb
      · have hid : id ∉ rest := (List.nodup_cons.mp h.nodup).1
        rw [attempt_node, hframe id hid, Function.update_self]
      · exact hmark b hb

/-! ### A whole run -/

/-- What is in the nodes before the first step. -/
def queued (plan : Plan) (id : String) : RunState :=
  if id ∈ plan.order then { status := .queued } else {}

theorem perform_opening (g : Graph) (plan : Plan) (h : ∀ id ∈ plan.blocked, id ∉ plan.order) :
    Act.perform g (opening plan) = g.marked { run := queued plan } := by
  have hstart : Act.perform g [⟨0, Graph.clear, .runStarted plan.order⟩] = g.marked {} := rfl
  rw [opening, Act.perform_append, Act.perform_append, hstart, Act.perform_status, release,
    Act.perform_skip]
  simp only [Marks.setStatus]
  congr 2
  funext id
  by_cases hid : id ∈ plan.blocked
  · simp [hid, h id hid, queued]
  · simp [hid, queued]

theorem disjoint_of_mem_blocked (hg : g.Linked) : ∀ id ∈ g.plan.blocked, id ∉ g.plan.order := by
  intro id hid
  rw [Graph.plan_blocked hg] at hid
  simpa using (List.mem_filter.mp hid).2

theorem opening_ready (hg : g.Linked) :
    Ready g g.plan.order (queued g.plan) { graph := Act.perform g (opening g.plan) } where
  graph := perform_opening g g.plan (disjoint_of_mem_blocked hg)
  queued id hid := by simp [queued, hid]
  nodup := Graph.plan_order_nodup hg
  subset id hid := ((Graph.mem_plan_order_iff hg id).mp hid).1

theorem course_nodes (g : Graph) (plan : Plan) :
    (sim.course g plan).attempts.map (·.node) ++ (sim.course g plan).left = plan.order :=
  sim.walk_nodes plan.order _

/-- A run that nothing stops comes to all nodes of its order. -/
theorem course_nodes_of_stop_none {plan : Plan} (h : (sim.course g plan).stop = none) :
    (sim.course g plan).attempts.map (·.node) = plan.order := by
  have hleft : (sim.course g plan).left = [] := sim.walk_left_of_stop_none _ _ h
  rw [← course_nodes sim g plan, hleft, List.append_nil]

/-- A run marks the nodes that it attempts, and all others are as if there had never been a run. -/
theorem follow_graph (hg : g.Linked) :
    ∃ run, (sim.follow g g.plan).graph = g.marked { run } ∧
      (∀ a ∈ (sim.course g g.plan).attempts, run a.node = a.mark) ∧
      (∀ id ∈ (sim.course g g.plan).left, run id = {}) ∧
      ∀ id ∉ g.plan.order, run id = {} := by
  obtain ⟨run, hgraph, hframe, hmark, hleft⟩ := (opening_ready hg).walk sim
  refine ⟨run, ?_, hmark, hleft, ?_⟩
  · rw [follow, script, Act.perform_append, Act.perform_append]
    exact hgraph
  · intro id hid
    rw [hframe id hid, queued, if_neg hid]

variable {sim}

theorem run_eq_follow {r : Run} (h : sim.run g = .ok r) : r = sim.follow g g.plan := by
  simp only [run] at h
  split at h
  · cases h
  · exact (Except.ok.inj h).symm

theorem run_of_skip (h : sim.settings.onCycle = .skip) : sim.run g = .ok (sim.follow g g.plan) := by
  simp [run, h]

theorem run_eq (sim : Simulation) (g : Graph) : sim.run g =
    if g.plan.blocked = [] ∨ sim.settings.onCycle = .skip then .ok (sim.follow g g.plan)
    else .error (.cyclicDependency g.plan.blocked) := by
  by_cases hblocked : g.plan.blocked = [] <;> cases honCycle : sim.settings.onCycle <;>
    simp [run, Plan.complete, hblocked, honCycle]

/-- Simulations that treat cycles alike run the same graphs. -/
theorem follow_of_run {sim' : Simulation} {r : Run} (h : sim.run g = .ok r)
    (hsame : sim'.settings.onCycle = sim.settings.onCycle) :
    sim'.run g = .ok (sim'.follow g g.plan) := by
  rw [run_eq] at h ⊢
  rw [hsame]
  refine if_pos (Decidable.byContradiction fun hrefused => ?_)
  cases h.symm.trans (if_neg hrefused)

/-- Three nodes in a row, the last of which an earlier run has left an output in, and a node that
leads to itself. -/
def row : Graph where
  nodes := [.fresh "loop" "action", .fresh "first" "trigger", .fresh "second" "action",
    (Node.fresh "third" "output").setRun fun _ => { status := .success, lastOutput := some .null }]
  edges := [⟨"a", "first", "second", none, none, false⟩,
    ⟨"b", "second", "third", none, none, true⟩, ⟨"c", "loop", "loop", none, none, false⟩]

/-- A run in which the second node of the row fails. -/
def rowRun (onError : ErrorHandling) : Simulation where
  registry := {}
  executor := Mock.execute { failingNodes := ["second"] }
  settings := { onError }
  input := .obj []

theorem row_linked : row.Linked := ⟨by decide, by decide, by decide⟩

end Simulation
end WorkflowCanvas
