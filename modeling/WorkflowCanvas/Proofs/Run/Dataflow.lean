import WorkflowCanvas.Proofs.Run.Course
import WorkflowCanvas.Proofs.Run.Input

/-! The graph that a run leaves is coherent: the input of every node attempted is what the outputs
of its predecessors give in the end, because they all ran before it and none of them ran again. -/
namespace WorkflowCanvas

namespace Graph
variable (g : Graph)

theorem mergedInput_marked_congr {m m' : Marks} {id : String}
    (h : ∀ other, g.Leads other id → m.run other = m'.run other) (input : Json) :
    (g.marked m).mergedInput id input = (g.marked m').mergedInput id input := by
  refine mergedInput_congr (by simp only [predecessors_marked]) (fun other hother => ?_) input
  have hsame := h other ((g.mem_predecessors id other).mp (g.predecessors_marked m' id ▸ hother))
  simp only [output?, node?_marked, hsame]

/-- From a node of an order on, nothing leads to the node. -/
theorem Ordered.not_leads {g : Graph} {order rest : List String} {id other : String}
    (ho : g.Ordered order) (hnd : order.Nodup) (h : id :: rest <:+ order)
    (hother : other ∈ id :: rest) : ¬g.Leads other id := by
  obtain ⟨before, rfl⟩ := h
  intro hlead
  have hbefore := ho before id rest rfl other hlead
  exact (List.nodup_append.mp hnd).2.2 other hbefore other hother rfl

end Graph

theorem Attempt.mark_lastOutput (a : Attempt) : a.mark.lastOutput = a.result.toOption := by
  unfold mark
  cases a.result <;> rfl

theorem Attempt.mark_lastInput (a : Attempt) : a.mark.lastInput = a.told.map (·.input) := by
  unfold mark
  cases a.result <;> rfl

namespace Simulation
variable {sim : Simulation} {g : Graph} {r : Run}

/-- A step is told what its node would be told in the end, if its predecessors keep their marks. -/
theorem Ready.input {id : String} {rest : List String} {run run' : String → RunState}
    {p : Progress} (h : Ready g (id :: rest) run p)
    (hbefore : ∀ other ∈ id :: rest, ¬g.Leads other id)
    (hframe : ∀ other ∉ id :: rest, run' other = run other) :
    ∃ told, (sim.attempt p id).told = some told ∧
      told.input = (g.marked { run := run' }).mergedInput id sim.input := by
  obtain ⟨told, e, ha⟩ := h.attempted sim
  refine ⟨told, ha.told_eq, ?_⟩
  rw [ha.input_eq, h.graph]
  refine g.mergedInput_marked_congr (fun other hlead => ?_) sim.input
  exact (hframe other fun hother => hbefore other hother hlead).symm

/-- Every step of a walk is told what its node would be told in the end. -/
theorem Ready.inputs {ids : List String} {run run' : String → RunState} {p : Progress}
    (h : Ready g ids run p)
    (hbefore : ∀ id rest, id :: rest <:+ ids → ∀ other ∈ id :: rest, ¬g.Leads other id)
    (hframe : ∀ id ∉ ids, run' id = run id)
    (hmark : ∀ a ∈ (sim.walk ids p).attempts, run' a.node = a.mark) :
    ∀ a ∈ (sim.walk ids p).attempts, ∃ told, a.told = some told ∧
      told.input = (g.marked { run := run' }).mergedInput a.node sim.input := by
  revert run
  fun_induction Simulation.walk sim ids p with
  | case1 => simp
  | case2 => simp
  | case3 id rest p _ a stop =>
    intro run h hframe b hb
    obtain rfl : b = a := by simpa using hb
    rw [attempt_node]
    exact h.input (hbefore id rest List.suffix_rfl) hframe
  | case4 id rest p _ a _ course =>
    rename_i ih
    intro run h hframe b hb
    obtain rfl | hb := List.mem_cons.mp hb
    · rw [attempt_node]
      exact h.input (hbefore id rest List.suffix_rfl) hframe
    · refine ih
        (fun id' rest' hsuffix => hbefore id' rest' (hsuffix.trans (List.suffix_cons id rest)))
        (fun b hb => hmark b (List.mem_cons_of_mem a hb)) (h.next sim) (fun other hother => ?_) b hb
      -- The node itself has its mark for good, and no other changes in its step.
      by_cases heq : other = id
      · have ha : run' a.node = a.mark := hmark a List.mem_cons_self
        rw [attempt_node] at ha
        rw [heq, Function.update_self, ha]
      · rw [Function.update_of_ne heq]
        exact hframe other (by simp [heq, hother])

theorem follow_node? (sim : Simulation) (hg : g.Linked) {a : Attempt}
    (ha : a ∈ (sim.course g g.plan).attempts) :
    ∃ n, (sim.follow g g.plan).graph.node? a.node = some n ∧ n.data.run = a.mark := by
  obtain ⟨run, hgraph, hmark, -⟩ := follow_graph sim hg
  have horder : a.node ∈ g.plan.order := by
    rw [← course_nodes sim g g.plan]
    exact List.mem_append_left _ (List.mem_map_of_mem ha)
  obtain ⟨n, hn, _⟩ := g.node?_isSome ((Graph.mem_plan_order_iff hg a.node).mp horder).1
  exact ⟨n.setRun fun _ => run a.node, by rw [hgraph, g.node?_marked, hn]; rfl, hmark a ha⟩

/-- Every node that leads to a node attempted was attempted before it. -/
theorem attempted_before (sim : Simulation) (hg : g.Linked) {earlier later : List Attempt}
    {a : Attempt} (h : (sim.course g g.plan).attempts = earlier ++ a :: later) {other : String}
    (hlead : g.Leads other a.node) : ∃ b ∈ earlier, b.node = other := by
  have hnodes := course_nodes sim g g.plan
  rw [h] at hnodes
  have hmem := Graph.plan_ordered hg (earlier.map (·.node)) a.node
    (later.map (·.node) ++ (sim.course g g.plan).left) (by rw [← hnodes]; simp) other hlead
  exact List.mem_map.mp hmem

theorem course_inputs (sim : Simulation) (hg : g.Linked) :
    ∀ a ∈ (sim.course g g.plan).attempts, ∃ told, a.told = some told ∧
      told.input = (sim.follow g g.plan).graph.mergedInput a.node sim.input := by
  obtain ⟨run, hgraph, hmark, -, hout⟩ := follow_graph sim hg
  rw [hgraph]
  refine (opening_ready hg).inputs (fun id rest hsuffix other hother => ?_) (fun id hid => ?_) hmark
  · exact (Graph.plan_ordered hg).not_leads (Graph.plan_order_nodup hg) hsuffix hother
  · rw [hout id hid, queued, if_neg hid]

/-- The input that a step was told, and that its node shows in the end, is the merged input of the
node in the graph that the run leaves. The outputs that it merges are those of the attempts before
it, so that a node with an edge into it is told nothing of the input of the run. -/
theorem run_inputs (hg : g.Linked) (h : sim.run g = .ok r) :
    ∀ id ∈ r.summary.executed ++ r.summary.failed, ∃ earlier a later told n,
      r.attempts = earlier ++ a :: later ∧ a.node = id ∧ a.told = some told ∧
      r.graph.node? id = some n ∧ n.data.run.lastInput = some told.input ∧
      told.input = r.graph.mergedInput id sim.input ∧
      (∀ other, g.Leads other id → ∃ b ∈ earlier, b.node = other ∧
        ∃ m, r.graph.node? other = some m ∧ m.data.run.lastOutput = b.result.toOption) ∧
      (g.incoming id ≠ [] → told.input = .obj ((g.predecessors id).foldl
        (fun acc other => KeyMap.overlay acc (r.graph.contribution other)) [])) := by
  obtain rfl := run_eq_follow h
  intro id hid
  have hattempted := (Course.attempted_perm (sim.course g g.plan) g.plan.blocked).mem_iff.mp hid
  obtain ⟨a, ha, rfl⟩ := List.mem_map.mp hattempted
  obtain ⟨earlier, later, hsplit⟩ := List.append_of_mem ha
  obtain ⟨told, htold, hinput⟩ := course_inputs sim hg a ha
  obtain ⟨n, hn, hrun⟩ := follow_node? sim hg ha
  refine ⟨earlier, a, later, told, n, hsplit, rfl, htold, hn, ?_, hinput, ?_, ?_⟩
  · rw [hrun, Attempt.mark_lastInput, htold]
    rfl
  · intro other hlead
    obtain ⟨b, hb, rfl⟩ := attempted_before sim hg hsplit hlead
    have hmem : b ∈ (sim.course g g.plan).attempts := hsplit ▸ List.mem_append_left _ hb
    obtain ⟨m, hm, hmrun⟩ := follow_node? sim hg hmem
    exact ⟨b, hb, rfl, m, hm, by rw [hmrun, Attempt.mark_lastOutput]⟩
  · intro hne
    obtain ⟨run, hgraph, -⟩ := follow_graph sim hg
    rw [hinput, Graph.mergedInput_of_incoming]
    · rw [hgraph, Graph.predecessors_marked]
    · rw [hgraph, Graph.incoming_marked]
      simpa using hne

theorem run_inputs_row : ∃ r, (rowRun .carryOn).run row = .ok r ∧ row.Linked ∧
    "third" ∈ r.summary.executed ++ r.summary.failed ∧ row.Leads "second" "third" ∧
    ∃ earlier a later told n,
      r.attempts = earlier ++ a :: later ∧ a.node = "third" ∧ a.told = some told ∧
      r.graph.node? "third" = some n ∧ n.data.run.lastInput = some told.input ∧
      told.input = r.graph.mergedInput "third" (rowRun .carryOn).input ∧
      (∀ other, row.Leads other "third" → ∃ b ∈ earlier, b.node = other ∧
        ∃ m, r.graph.node? other = some m ∧ m.data.run.lastOutput = b.result.toOption) ∧
      (row.incoming "third" ≠ [] → told.input = .obj ((row.predecessors "third").foldl
        (fun acc other => KeyMap.overlay acc (r.graph.contribution other)) [])) :=
  ⟨_, run_of_skip rfl, row_linked, by decide,
    ⟨⟨"b", "second", "third", none, none, true⟩, by decide, rfl, rfl⟩,
    run_inputs row_linked (run_of_skip rfl) "third" (by decide)⟩

end Simulation
end WorkflowCanvas
