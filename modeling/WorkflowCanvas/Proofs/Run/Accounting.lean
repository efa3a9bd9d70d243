import WorkflowCanvas.Proofs.Run.Course

/-! The summary of a run names every node once, and tells what the run has left in it. -/
namespace WorkflowCanvas

/-- The list of a summary that names a node tells in which state the node is. -/
structure Summary.Settles (s : Summary) (n : Node) : Prop where
  executed : n.status = .success ∧ n.data.run.lastOutput.isSome ↔ n.id ∈ s.executed
  failed : n.status = .error ∧ n.data.run.lastError.isSome ∧ n.data.run.lastOutput = none ↔
    n.id ∈ s.failed
  skipped : n.status = .idle ∧ n.data.run.lastInput = none ∧ n.data.run.lastOutput = none ∧
    n.data.run.lastError = none ↔ n.id ∈ s.skipped
  not_queued : n.status ≠ .queued
  not_running : n.status ≠ .running

/-- It is enough to know what the members of each list are like: the states exclude each other. -/
theorem Summary.settles_of {s : Summary} {n : Node}
    (hmem : n.id ∈ s.executed ∨ n.id ∈ s.failed ∨ n.id ∈ s.skipped)
    (hexecuted : n.id ∈ s.executed → n.status = .success ∧ n.data.run.lastOutput.isSome)
    (hfailed : n.id ∈ s.failed →
      n.status = .error ∧ n.data.run.lastError.isSome ∧ n.data.run.lastOutput = none)
    (hskipped : n.id ∈ s.skipped → n.data.run = {}) : s.Settles n := by
  have hidle : n.id ∈ s.skipped → n.status = .idle ∧ n.data.run.lastInput = none ∧
      n.data.run.lastOutput = none ∧ n.data.run.lastError = none := by
    intro h
    simp [Node.status, hskipped h]
  have hstatus : n.status = .success ∧ n.id ∈ s.executed ∨ n.status = .error ∧ n.id ∈ s.failed ∨
      n.status = .idle ∧ n.id ∈ s.skipped := by
    obtain h | h | h := hmem
    · exact .inl ⟨(hexecuted h).1, h⟩
    · exact .inr (.inl ⟨(hfailed h).1, h⟩)
    · exact .inr (.inr ⟨(hidle h).1, h⟩)
  refine ⟨⟨fun h => ?_, hexecuted⟩, ⟨fun h => ?_, hfailed⟩, ⟨fun h => ?_, hidle⟩, ?_, ?_⟩
  · simpa [h.1] using hstatus
  · simpa [h.1] using hstatus
  · simpa [h.1] using hstatus
  · obtain h | h | h := hstatus <;> simp [h.1]
  · obtain h | h | h := hstatus <;> simp [h.1]

namespace Attempt
variable {a : Attempt}

theorem mark_of_succeeded (h : a.succeeded = true) :
    a.mark.status = .success ∧ a.mark.lastOutput.isSome := by
  unfold succeeded at h
  unfold mark
  cases hr : a.result <;> simp_all

theorem mark_of_failed (h : a.succeeded = false) :
    a.mark.status = .error ∧ a.mark.lastError.isSome ∧ a.mark.lastOutput = none := by
  unfold succeeded at h
  unfold mark
  cases hr : a.result <;> simp_all

end Attempt

namespace Simulation
variable {sim : Simulation} {g : Graph} {r : Run}

theorem attempts_eq_take (sim : Simulation) (g : Graph) (plan : Plan) :
    (sim.course g plan).attempts.map (·.node) =
      plan.order.take (sim.course g plan).attempts.length := by
  rw [← course_nodes sim g plan, List.take_left' (List.length_map _)]

theorem left_eq_drop (sim : Simulation) (g : Graph) (plan : Plan) :
    (sim.course g plan).left = plan.order.drop (sim.course g plan).attempts.length := by
  rw [← course_nodes sim g plan, List.drop_left' (List.length_map _)]

/-- A run leaves nodes of its order out only when it is cancelled, or when it stops at its first
failure. -/
theorem stops_early (sim : Simulation) (g : Graph) (plan : Plan)
    (h : (sim.course g plan).left ≠ []) :
    ((sim.course g plan).summary plan.blocked).cancelled = true ∨ sim.settings.onError = .stop ∧
      ∃ id, ((sim.course g plan).attempts.map (·.node)).getLast? = some id ∧
        ((sim.course g plan).summary plan.blocked).failed = [id] := by
  cases hstop : (sim.course g plan).stop with
  | none => exact absurd (sim.walk_left_of_stop_none _ _ hstop) h
  | some stop =>
    cases stop with
    | cancelled => exact .inl (by simp [Course.summary, hstop])
    | failed =>
      obtain ⟨hset, earlier, last, heq, hall, hlast⟩ := sim.walk_stop_failed _ _ hstop
      have hattempts : (sim.course g plan).attempts = earlier ++ [last] := heq
      have hnone : earlier.filter (!·.succeeded) = [] := by
        simpa [List.filter_eq_nil_iff] using hall
      exact .inr ⟨hset, last.node, by simp [hattempts],
        by simp [Course.summary, hattempts, hnone, hlast]⟩

theorem follow_settles (sim : Simulation) (hg : g.Linked) :
    ∀ n ∈ (sim.follow g g.plan).graph.nodes, (sim.follow g g.plan).summary.Settles n := by
  obtain ⟨run, hgraph, hmark, hleft, hout⟩ := follow_graph sim hg
  intro n hn
  rw [hgraph] at hn
  obtain ⟨n₀, hn₀, rfl⟩ := List.mem_map.mp hn
  have hnodes := course_nodes sim g g.plan
  refine Summary.settles_of ?_ ?_ ?_ ?_
  · have hall : n₀.id ∈ g.plan.order ++ g.plan.blocked :=
      (Graph.plan_perm hg).mem_iff.mpr (List.mem_map.mpr ⟨n₀, hn₀, rfl⟩)
    have hattempted := Course.attempted_perm (sim.course g g.plan) g.plan.blocked
    rw [← hnodes, List.mem_append, List.mem_append, ← hattempted.mem_iff, List.mem_append] at hall
    obtain ((h | h) | h) | h := hall
    · exact .inl h
    · exact .inr (.inl h)
    · exact .inr (.inr (List.mem_append_right _ h))
    · exact .inr (.inr (List.mem_append_left _ h))
  · intro h
    obtain ⟨a, ha, hok, hid⟩ := (Course.mem_executed _ _ _).mp h
    have hrun : run n₀.id = a.mark := hid ▸ hmark a ha
    simpa [Node.status, Node.setRun, hrun] using Attempt.mark_of_succeeded hok
  · intro h
    obtain ⟨a, ha, hok, hid⟩ := (Course.mem_failed _ _ _).mp h
    have hrun : run n₀.id = a.mark := hid ▸ hmark a ha
    simpa [Node.status, Node.setRun, hrun] using Attempt.mark_of_failed hok
  · intro h
    obtain h | h := List.mem_append.mp h
    · exact hout _ (disjoint_of_mem_blocked hg _ h)
    · exact hleft _ h

/-- Every node stands in one list of the summary: the first `k` nodes of the order have been
executed or have failed, the others are skipped, and each is in the state that its list says. A run
leaves nodes of the order out only when it is cancelled or stops at its one failure. -/
theorem run_accounts (hg : g.Linked) (h : sim.run g = .ok r) :
    (r.summary.executed ++ r.summary.failed ++ r.summary.skipped).Perm g.nodeIds ∧
    (∃ k ≤ g.plan.order.length,
      (r.summary.executed ++ r.summary.failed).Perm (g.plan.order.take k) ∧
      r.summary.executed.Sublist (g.plan.order.take k) ∧
      r.summary.failed.Sublist (g.plan.order.take k) ∧
      r.summary.skipped = g.plan.blocked ++ g.plan.order.drop k ∧
      (k < g.plan.order.length → r.summary.cancelled = true ∨ sim.settings.onError = .stop ∧
        ∃ id, (g.plan.order.take k).getLast? = some id ∧ r.summary.failed = [id])) ∧
    r.graph.clear = g.clear ∧
    (∀ n ∈ r.graph.nodes, r.summary.Settles n) ∧
    ∀ e ∈ r.graph.edges, e.animated = false := by
  obtain rfl := run_eq_follow h
  obtain ⟨run, hgraph, -⟩ := follow_graph sim hg
  have hattempted := Course.attempted_perm (sim.course g g.plan) g.plan.blocked
  have htake := attempts_eq_take sim g g.plan
  have hdrop := left_eq_drop sim g g.plan
  refine ⟨?_, ⟨(sim.course g g.plan).attempts.length, ?_, ?_, ?_, ?_, ?_, ?_⟩, ?_,
    follow_settles sim hg, ?_⟩
  · have hrest : ((sim.course g g.plan).attempts.map (·.node) ++
        (g.plan.blocked ++ (sim.course g g.plan).left)).Perm g.nodeIds := by
      refine (List.perm_append_comm.append_left _).trans ?_
      rw [← List.append_assoc, course_nodes]
      exact Graph.plan_perm hg
    exact (hattempted.append_right _).trans hrest
  · have hlen := congrArg List.length (course_nodes sim g g.plan)
    simp only [List.length_append, List.length_map] at hlen
    omega
  · exact htake ▸ hattempted
  · exact htake ▸ Course.executed_sublist _ _
  · exact htake ▸ Course.failed_sublist _ _
  · exact congrArg (g.plan.blocked ++ ·) hdrop
  · intro hk
    rw [← htake]
    refine stops_early sim g g.plan ?_
    rw [hdrop]
    exact fun hnil => by simp at hnil; omega
  · rw [hgraph, Graph.clear_eq_marked, Graph.marked_marked, Graph.clear_eq_marked]
  · intro e he
    rw [hgraph] at he
    obtain ⟨e₀, _, rfl⟩ := List.mem_map.mp he
    rfl

theorem run_accounts_row : ∃ r, (rowRun .stop).run row = .ok r ∧ row.Linked ∧
    r.summary = { executed := ["first"], failed := ["second"], skipped := ["loop", "third"] } ∧
    (r.summary.executed ++ r.summary.failed ++ r.summary.skipped).Perm row.nodeIds ∧
    (∃ k ≤ row.plan.order.length,
      (r.summary.executed ++ r.summary.failed).Perm (row.plan.order.take k) ∧
      r.summary.executed.Sublist (row.plan.order.take k) ∧
      r.summary.failed.Sublist (row.plan.order.take k) ∧
      r.summary.skipped = row.plan.blocked ++ row.plan.order.drop k ∧
      (k < row.plan.order.length → r.summary.cancelled = true ∨
        (rowRun .stop).settings.onError = .stop ∧
          ∃ id, (row.plan.order.take k).getLast? = some id ∧ r.summary.failed = [id])) ∧
    r.graph.clear = row.clear ∧
    (∀ n ∈ r.graph.nodes, r.summary.Settles n) ∧
    ∀ e ∈ r.graph.edges, e.animated = false :=
  ⟨_, run_of_skip rfl, row_linked, by decide, run_accounts row_linked (run_of_skip rfl)⟩

end Simulation
end WorkflowCanvas
