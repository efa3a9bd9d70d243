import WorkflowCanvas.Proofs.Run.Calm
import WorkflowCanvas.Proofs.Run.Dataflow
import WorkflowCanvas.Proofs.Run.Log

/-! The two ways to handle errors, compared. A run that stops at the first failure does what a run
that carries on does up to there, and leaves in the nodes that it has come to what the other leaves. -/
namespace WorkflowCanvas

/-- The summary of a course to the end of its plan, in which nothing failed. -/
theorem Course.summary_of_all (c : Course) (blocked : List String)
    (hok : ∀ a ∈ c.attempts, a.succeeded = true) (hstop : c.stop = none) (hleft : c.left = []) :
    c.summary blocked =
      { execution := c.execution, executed := c.attempts.map (·.node), skipped := blocked,
        millis := c.time } := by
  have hfailed : c.attempts.filter (!·.succeeded) = [] := by
    simpa [List.filter_eq_nil_iff] using hok
  simp [summary, List.filter_eq_self.mpr hok, hfailed, hstop, hleft]

/-- Attempts of one node that get the same input and end in the same way. -/
structure Attempt.Alike (a b : Attempt) : Prop where
  node : a.node = b.node
  input : a.told.map (·.input) = b.told.map (·.input)
  result : a.result = b.result

namespace Attempt.Alike
variable {a b : Attempt}

theorem mark (h : a.Alike b) : a.mark = b.mark := by
  simp only [Attempt.mark, h.result, h.input]

theorem succeeded (h : a.Alike b) : a.succeeded = b.succeeded := by
  simp only [Attempt.succeeded, h.result]

theorem nodes {attempts others : List Attempt} (h : List.Forall₂ Attempt.Alike attempts others) :
    attempts.map (·.node) = others.map (·.node) := by
  rw [← List.forall₂_eq_eq_eq, List.forall₂_map_left_iff, List.forall₂_map_right_iff]
  exact h.imp fun _ _ halike => halike.node

theorem exists_of_mem {attempts others : List Attempt}
    (h : List.Forall₂ Attempt.Alike attempts others) (ha : a ∈ attempts) :
    ∃ b ∈ others, a.Alike b := by
  induction h with
  | nil => cases ha
  | cons halike _ ih =>
    obtain rfl | ha := List.mem_cons.mp ha
    · exact ⟨_, List.mem_cons_self, halike⟩
    · obtain ⟨b, hb, hab⟩ := ih ha
      exact ⟨b, List.mem_cons_of_mem _ hb, hab⟩

end Attempt.Alike

/-- The attempts up to the first that fails. -/
def upToFailure : List Attempt → List Attempt
  | [] => []
  | a :: attempts => if a.succeeded then a :: upToFailure attempts else [a]

theorem upToFailure_of_all {attempts : List Attempt} (h : ∀ a ∈ attempts, a.succeeded = true) :
    upToFailure attempts = attempts := by
  induction attempts with
  | nil => rfl
  | cons a attempts ih =>
    rw [upToFailure, if_pos (h a List.mem_cons_self),
      ih fun b hb => h b (List.mem_cons_of_mem a hb)]

theorem upToFailure_sublist (attempts : List Attempt) : (upToFailure attempts).Sublist attempts := by
  induction attempts with
  | nil => exact .slnil
  | cons a attempts ih =>
    rw [upToFailure]
    split
    · exact ih.cons_cons a
    · exact (List.nil_sublist attempts).cons_cons a

/-- The nodes up to the first failure: those before it, and the one that fails. -/
theorem upToFailure_nodes {attempts : List Attempt} (hnodup : (attempts.map (·.node)).Nodup)
    {first : String} {later : List String}
    (h : (attempts.filter (!·.succeeded)).map (·.node) = first :: later) (behind : List String) :
    (upToFailure attempts).map (·.node) =
      (attempts.map (·.node) ++ behind).takeWhile (· != first) ++ [first] := by
  induction attempts with
  | nil => cases h
  | cons a attempts ih =>
    cases hok : a.succeeded with
    | false =>
      rw [List.filter_cons_of_pos (by simp [hok]), List.map_cons] at h
      obtain ⟨rfl, -⟩ := List.cons.inj h
      simp [upToFailure, hok]
    | true =>
      rw [List.filter_cons_of_neg (by simp [hok])] at h
      obtain ⟨hnew, hrest⟩ := List.nodup_cons.mp hnodup
      have hne : a.node ≠ first := by
        rintro rfl
        have hmem : a.node ∈ (attempts.filter (!·.succeeded)).map (·.node) := by simp [h]
        exact hnew ((List.filter_sublist.map _).subset hmem)
      simp [upToFailure, hok, hne, ih hrest h]

/-- Whether the mock fails at a node of the graph. -/
def Mock.failsIn (m : Mock) (g : Graph) (id : String) : Bool :=
  m.failingNodes.contains id || (g.node? id).any (m.failingTypes.contains ·.type)

namespace Simulation
variable {sim : Simulation} {chance chance' : Nat → Nat} {g : Graph} {id : String}
  {ids rest : List String} {run : String → RunState} {p q : Progress}

/-- The simulation with another way to handle errors, and with other random numbers. -/
def handling (sim : Simulation) (onError : ErrorHandling) (chance : Nat → Nat) : Simulation :=
  { sim with settings := { sim.settings with onError }, chance }

/-- Random numbers under which all steps have the same results, though not always the same delays. -/
def Indifferent (sim : Simulation) (chance chance' : Nat → Nat) : Prop :=
  ∀ (told : StepContext) (start start' count : Nat),
    (sim.naturalEnd start (sim.executor { told with chance := chance count })).result =
      (sim.naturalEnd start' (sim.executor { told with chance := chance' count })).result

/-- The random numbers do not matter for the results of steps, and nobody cancels. -/
structure Comparable (sim : Simulation) (chance chance' : Nat → Nat) : Prop where
  never : sim.cancellation = .never
  no_cancels : ∀ told, (sim.executor told).cancels = false
  indifferent : sim.Indifferent chance chance'

/-! ### Steps -/

/-- Where both walks have left the same graph, a node is attempted alike in both. -/
theorem Comparable.attempt (h : sim.Comparable chance chance') (hp : Ready g (id :: rest) run p)
    (hgraph : q.graph = p.graph) (hcount : q.attempts = p.attempts)
    (onError onError' : ErrorHandling) : ((sim.handling onError' chance').attempt q id).Alike
      ((sim.handling onError chance).attempt p id) := by
  obtain ⟨n, hn⟩ := Option.isSome_iff_exists.mp hp.node?_isSome
  rw [attempt_of_found _ hn, attempt_of_found _ (hgraph ▸ hn)]
  let told := sim.context p n (p.graph.mergedInput n.id sim.input)
  have hbefore : ((sim.handling onError chance).attemptNode p n).result =
      (sim.naturalEnd p.time (sim.executor { told with chance := chance p.attempts })).result := by
    rw [← ending_of_never h.never]
    rfl
  have hafter : ((sim.handling onError' chance').attemptNode q n).result =
      (sim.naturalEnd q.time (sim.executor { told with chance := chance' p.attempts })).result := by
    rw [← ending_of_never h.never, ← hcount]
    simp only [attemptNode, hgraph]
    rfl
  refine ⟨rfl, ?_, ?_⟩
  · simp only [attemptNode, hgraph]
    rfl
  · rw [hafter, hbefore]
    exact (h.indifferent told p.time q.time p.attempts).symm

/-! ### Walks -/

/-- A walk begins with its first node, and comes to the others if that is not its last. -/
theorem walk_attempts (hnever : sim.cancellation = .never) (hgoing : p.cancelled = false) :
    (sim.walk (id :: rest) p).attempts = sim.attempt p id ::
      if (sim.attempt p id).stop? sim.settings.onError = none then
        (sim.walk rest (sim.attempt p id).after).attempts
      else [] := by
  have hgoes := going_of_never sim hnever hgoing
  cases hstop : (sim.attempt p id).stop? sim.settings.onError with
  | none => rw [(sim.walk_next rest hgoes).2 hstop, if_pos rfl]
  | some stop => rw [(sim.walk_next rest hgoes).1 stop hstop, if_neg (by simp)]

/-- Up to the first failure both walks do the same. -/
theorem Comparable.walk (h : sim.Comparable chance chance') (hp : Ready g ids run p)
    (hq : Ready g ids run q) (hcount : q.attempts = p.attempts) (hpgoing : p.cancelled = false)
    (hqgoing : q.cancelled = false) :
    List.Forall₂ Attempt.Alike ((sim.handling .stop chance').walk ids q).attempts
      (upToFailure ((sim.handling .carryOn chance).walk ids p).attempts) := by
  -- As long as their attempts are alike, both walks have left the same marks in the graph.
  induction ids generalizing run p q with
  | nil => exact .nil
  | cons id rest ih =>
    have halike := h.attempt hp (hq.graph.trans hp.graph.symm) hcount .carryOn .stop
    have hnever : ∀ onError draw, (sim.handling onError draw).cancellation = .never :=
      fun _ _ => h.never
    rw [walk_attempts (hnever _ _) hpgoing, walk_attempts (hnever _ _) hqgoing, upToFailure]
    cases hok : ((sim.handling .carryOn chance).attempt p id).succeeded with
    | false =>
      have hlast : ((sim.handling .stop chance').attempt q id).stop?
          (sim.handling .stop chance').settings.onError ≠ none := by
        intro hnone
        rw [← halike.succeeded, Attempt.succeeded_of_stop?_none hnone] at hok
        cases hok
      rw [if_neg hlast, if_neg Bool.false_ne_true]
      exact .cons halike .nil
    | true =>
      rw [if_pos (Attempt.stop?_of_succeeded hok _), if_pos rfl,
        if_pos (Attempt.stop?_of_succeeded (halike.succeeded.trans hok) _)]
      have hnext := hq.next (sim.handling .stop chance')
      rw [halike.mark] at hnext
      refine .cons halike (ih (hp.next _) hnext ?_ ?_ ?_)
      · rw [hq.attempt_count, hp.attempt_count, hcount]
      · exact hp.attempt_going h.never h.no_cancels hpgoing
      · exact hq.attempt_going h.never h.no_cancels hqgoing

/-- With the same random numbers, a walk in which nothing fails does not depend on the handling. -/
theorem walk_handling (onError onError' : ErrorHandling) (ids : List String) (p : Progress)
    (h : ∀ a ∈ ((sim.handling onError chance).walk ids p).attempts, a.succeeded = true) :
    (sim.handling onError' chance).walk ids p = (sim.handling onError chance).walk ids p := by
  fun_induction Simulation.walk (sim.handling onError chance) ids p with
  | case1 => rfl
  | case2 id rest p hstop =>
    rw [walk]
    exact if_pos hstop
  | case3 id rest p _ a stop ha =>
    rw [Attempt.stop?_of_succeeded (h a List.mem_cons_self)] at ha
    cases ha
  | case4 id rest p hgo a _ course ih =>
    have hnone : ((sim.handling onError' chance).attempt p id).stop?
        (sim.handling onError' chance).settings.onError = none :=
      Attempt.stop?_of_succeeded (h a List.mem_cons_self) onError'
    have hrest : (sim.handling onError' chance).walk rest
        ((sim.handling onError' chance).attempt p id).after = course :=
      ih fun b hb => h b (List.mem_cons_of_mem a hb)
    rw [walk]
    simp only [hnone, hrest]
    exact if_neg hgo

/-! ### Runs -/

/-- Attempts alike in two runs leave the same in the graph. -/
theorem follow_node?_congr {sim' : Simulation} (hg : g.Linked) {a b : Attempt}
    (ha : a ∈ (sim.course g g.plan).attempts) (hb : b ∈ (sim'.course g g.plan).attempts)
    (h : a.Alike b) :
    (sim.follow g g.plan).graph.node? a.node = (sim'.follow g g.plan).graph.node? a.node := by
  obtain ⟨run, hgraph, hmark, -⟩ := follow_graph sim hg
  obtain ⟨run', hgraph', hmark', -⟩ := follow_graph sim' hg
  have hsame : run a.node = run' a.node := by
    rw [hmark a ha, h.mark, h.node, hmark' b hb]
  simp only [hgraph, hgraph', g.node?_marked, hsame]

/-- Runs that attempt all nodes, and each of them alike, leave the same graph. -/
theorem follow_graph_congr {sim' : Simulation} (hg : g.Linked)
    (h : List.Forall₂ Attempt.Alike (sim.course g g.plan).attempts (sim'.course g g.plan).attempts)
    (hall : (sim.course g g.plan).attempts.map (·.node) = g.plan.order) :
    (sim.follow g g.plan).graph = (sim'.follow g g.plan).graph := by
  obtain ⟨run, hgraph, hmark, -, hout⟩ := follow_graph sim hg
  obtain ⟨run', hgraph', hmark', -, hout'⟩ := follow_graph sim' hg
  have hsame : run = run' := by
    funext id
    by_cases hid : id ∈ g.plan.order
    · rw [← hall] at hid
      obtain ⟨a, ha, rfl⟩ := List.mem_map.mp hid
      obtain ⟨b, hb, halike⟩ := Attempt.Alike.exists_of_mem h ha
      rw [hmark a ha, halike.mark, halike.node, hmark' b hb]
    · rw [hout id hid, hout' id hid]
  rw [hgraph, hgraph', hsame]

theorem Comparable.course (h : sim.Comparable chance chance') (hg : g.Linked) :
    List.Forall₂ Attempt.Alike ((sim.handling .stop chance').course g g.plan).attempts
      (upToFailure ((sim.handling .carryOn chance).course g g.plan).attempts) :=
  h.walk (opening_ready hg) (opening_ready hg) rfl rfl rfl

/-- A run that carries on comes to all nodes of its order, unless a step says it was cancelled. -/
theorem Comparable.carryOn_nodes (h : sim.Comparable chance chance') (hg : g.Linked)
    (hall : ∀ a ∈ ((sim.handling .carryOn chance).course g g.plan).attempts,
      a.result ≠ .error .cancelled) :
    ((sim.handling .carryOn chance).course g g.plan).attempts.map (·.node) = g.plan.order ∧
    ((sim.handling .carryOn chance).course g g.plan).stop = none := by
  have hstop : ((sim.handling .carryOn chance).course g g.plan).stop = none :=
    (opening_ready hg).walk_through h.never h.no_cancels rfl fun a ha =>
      Attempt.stop?_carryOn (hall a ha)
  exact ⟨course_nodes_of_stop_none _ hstop, hstop⟩

/-- The mock executor fails at the nodes that it was told of, whatever the random numbers are. -/
theorem Ready.walk_mock {m : Mock} (h : Ready g ids run p) (hexecutor : sim.executor = m.execute)
    (htimeout : sim.settings.stepTimeout = none) (hnever : sim.cancellation = .never) :
    ∀ a ∈ (sim.walk ids p).attempts,
      a.succeeded = !m.failsIn g a.node ∧ a.result ≠ .error .cancelled := by
  intro a ha
  obtain ⟨before, told, e, hattempted⟩ := h.walk_attempted sim a ha
  obtain ⟨n, hn, htype⟩ := hattempted.type_eq
  have hfails : m.failsIn g a.node = m.fails told := by
    simp only [Mock.failsIn, Mock.fails, hn, hattempted.node_eq, htype, Option.any_some]
  have hresult : a.result = (m.execute told).outcome false := by
    rw [hattempted.result_eq, hattempted.ending_eq, ending_of_never hnever, hexecutor]
    rw [naturalEnd_of_le (by simp [htimeout])]
    rfl
  rw [Attempt.succeeded, hfails, hresult]
  simp only [Mock.execute]
  cases m.fails told <;> simp

theorem Comparable.of_mock {m : Mock} (hexecutor : sim.executor = m.execute)
    (htimeout : sim.settings.stepTimeout = none) (hnever : sim.cancellation = .never) :
    sim.Comparable chance chance' where
  never := hnever
  no_cancels told := by
    rw [hexecutor]
    rfl
  indifferent told start start' count := by
    rw [hexecutor, naturalEnd_of_le (by simp [htimeout]), naturalEnd_of_le (by simp [htimeout])]
    rfl

/-- The run that stops comes to the nodes up to the first that fails in the other. -/
theorem Comparable.stop_nodes (h : sim.Comparable chance chance') (hg : g.Linked) {first : String}
    {later : List String}
    (hfailed : ((sim.handling .carryOn chance).follow g g.plan).summary.failed = first :: later) :
    ((sim.handling .stop chance').follow g g.plan).attempts.map (·.node) =
      g.plan.order.takeWhile (· != first) ++ [first] := by
  have hnodes := course_nodes (sim.handling .carryOn chance) g g.plan
  have hnodup : (((sim.handling .carryOn chance).course g g.plan).attempts.map (·.node)).Nodup :=
    (List.prefix_append _ _).sublist.nodup (hnodes ▸ Graph.plan_order_nodup hg)
  rw [← hnodes, ← upToFailure_nodes hnodup hfailed]
  exact Attempt.Alike.nodes (h.course hg)

theorem Comparable.stop_graph (h : sim.Comparable chance chance') (hg : g.Linked) {id : String}
    (hid : id ∈ ((sim.handling .stop chance').follow g g.plan).attempts.map (·.node)) :
    ∃ n, ((sim.handling .stop chance').follow g g.plan).graph.node? id = some n ∧
      ((sim.handling .carryOn chance).follow g g.plan).graph.node? id = some n := by
  obtain ⟨a, ha, rfl⟩ := List.mem_map.mp hid
  obtain ⟨b, hb, halike⟩ := Attempt.Alike.exists_of_mem (h.course hg) ha
  obtain ⟨n, hn, -⟩ := follow_node? (sim.handling .stop chance') hg ha
  refine ⟨n, hn, ?_⟩
  rw [← follow_node?_congr hg ha ((upToFailure_sublist _).subset hb) halike, hn]

theorem Comparable.stop_through (h : sim.Comparable chance chance') (hg : g.Linked)
    (hok : ∀ a ∈ ((sim.handling .carryOn chance).course g g.plan).attempts, a.succeeded = true) :
    List.Forall₂ Attempt.Alike ((sim.handling .stop chance').course g g.plan).attempts
      ((sim.handling .carryOn chance).course g g.plan).attempts ∧
    (∀ a ∈ ((sim.handling .stop chance').course g g.plan).attempts, a.succeeded = true) ∧
    ((sim.handling .stop chance').course g g.plan).stop = none := by
  have halike := h.course hg
  rw [upToFailure_of_all hok] at halike
  have hok' : ∀ a ∈ ((sim.handling .stop chance').course g g.plan).attempts,
      a.succeeded = true := by
    intro a ha
    obtain ⟨b, hb, hab⟩ := Attempt.Alike.exists_of_mem halike ha
    exact hab.succeeded.trans (hok b hb)
  exact ⟨halike, hok', (opening_ready hg).walk_through h.never h.no_cancels rfl fun a ha =>
    Attempt.stop?_of_succeeded (hok' a ha) _⟩

/-- If nothing fails, the run that stops at a failure does all that the other does. -/
theorem Comparable.follow_agree (h : sim.Comparable chance chance') (hg : g.Linked)
    (hfailed : ((sim.handling .carryOn chance).follow g g.plan).summary.failed = []) :
    ((sim.handling .stop chance').follow g g.plan).attempts.map (·.node) = g.plan.order ∧
    ((sim.handling .stop chance').follow g g.plan).graph =
      ((sim.handling .carryOn chance).follow g g.plan).graph ∧
    ((sim.handling .stop chance').follow g g.plan).summary =
      { ((sim.handling .carryOn chance).follow g g.plan).summary with
        millis := ((sim.handling .stop chance').follow g g.plan).summary.millis } ∧
    (sim.handling .stop chance).follow g g.plan =
      (sim.handling .carryOn chance).follow g g.plan := by
  have hok : ∀ a ∈ ((sim.handling .carryOn chance).course g g.plan).attempts,
      a.succeeded = true := by
    have hnone := List.filter_eq_nil_iff.mp (List.map_eq_nil_iff.mp hfailed)
    simpa using hnone
  obtain ⟨hnodes, hstop⟩ := h.carryOn_nodes hg fun a ha hresult => by
    simpa [Attempt.succeeded, hresult] using hok a ha
  obtain ⟨halike, hok', hstop'⟩ := h.stop_through hg hok
  have hnodes' := course_nodes_of_stop_none _ hstop'
  refine ⟨hnodes', follow_graph_congr hg halike hnodes', ?_, ?_⟩
  · have hsummary :=
      Course.summary_of_all _ g.plan.blocked hok hstop (walk_left_of_stop_none _ _ _ hstop)
    have hsummary' :=
      Course.summary_of_all _ g.plan.blocked hok' hstop' (walk_left_of_stop_none _ _ _ hstop')
    have hexecution : ∀ sim : Simulation, (sim.course g g.plan).execution = sim.execution :=
      fun sim => walk_execution sim _ _
    simp only [follow, hsummary, hsummary', hnodes, hnodes', hexecution]
    rfl
  · have hcourse : (sim.handling .stop chance).course g g.plan =
        (sim.handling .carryOn chance).course g g.plan := walk_handling _ _ _ _ hok
    simp only [follow, script, hcourse]

/-- Stopping at the first failure, or carrying on. From the same graph the run that carries on comes
to every node of its order, unless a step says that it was cancelled; the run that stops comes to those
up to the first that fails, and leaves each of these as the other run does. If nothing fails the two
are one run. The mock executor fails where it was told to. -/
theorem handling_compared {r : Run} (hg : g.Linked) (h : sim.Comparable chance chance')
    (hr : (sim.handling .carryOn chance).run g = .ok r) :
    ((∀ a ∈ r.attempts, a.result ≠ .error .cancelled) →
      r.attempts.map (·.node) = g.plan.order) ∧
    (∃ s, (sim.handling .stop chance').run g = .ok s ∧
      (∀ first later, r.summary.failed = first :: later →
        s.attempts.map (·.node) = g.plan.order.takeWhile (· != first) ++ [first]) ∧
      (r.summary.failed = [] → s.attempts.map (·.node) = g.plan.order ∧ s.graph = r.graph ∧
        s.summary = { r.summary with millis := s.summary.millis } ∧
        (sim.handling .stop chance).run g = .ok r) ∧
      ∀ id ∈ s.attempts.map (·.node), ∃ n, s.graph.node? id = some n ∧ r.graph.node? id = some n) ∧
    ∀ m : Mock, sim.executor = m.execute → sim.settings.stepTimeout = none →
      r.summary.failed = g.plan.order.filter (m.failsIn g) ∧
      r.summary.executed = g.plan.order.filter (!m.failsIn g ·) := by
  obtain rfl := run_eq_follow hr
  refine ⟨fun hall => (h.carryOn_nodes hg hall).1, ⟨_, follow_of_run hr rfl,
    fun first later hfailed => h.stop_nodes hg hfailed, fun hfailed => ?_,
    fun id hid => h.stop_graph hg hid⟩, fun m hexecutor htimeout => ?_⟩
  · obtain ⟨hnodes, hgraph, hsummary, hsame⟩ := h.follow_agree hg hfailed
    exact ⟨hnodes, hgraph, hsummary, hsame ▸ follow_of_run hr rfl⟩
  · have hmock : ∀ a ∈ ((sim.handling .carryOn chance).course g g.plan).attempts,
        a.succeeded = (!m.failsIn g a.node) ∧ a.result ≠ .error .cancelled :=
      (opening_ready hg).walk_mock hexecutor htimeout h.never
    obtain ⟨hnodes, -⟩ := h.carryOn_nodes hg fun a ha => (hmock a ha).2
    obtain ⟨hexecuted, hfailed⟩ := Attempt.nodes_of_fails fun a ha => (hmock a ha).1
    rw [← hnodes]
    exact ⟨hfailed, hexecuted⟩

/-- A run in which a node fails, and all nodes of a type; its delays are drawn. -/
def faulty : Simulation where
  registry := {}
  executor := Mock.execute
    { Mock.between 2 5 with failingNodes := ["second"], failingTypes := ["output"] }
  settings := {}
  input := .obj []

theorem handling_compared_row : ∃ r s,
    (faulty.handling .carryOn fun _ => 0).run row = .ok r ∧
    (faulty.handling .stop fun attempts => attempts).run row = .ok s ∧ row.Linked ∧
    faulty.Comparable (fun _ => 0) (fun attempts => attempts) ∧
    r.attempts.map (·.node) = ["first", "second", "third"] ∧
    r.summary.failed = ["second", "third"] ∧ r.summary.executed = ["first"] ∧
    s.attempts.map (·.node) = ["first", "second"] ∧
    ∀ id ∈ s.attempts.map (·.node), ∃ n, s.graph.node? id = some n ∧ r.graph.node? id = some n := by
  have hrun : (faulty.handling .carryOn fun _ => 0).run row =
      .ok ((faulty.handling .carryOn fun _ => 0).follow row row.plan) := run_of_skip rfl
  have hcomparable : faulty.Comparable (fun _ => 0) (fun attempts => attempts) :=
    .of_mock rfl rfl rfl
  obtain ⟨hall, ⟨s, hs, hstop, -, hsame⟩, hmock⟩ := handling_compared row_linked hcomparable hrun
  obtain ⟨hfailed, hexecuted⟩ := hmock _ rfl rfl
  have hnodes := hall fun a ha => ((opening_ready row_linked).walk_mock rfl rfl rfl a ha).2
  have hsecond : ((faulty.handling .carryOn fun _ => 0).follow row row.plan).summary.failed =
      ["second", "third"] := hfailed.trans (by decide)
  exact ⟨_, s, hrun, hs, row_linked, hcomparable, hnodes.trans (by decide), hsecond,
    hexecuted.trans (by decide), (hstop "second" ["third"] hsecond).trans (by decide), hsame⟩

end Simulation
end WorkflowCanvas
