import WorkflowCanvas.Proofs.Run.Handling

/-! Where a cancelled run stops. If all steps take the same time, the moment of the cancellation tells
which step is in flight then: it is cut off, and the run ends with it. -/
namespace WorkflowCanvas

/-- A run of a graph that is cut off after `c` milliseconds, with `k` steps behind it, beside the run
`r` that is not. In both the given nodes fail. -/
structure Run.CutOff (s r : Run) (g : Graph) (fails : String → Bool) (k c : Nat) : Prop where
  attempted : s.attempts.map (·.node) = g.plan.order.take (k + 1)
  executed : s.summary.executed = (g.plan.order.take k).filter (!fails ·)
  failed : ∃ last, g.plan.order[k]? = some last ∧
    s.summary.failed = (g.plan.order.take k).filter fails ++ [last] ∧
    ∃ n, s.graph.node? last = some n ∧ n.status = .error ∧ n.data.run.lastError = some "Cancelled"
  earlier : ∀ id ∈ g.plan.order.take k, ∃ n, s.graph.node? id = some n ∧ r.graph.node? id = some n
  skipped : s.summary.skipped = g.plan.blocked ++ g.plan.order.drop (k + 1)
  later : ∀ id ∈ g.plan.order.drop (k + 1), ∃ n, s.graph.node? id = some n ∧ n.status = .idle
  cancelled : s.summary.cancelled = true
  success : s.summary.success = false
  millis : s.summary.millis = c

namespace Simulation
variable {sim : Simulation} {g : Graph} {id : String} {ids rest : List String}
  {run : String → RunState} {p : Progress} {c d k : Nat}

/-- The simulation with another moment at which the user cancels it. -/
def cancelling (sim : Simulation) (cancellation : Cancellation) : Simulation :=
  { sim with cancellation }

/-- Every step takes the same time and none of them cancels, so that a run goes on to its end unless
the user cancels it. -/
structure Paced (sim : Simulation) (d : Nat) : Prop where
  carries_on : sim.settings.onError = .carryOn
  no_timeout : sim.settings.stepTimeout = none
  delay : ∀ told, (sim.executor told).delay = d
  no_cancels : ∀ told, (sim.executor told).cancels = false
  answers : ∀ told, (sim.executor told).outcome false ≠ .error .cancelled

/-! ### Steps -/

/-- A cancellation that comes after the end of a step makes no difference to it. -/
theorem ending_cancelling {start : Nat} {step : Step} (h : (sim.naturalEnd start step).time ≤ c) :
    (sim.cancelling (.after c)).ending start step = (sim.cancelling .never).ending start step := by
  have hlate : (sim.cancelling (.after c)).ending start step =
      (sim.cancelling (.after c)).naturalEnd start step := by
    refine ending_of_le fun moment hmoment => ?_
    obtain rfl := Cancellation.after.inj hmoment
    exact h
  have hnever : (sim.cancelling .never).ending start step =
      (sim.cancelling .never).naturalEnd start step := ending_of_never rfl start step
  exact hlate.trans hnever.symm

theorem going_of_le (hgoing : p.cancelled = false) (hc : p.time ≤ c) :
    (p.cancelled || Cancellation.reached (.after c) p.time) = false := by
  simpa [hgoing, Cancellation.reached] using hc

namespace Paced

theorem of_mock {m : Mock} (hexecutor : sim.executor = m.execute) (hmin : m.minDelay = d)
    (hmax : m.maxDelay = d) (htimeout : sim.settings.stepTimeout = none)
    (honError : sim.settings.onError = .carryOn) : sim.Paced d where
  carries_on := honError
  no_timeout := htimeout
  delay told := by
    rw [hexecutor]
    simp [Mock.execute, Mock.delay, hmin, hmax, Nat.mod_one]
  no_cancels told := by
    rw [hexecutor]
    rfl
  answers told := by
    rw [hexecutor]
    simp only [Mock.execute]
    split <;> simp

theorem naturalEnd (h : sim.Paced d) (start : Nat) (told : StepContext) :
    (sim.naturalEnd start (sim.executor told)).time = start + d ∧
    (sim.naturalEnd start (sim.executor told)).result ≠ .error .cancelled := by
  have hle : ∀ timeout, sim.settings.stepTimeout = some timeout →
      (sim.executor told).delay ≤ timeout := by
    simp [h.no_timeout]
  rw [naturalEnd_of_le hle, h.delay, h.no_cancels]
  exact ⟨rfl, h.answers told⟩

theorem attempt_late (h : sim.Paced d) (hc : p.time + d ≤ c) (id : String) :
    (sim.cancelling (.after c)).attempt p id = (sim.cancelling .never).attempt p id := by
  have hending : ∀ told, (sim.cancelling (.after c)).ending p.time (sim.executor told) =
      (sim.cancelling .never).ending p.time (sim.executor told) :=
    fun told => ending_cancelling ((h.naturalEnd p.time told).1.trans_le hc)
  cases hn : p.graph.node? id with
  | none => simp only [attempt, hn]
  | some n =>
    rw [attempt_of_found _ hn, attempt_of_found _ hn, attemptNode, attemptNode]
    simp only [context, show (sim.cancelling (.after c)).executor = sim.executor from rfl, hending]
    rfl

/-- Without a cancellation a step takes its time, and the run goes on. -/
theorem attempt_never (h : sim.Paced d) (hready : Ready g (id :: rest) run p) :
    ((sim.cancelling .never).attempt p id).after.time = p.time + d ∧
    ((sim.cancelling .never).attempt p id).after.cancelled = p.cancelled ∧
    ((sim.cancelling .never).attempt p id).stop? .carryOn = none := by
  obtain ⟨told, e, ha⟩ := hready.attempted (sim.cancelling .never)
  obtain ⟨hresult, htime, -, hcancelled⟩ := attempt_after ha.told_eq
  obtain ⟨htaken, hanswer⟩ := h.naturalEnd p.time told
  refine ⟨htime.trans htaken, ?_, Attempt.stop?_carryOn (hresult.trans_ne hanswer)⟩
  rw [hcancelled, ending_of_never rfl]
  exact (congrArg (p.cancelled || ·) (naturalEnd_cancels h.no_cancels p.time told)).trans
    (Bool.or_false _)

theorem attempt_cut (h : sim.Paced d) (hready : Ready g (id :: rest) run p) (hc : c < p.time + d) :
    ((sim.cancelling (.after c)).attempt p id).after.time = c ∧
    ((sim.cancelling (.after c)).attempt p id).result = .error .cancelled := by
  obtain ⟨told, e, ha⟩ := hready.attempted (sim.cancelling (.after c))
  obtain ⟨hresult, htime, -⟩ := attempt_after ha.told_eq
  have hending : (sim.cancelling (.after c)).ending p.time (sim.executor told) = _ :=
    ending_of_lt rfl (hc.trans_eq (h.naturalEnd p.time told).1.symm)
  rw [hresult, htime]
  exact ⟨congrArg (·.time) hending, congrArg (·.result) hending⟩

/-! ### Walks -/

/-- A walk goes on behind a step that ends before the cancellation. -/
theorem walk_on (h : sim.Paced d) (cancellation : Cancellation)
    (hready : Ready g (id :: rest) run p)
    (hgoing : (p.cancelled || cancellation.reached p.time) = false)
    (hsame : (sim.cancelling cancellation).attempt p id = (sim.cancelling .never).attempt p id) :
    (sim.cancelling cancellation).walk (id :: rest) p =
      { (sim.cancelling cancellation).walk rest ((sim.cancelling .never).attempt p id).after with
        attempts := (sim.cancelling .never).attempt p id ::
          ((sim.cancelling cancellation).walk rest
            ((sim.cancelling .never).attempt p id).after).attempts } := by
  have honError : (sim.cancelling cancellation).settings.onError = .carryOn := h.carries_on
  rw [← hsame]
  refine (walk_next _ rest hgoing).2 ?_
  rw [hsame, honError]
  exact (h.attempt_never hready).2.2

/-- A cancellation that comes after the last step does not change anything. -/
theorem walk_late (h : sim.Paced d) (hready : Ready g ids run p) (hgoing : p.cancelled = false)
    (hc : p.time + ids.length * d ≤ c) :
    (sim.cancelling (.after c)).walk ids p = (sim.cancelling .never).walk ids p := by
  induction ids generalizing run p with
  | nil => rfl
  | cons id rest ih =>
    rw [List.length_cons, Nat.succ_mul] at hc
    obtain ⟨htime, hcancelled, -⟩ := h.attempt_never hready
    rw [h.walk_on _ hready (going_of_le hgoing (by omega)) (h.attempt_late (by omega) id),
      h.walk_on .never hready ((sim.cancelling .never).going_of_never rfl hgoing) rfl,
      ih (hready.next _) (hcancelled.trans hgoing) (by omega)]

/-- The step in flight at the cancellation is the last. Those before it are as without cancellation. -/
theorem walk_cut (h : sim.Paced d) (hready : Ready g ids run p) (hgoing : p.cancelled = false)
    (hk : k < ids.length) (hlow : p.time + k * d < c) (hhigh : c < p.time + (k + 1) * d) :
    ∃ a, ids[k]? = some a.node ∧ a.result = .error .cancelled ∧
      (sim.cancelling (.after c)).walk ids p =
        { attempts := ((sim.cancelling .never).walk ids p).attempts.take k ++ [a],
          left := ids.drop (k + 1), stop := some .cancelled, time := c,
          execution := sim.execution } := by
  -- The induction is on the steps before the cut, each of which moves the clock by its delay.
  induction k generalizing ids run p with
  | zero =>
    obtain ⟨id, rest, rfl⟩ := List.exists_cons_of_length_pos hk
    rw [Nat.zero_mul] at hlow
    rw [Nat.zero_add, Nat.one_mul] at hhigh
    obtain ⟨htime, hresult⟩ := h.attempt_cut hready hhigh
    have hstop : ((sim.cancelling (.after c)).attempt p id).stop?
        (sim.cancelling (.after c)).settings.onError = some .cancelled := by
      simp only [Attempt.stop?, hresult]
    refine ⟨_, ?_, hresult, ?_⟩
    · rw [attempt_node]
      rfl
    · rw [(walk_next _ rest (going_of_le hgoing hlow.le)).1 _ hstop, htime]
      rfl
  | succ k ih =>
    obtain ⟨id, rest, rfl⟩ := List.exists_cons_of_length_pos (Nat.zero_lt_of_lt hk)
    obtain ⟨htime, hcancelled, -⟩ := h.attempt_never hready
    rw [Nat.succ_mul] at hlow hhigh
    obtain ⟨a, hnode, hresult, hwalk⟩ := ih (hready.next (sim.cancelling .never))
      (hcancelled.trans hgoing) (Nat.lt_of_succ_lt_succ hk) (by omega) (by omega)
    refine ⟨a, hnode, hresult, ?_⟩
    rw [h.walk_on _ hready (going_of_le hgoing (by omega)) (h.attempt_late (by omega) id),
      h.walk_on .never hready ((sim.cancelling .never).going_of_never rfl hgoing) rfl, hwalk]
    rfl

/-- A walk that nobody cancels goes on to its end. -/
theorem walk_never (h : sim.Paced d) (hready : Ready g ids run p) (hgoing : p.cancelled = false) :
    ((sim.cancelling .never).walk ids p).stop = none := by
  induction ids generalizing run p with
  | nil => rfl
  | cons id rest ih =>
    rw [h.walk_on .never hready ((sim.cancelling .never).going_of_never rfl hgoing) rfl]
    exact ih (hready.next _) ((h.attempt_never hready).2.1.trans hgoing)

end Paced

/-- A run that is cancelled before its start leaves out all of its nodes. -/
theorem walk_before (sim : Simulation) (ids : List String) (p : Progress) :
    (sim.cancelling .before).walk ids p =
      { left := ids, stop := if ids = [] then none else some .cancelled, time := p.time,
        execution := sim.execution } := by
  cases ids with
  | nil => rfl
  | cons id rest =>
    rw [walk, if_pos (by simp [cancelling, Cancellation.reached]), if_neg (List.cons_ne_nil id rest)]
    rfl

/-! ### Runs -/

theorem follow_idle (sim : Simulation) (hg : g.Linked) (hid : id ∈ (sim.course g g.plan).left) :
    ∃ n, (sim.follow g g.plan).graph.node? id = some n ∧ n.status = .idle := by
  obtain ⟨run, hgraph, -, hleft, -⟩ := follow_graph sim hg
  have horder : id ∈ g.plan.order := by
    rw [← course_nodes sim g g.plan]
    exact List.mem_append_right _ hid
  obtain ⟨n, hn, -⟩ := g.node?_isSome ((Graph.mem_plan_order_iff hg id).mp horder).1
  refine ⟨n.setRun fun _ => run id, by rw [hgraph, g.node?_marked, hn]; rfl, ?_⟩
  rw [hleft id hid]
  rfl

theorem Paced.nodes (h : sim.Paced d) (hg : g.Linked) :
    ((sim.cancelling .never).course g g.plan).attempts.map (·.node) = g.plan.order :=
  course_nodes_of_stop_none _ (h.walk_never (opening_ready hg) rfl)

theorem Paced.cutOff (h : sim.Paced d) (hg : g.Linked) {fails : String → Bool}
    (hfails : ∀ a ∈ ((sim.cancelling .never).course g g.plan).attempts, a.succeeded = !fails a.node)
    (hk : k < g.plan.order.length) (hlow : k * d < c) (hhigh : c < (k + 1) * d) :
    ((sim.cancelling (.after c)).follow g g.plan).CutOff
      ((sim.cancelling .never).follow g g.plan) g fails k c := by
  obtain ⟨a, hnode, hresult, hwalk⟩ := h.walk_cut (c := c) (opening_ready hg) rfl hk
    (by simpa using hlow) (by simpa using hhigh)
  let before := ((sim.cancelling .never).course g g.plan).attempts.take k
  have hcourse : (sim.cancelling (.after c)).course g g.plan =
      { attempts := before ++ [a], left := g.plan.order.drop (k + 1), stop := some .cancelled,
        time := c, execution := sim.execution } := hwalk
  have hbefore : before.map (·.node) = g.plan.order.take k := by
    rw [List.map_take, h.nodes hg]
  have hlost : a.succeeded = false := by
    rw [Attempt.succeeded, hresult]
  have hfails' : ∀ b ∈ before, b.succeeded = !fails b.node :=
    fun b hb => hfails b (List.mem_of_mem_take hb)
  obtain ⟨hexecuted, hfailed⟩ := Attempt.nodes_of_fails hfails'
  have hsummary : ((sim.cancelling (.after c)).follow g g.plan).summary =
      { execution := sim.execution, executed := (g.plan.order.take k).filter (!fails ·),
        failed := (g.plan.order.take k).filter fails ++ [a.node],
        skipped := g.plan.blocked ++ g.plan.order.drop (k + 1), cancelled := true, millis := c } := by
    rw [← hbefore, ← hexecuted, ← hfailed]
    simp [follow, hcourse, Course.summary, hlost]
  have hmem : ∀ b ∈ before ++ [a], b ∈ ((sim.cancelling (.after c)).course g g.plan).attempts := by
    rw [hcourse]
    exact fun b hb => hb
  refine ⟨?_, by rw [hsummary], ⟨a.node, hnode, by rw [hsummary], ?_⟩, ?_, by rw [hsummary], ?_,
    by rw [hsummary], ?_, by rw [hsummary]⟩
  · rw [follow, hcourse, List.map_append, hbefore, List.take_add_one, hnode]
    rfl
  · obtain ⟨n, hn, hmark⟩ := follow_node? (sim.cancelling (.after c)) hg (hmem a (by simp))
    refine ⟨n, hn, ?_⟩
    rw [Node.status, hmark, Attempt.mark, hresult]
    exact ⟨rfl, rfl⟩
  · intro id hid
    rw [← hbefore] at hid
    obtain ⟨b, hb, rfl⟩ := List.mem_map.mp hid
    have hboth := hmem b (List.mem_append_left _ hb)
    obtain ⟨n, hn, -⟩ := follow_node? (sim.cancelling (.after c)) hg hboth
    refine ⟨n, hn, ?_⟩
    rw [← hn]
    exact follow_node?_congr hg (List.mem_of_mem_take hb) hboth ⟨rfl, rfl, rfl⟩
  · intro id hid
    refine follow_idle _ hg ?_
    rw [hcourse]
    exact hid
  · simp [hsummary, Summary.success]

/-- Cancelling a run stops it at once. If all steps take the same time, the step in flight is cut off
and is the last, and those before it are as in the run that nobody cancels; a run that is over by then
is not touched. Cancelled before its start, a run takes no step at all. The times fit in 64 bits if those
of all steps together do (`millis_fits`). -/
theorem run_cancelled {r : Run} (hg : g.Linked) (h : (sim.cancelling .never).run g = .ok r) :
    (∃ s, (sim.cancelling .before).run g = .ok s ∧ s.attempts = [] ∧
      s.summary.executed = [] ∧ s.summary.failed = [] ∧
      s.summary.skipped = g.plan.blocked ++ g.plan.order ∧ s.summary.skipped.Perm g.nodeIds ∧
      s.summary.millis = 0 ∧ (s.summary.cancelled = true ↔ g.plan.order ≠ [])) ∧
    ∀ (m : Mock) (d : Nat), sim.executor = m.execute → m.minDelay = d → m.maxDelay = d →
      sim.settings.stepTimeout = none → sim.settings.onError = .carryOn →
      (∀ k c, k < g.plan.order.length → k * d < c → c < (k + 1) * d →
        ∃ s, (sim.cancelling (.after c)).run g = .ok s ∧ s.CutOff r g (m.failsIn g) k c) ∧
      ∀ c, g.plan.order.length * d < c →
        (sim.cancelling (.after c)).run g = .ok r ∧ r.summary.cancelled = false := by
  obtain rfl := run_eq_follow h
  refine ⟨⟨_, follow_of_run h rfl, ?_⟩, fun m d hexecutor hmin hmax htimeout honError => ?_⟩
  · have hcourse : (sim.cancelling .before).course g g.plan =
        { left := g.plan.order, stop := if g.plan.order = [] then none else some .cancelled,
          time := 0, execution := sim.execution } := walk_before sim _ _
    have hsummary : ((sim.cancelling .before).follow g g.plan).summary =
        { execution := sim.execution, skipped := g.plan.blocked ++ g.plan.order,
          cancelled := decide (g.plan.order ≠ []) } := by
      by_cases hempty : g.plan.order = [] <;> simp [follow, hcourse, Course.summary, hempty]
    rw [hsummary]
    refine ⟨congrArg (·.attempts) hcourse, rfl, rfl, rfl, ?_, rfl, decide_eq_true_iff⟩
    exact List.perm_append_comm.trans (Graph.plan_perm hg)
  · have hpaced := Paced.of_mock hexecutor hmin hmax htimeout honError
    have hmock : ∀ a ∈ ((sim.cancelling .never).course g g.plan).attempts,
        a.succeeded = (!m.failsIn g a.node) ∧ a.result ≠ .error .cancelled :=
      (opening_ready hg).walk_mock hexecutor htimeout rfl
    refine ⟨fun k c hk hlow hhigh => ⟨_, follow_of_run h rfl,
      hpaced.cutOff hg (fun a ha => (hmock a ha).1) hk hlow hhigh⟩, fun c hc => ?_⟩
    have hcourse : (sim.cancelling (.after c)).course g g.plan =
        (sim.cancelling .never).course g g.plan :=
      hpaced.walk_late (opening_ready hg) rfl (by simpa using hc.le)
    have hfollow : (sim.cancelling (.after c)).follow g g.plan =
        (sim.cancelling .never).follow g g.plan := by
      simp only [follow, script, hcourse]
    have hstop : ((sim.cancelling .never).course g g.plan).stop = none :=
      hpaced.walk_never (opening_ready hg) rfl
    refine ⟨hfollow ▸ follow_of_run h rfl, ?_⟩
    simp [follow, Course.summary, hstop]

/-- Ten milliseconds a step, the first of which fails. -/
def slow : Mock where
  minDelay := 10
  maxDelay := 10
  failingNodes := ["first"]

def slowRun : Simulation where
  registry := {}
  executor := slow.execute
  settings := { onError := .carryOn }
  input := .obj []

theorem run_cancelled_row : ∃ r s e, row.Linked ∧ (slowRun.cancelling .never).run row = .ok r ∧
    r.summary = { executed := ["second", "third"], failed := ["first"], skipped := ["loop"],
                  millis := 30 } ∧
    (slowRun.cancelling (.after 15)).run row = .ok s ∧ s.CutOff r row (slow.failsIn row) 1 15 ∧
    s.summary = { failed := ["first", "second"], skipped := ["loop", "third"], cancelled := true,
                  millis := 15 } ∧
    (slowRun.cancelling (.after 31)).run row = .ok r ∧
    (slowRun.cancelling .before).run row = .ok e ∧ e.attempts = [] ∧
    e.summary.skipped = ["loop", "first", "second", "third"] ∧ e.summary.cancelled = true := by
  have hrun : (slowRun.cancelling .never).run row =
      .ok ((slowRun.cancelling .never).follow row row.plan) := run_of_skip rfl
  obtain ⟨⟨e, he, hnone, -, -, hskipped, -, -, hcancelled⟩, hpaced⟩ := run_cancelled row_linked hrun
  obtain ⟨hcut, hlate⟩ := hpaced slow 10 rfl rfl rfl rfl rfl
  obtain ⟨s, hs, hcutOff⟩ := hcut 1 15 (by decide) (by decide) (by decide)
  obtain rfl := run_eq_follow hs
  exact ⟨_, _, e, row_linked, hrun, by decide, hs, hcutOff, by decide, (hlate 31 (by decide)).1,
    he, hnone, hskipped.trans (by decide), hcancelled.mpr (by decide)⟩

end Simulation
end WorkflowCanvas
