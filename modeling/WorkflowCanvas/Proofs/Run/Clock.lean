import WorkflowCanvas.Proofs.Run.Ending
import WorkflowCanvas.Proofs.Run.Flight
import WorkflowCanvas.Proofs.Run.Log
import Mathlib.Algebra.Group.Action.Defs
import Mathlib.Algebra.Order.Ring.Nat
import Mathlib.Algebra.Order.BigOperators.Group.List

/-! The time that a run takes. Steps come one right after the other, each takes its delay or the
timeout if that is shorter, and nothing else takes any time. -/
namespace WorkflowCanvas

/-- An attempt that begins at the given time and takes so many milliseconds. -/
structure Attempt.Takes (a : Attempt) (start millis : Nat) : Prop where
  begun : a.begun ≠ [] ∧ ∀ act ∈ a.begun, act.time = start
  ended : a.ended ≠ [] ∧ ∀ act ∈ a.ended, act.time = start + millis
  completed : ∀ node output t, .nodeCompleted node output t ∈ a.acts.map (·.happening) →
    node = a.node ∧ t = millis

/-- Attempts that take the given times, each from the end of the one before it on. -/
def InTurn : Nat → List Attempt → List Nat → Prop
  | _, [], [] => True
  | start, a :: attempts, millis :: rest =>
    a.Takes start millis ∧ InTurn (start + millis) attempts rest
  | _, _, _ => False

namespace Simulation
variable {sim : Simulation} {g : Graph} {id : String} {ids rest : List String}
  {run : String → RunState} {p : Progress} {told : StepContext} {step : Step}

/-- The step of an attempt asked for the given delay, and nothing but the timeout cut it short. -/
def Waits (sim : Simulation) (a : Attempt) (delay : Nat) : Prop :=
  ∃ told start, a.told = some told ∧ (sim.executor told).delay = delay ∧
    a.result = (sim.naturalEnd start (sim.executor told)).result

/-- A step that does not itself report a timeout ends in one if it asks for more time than it has. -/
theorem naturalEnd_timeout_iff
    (hstep : ∀ timeout, step.outcome step.cancels ≠ .error (.timeout timeout))
    (start timeout : Nat) : (sim.naturalEnd start step).result = .error (.timeout timeout) ↔
      sim.settings.stepTimeout = some timeout ∧ timeout < step.delay := by
  constructor
  · intro hresult
    obtain hle | ⟨limit, hlimit, hlt⟩ := sim.intime_or_overdue step
    · rw [naturalEnd_of_le hle] at hresult
      exact absurd hresult (hstep timeout)
    · rw [naturalEnd_of_lt hlimit hlt, Except.error.injEq, StepError.timeout.injEq] at hresult
      exact hresult ▸ ⟨hlimit, hlt⟩
  · rintro ⟨hlimit, hlt⟩
    rw [naturalEnd_of_lt hlimit hlt]

/-! ### Steps -/

theorem Attempted.takes {a : Attempt} {e : Ending} {millis : Nat}
    (h : Attempted sim g p id a told e) (hnode : a.node = id) (htime : e.time = p.time + millis) :
    a.Takes p.time millis where
  begun := by
    rw [h.begun_eq]
    refine ⟨by simp [beginning], fun act hact => ?_⟩
    obtain rfl | rfl | ⟨edge, rfl⟩ := mem_beginning hact <;> rfl
  ended := by
    rw [h.ended_eq, ← htime]
    refine ⟨?_, fun act hact => ?_⟩
    · cases hresult : e.result <;> simp [closing, outcome, hresult]
    · obtain hact | hact := List.mem_append.mp hact
      · obtain ⟨edge, -, rfl⟩ := List.mem_map.mp hact
        rfl
      · obtain ⟨s, result, rfl⟩ | ⟨output, rfl⟩ | ⟨message, rfl⟩ := mem_outcome hact <;> rfl
  completed node output t hmem := by
    obtain ⟨act, hact, heq⟩ := List.mem_map.mp hmem
    rw [Attempt.acts, List.mem_append, List.mem_append, h.begun_eq, h.sent_eq, h.ended_eq, closing,
      List.mem_append] at hact
    obtain (hact | hact) | hact | hact := hact
    · obtain rfl | rfl | ⟨edge, rfl⟩ := mem_beginning hact <;> cases heq
    · obtain ⟨message, -, rfl⟩ := List.mem_map.mp hact
      cases heq
    · obtain ⟨edge, -, rfl⟩ := List.mem_map.mp hact
      cases heq
    · cases hresult : e.result with
      | ok result =>
        simp only [outcome, hresult, List.mem_cons, List.not_mem_nil, or_false] at hact
        obtain rfl | rfl := hact
        · cases heq
        · obtain ⟨rfl, -, rfl⟩ := Happening.nodeCompleted.inj heq
          exact ⟨hnode.symm, by omega⟩
      | error error =>
        simp only [outcome, hresult, List.mem_cons, List.not_mem_nil, or_false] at hact
        obtain rfl | rfl := hact <;> cases heq

/-- While nobody cancels, a step takes the span of its delay. -/
theorem Ready.attempt_takes (h : Ready g (id :: rest) run p) (hnever : sim.cancellation = .never) :
    ∃ delay, sim.Waits (sim.attempt p id) delay ∧
      (sim.attempt p id).Takes p.time (sim.settings.span delay) ∧
      (sim.attempt p id).after.time = p.time + sim.settings.span delay := by
  obtain ⟨told, e, ha⟩ := h.attempted sim
  obtain ⟨hresult, htime, -⟩ := attempt_after ha.told_eq
  rw [ending_of_never hnever] at hresult htime
  have hend : e.time = p.time + sim.settings.span (sim.executor told).delay := by
    rw [ha.ending_eq, ending_of_never hnever, naturalEnd_time]
  rw [naturalEnd_time] at htime
  exact ⟨_, ⟨told, p.time, ha.told_eq, rfl, hresult⟩, ha.takes (attempt_node sim p id) hend, htime⟩

/-- While nobody cancels, the steps of a walk come one after the other, and the walk is over when
the last of them has ended. -/
theorem Ready.walk_takes (h : Ready g ids run p) (hnever : sim.cancellation = .never) :
    ∃ delays, List.Forall₂ sim.Waits (sim.walk ids p).attempts delays ∧
      InTurn p.time (sim.walk ids p).attempts (delays.map sim.settings.span) ∧
      (sim.walk ids p).time = p.time + (delays.map sim.settings.span).sum := by
  -- Each step leaves other marks, so the induction is for all of them.
  revert run
  fun_induction Simulation.walk sim ids p with
  | case1 p => exact fun _ => ⟨[], .nil, trivial, rfl⟩
  | case2 id rest p => exact fun _ => ⟨[], .nil, trivial, rfl⟩
  | case3 id rest p _ a stop =>
    intro run h
    obtain ⟨delay, hwaits, htakes, htime⟩ := h.attempt_takes hnever
    exact ⟨[delay], .cons hwaits .nil, ⟨htakes, trivial⟩, by simpa using htime⟩
  | case4 id rest p _ a _ course =>
    rename_i ih
    intro run h
    obtain ⟨delay, hwaits, htakes, htime⟩ := h.attempt_takes hnever
    obtain ⟨delays, hall, hturn, hend⟩ := ih (h.next sim)
    rw [show a.after.time = p.time + sim.settings.span delay from htime] at hturn hend
    refine ⟨delay :: delays, .cons hwaits hall, ⟨htakes, hturn⟩, ?_⟩
    rw [List.map_cons, List.sum_cons, ← Nat.add_assoc]
    exact hend

/-! ### Runs -/

theorem mem_log_nodeCompleted {plan : Plan} {node : String} {output : Json} {millis : Nat}
    (h : .nodeCompleted node output millis ∈ (sim.follow g plan).log) :
    ∃ a ∈ (sim.course g plan).attempts,
      .nodeCompleted node output millis ∈ a.acts.map (·.happening) := by
  rw [Run.log, follow, Act.map_happening_moments, script, List.map_append, List.map_append,
    opening_log, course_log] at h
  simpa [Summary.completed] using h

theorem log_getLast? (sim : Simulation) (g : Graph) (plan : Plan) :
    (sim.follow g plan).log.getLast? = some (.runCompleted (sim.follow g plan).summary.success
      (sim.follow g plan).summary.cancelled (sim.follow g plan).summary.millis) := by
  obtain ⟨before, hmoments⟩ := follow_ends sim g plan
  rw [Run.log, hmoments, List.map_append]
  exact List.getLast?_concat

end Simulation

theorem InTurn.completed {start millis : Nat} {attempts : List Attempt} {delays : List Nat}
    {span : Nat → Nat} (h : InTurn start attempts (delays.map span)) {a : Attempt}
    (ha : a ∈ attempts) {node : String} {output : Json}
    (hmem : .nodeCompleted node output millis ∈ a.acts.map (·.happening)) :
    ∃ x ∈ attempts.zip delays, x.1.node = node ∧ millis = span x.2 := by
  induction attempts generalizing start delays with
  | nil => cases ha
  | cons b attempts ih =>
    cases delays with
    | nil => cases h
    | cons delay delays =>
      obtain ⟨htakes, hrest⟩ := h
      obtain rfl | ha := List.mem_cons.mp ha
      · obtain ⟨hnode, hmillis⟩ := htakes.completed node output millis hmem
        exact ⟨(a, delay), List.mem_cons_self, hnode.symm, hmillis⟩
      · obtain ⟨x, hx, hx'⟩ := ih hrest ha
        exact ⟨x, List.mem_cons_of_mem _ hx, hx'⟩

theorem Mock.delay_bounds {m : Mock} (h : m.minDelay ≤ m.maxDelay) (chance : Nat) :
    m.minDelay ≤ m.delay chance ∧ m.delay chance ≤ m.maxDelay := by
  have hlt : chance % (m.maxDelay - m.minDelay + 1) < m.maxDelay - m.minDelay + 1 :=
    Nat.mod_lt _ (Nat.succ_pos _)
  rw [Mock.delay]
  omega

theorem RunSettings.span_mono (s : RunSettings) {d d' : Nat} (h : d ≤ d') : s.span d ≤ s.span d' := by
  unfold span
  split
  · exact h
  · exact min_le_min_right _ h

namespace Simulation
variable {sim : Simulation} {g : Graph} {r : Run}

/-- The mock executor draws the delay of a step, and of itself it never reports a timeout. -/
theorem Waits.of_mock {m : Mock} (hexecutor : sim.executor = m.execute) {x : Attempt} {delay : Nat}
    (h : sim.Waits x delay) :
    x.told.map (fun told => m.delay told.chance) = some delay ∧
    ∀ timeout, x.result = .error (.timeout timeout) ↔
      sim.settings.stepTimeout = some timeout ∧ timeout < delay := by
  obtain ⟨told, start, htold, rfl, hresult⟩ := h
  have hdelay : (sim.executor told).delay = m.delay told.chance := by
    rw [hexecutor]
    rfl
  refine ⟨by rw [htold, hdelay]; rfl, fun timeout => ?_⟩
  rw [hresult]
  refine naturalEnd_timeout_iff (fun limit => ?_) start timeout
  rw [hexecutor]
  simp only [Mock.execute]
  split <;> simp

/-- The time of a run of the mock executor is that of its steps. Each step waits for a delay between
the two bounds, or for the timeout if that is shorter, and then it ends in a timeout; they come one
right after the other, and the reports of their ends and of the end of the run tell how long it took.
All these times fit in 64 bits if the longest that the steps could take together does (`millis_fits`). -/
theorem run_millis {a b : Nat} {nodes types : List String} (hg : g.Linked)
    (hexecutor : sim.executor =
      Mock.execute { Mock.between a b with failingNodes := nodes, failingTypes := types })
    (hnever : sim.cancellation = .never) (h : sim.run g = .ok r) :
    (r.summary.executed ++ r.summary.failed).Perm (r.attempts.map (·.node)) ∧
    ∃ delays : List Nat,
      r.attempts.map (fun x => x.told.map fun told => (Mock.between a b).delay told.chance) =
        delays.map some ∧
      (∀ delay ∈ delays, min a b ≤ delay ∧ delay ≤ max a b) ∧
      InTurn 0 r.attempts (delays.map sim.settings.span) ∧
      List.Forall₂ (fun x delay => ∀ timeout, x.result = .error (.timeout timeout) ↔
        sim.settings.stepTimeout = some timeout ∧ timeout < delay) r.attempts delays ∧
      (∀ node output millis, .nodeCompleted node output millis ∈ r.log →
        ∃ x ∈ r.attempts.zip delays, x.1.node = node ∧ millis = sim.settings.span x.2) ∧
      r.summary.millis = (delays.map sim.settings.span).sum ∧
      r.log.getLast? =
        some (.runCompleted r.summary.success r.summary.cancelled r.summary.millis) ∧
      r.attempts.length * sim.settings.span (min a b) ≤ r.summary.millis ∧
      r.summary.millis ≤ r.attempts.length * sim.settings.span (max a b) := by
  obtain rfl := run_eq_follow h
  obtain ⟨delays, hwaits, hturn, htime⟩ := (opening_ready hg).walk_takes hnever
  have hmock := hwaits.imp fun _ _ hwait => hwait.of_mock hexecutor
  have hdrawn : (sim.follow g g.plan).attempts.map
      (fun x => x.told.map fun told => (Mock.between a b).delay told.chance) = delays.map some := by
    rw [← List.forall₂_eq_eq_eq, List.forall₂_map_left_iff, List.forall₂_map_right_iff]
    exact hmock.imp fun _ _ hdelay => hdelay.1
  have hbounds : ∀ delay ∈ delays, min a b ≤ delay ∧ delay ≤ max a b := by
    intro delay hdelay
    have hmem : some delay ∈ delays.map some := List.mem_map_of_mem hdelay
    rw [← hdrawn] at hmem
    obtain ⟨x, -, hx⟩ := List.mem_map.mp hmem
    obtain ⟨told, -, rfl⟩ := Option.map_eq_some_iff.mp hx
    exact Mock.delay_bounds (m := Mock.between a b) min_le_max told.chance
  have hmillis : (sim.follow g g.plan).summary.millis = (delays.map sim.settings.span).sum :=
    htime.trans (Nat.zero_add _)
  have hlength : (sim.follow g g.plan).attempts.length = (delays.map sim.settings.span).length := by
    rw [List.length_map]
    exact hwaits.length_eq
  refine ⟨(sim.course g g.plan).attempted_perm g.plan.blocked, delays, hdrawn, hbounds, hturn,
    hmock.imp fun _ _ hends => hends.2, ?_, hmillis, log_getLast? sim g g.plan, ?_, ?_⟩
  · intro node output millis hmem
    obtain ⟨x, hx, hx'⟩ := mem_log_nodeCompleted hmem
    exact InTurn.completed hturn hx hx'
  · rw [hmillis, hlength, ← smul_eq_mul]
    refine List.card_nsmul_le_sum _ _ fun millis hmem => ?_
    obtain ⟨delay, hdelay, rfl⟩ := List.mem_map.mp hmem
    exact sim.settings.span_mono (hbounds delay hdelay).1
  · rw [hmillis, hlength, ← smul_eq_mul]
    refine List.sum_le_card_nsmul _ _ fun millis hmem => ?_
    obtain ⟨delay, hdelay, rfl⟩ := List.mem_map.mp hmem
    exact sim.settings.span_mono (hbounds delay hdelay).2

/-- The times of a run are written in 64 bits. They fit there, however the run ends, if the longest time
that its steps could take together does. -/
theorem millis_fits {longest : Nat} (hg : g.Linked) (h : sim.run g = .ok r)
    (hspan : ∀ told, sim.settings.span (sim.executor told).delay ≤ longest)
    (hlimit : g.plan.order.length * longest < UInt64.size) :
    r.summary.millis.toUInt64.toNat = r.summary.millis ∧
    ∀ node output millis, .nodeCompleted node output millis ∈ r.log →
      millis.toUInt64.toNat = millis := by
  obtain rfl := run_eq_follow h
  obtain ⟨steps, left, hlog⟩ := follow_logged sim hg
  have hsteps : ∀ s ∈ steps, s.millis ≤ longest := by
    have hall : List.Forall₂ (fun s a => s.millis ≤ longest ∧ StepLog.Tells sim g s a) steps
        (sim.follow g g.plan).attempts := by
      refine hlog.told.imp fun s a htells => ⟨?_, htells⟩
      obtain ⟨told, -, -, -, hends⟩ := htells.ended
      exact hends.millis_le.trans (hspan told)
    exact ((List.forall₂_and_left _ _).mp hall).1
  obtain ⟨hstop, heach⟩ := hlog.timed.bounds hsteps
  have hlength : steps.length ≤ g.plan.order.length := by
    rw [← hlog.order, List.length_append, List.length_map]
    omega
  have hfits : (sim.follow g g.plan).summary.millis < UInt64.size := by
    have := Nat.mul_le_mul_right longest hlength
    omega
  refine ⟨UInt64.toNat_ofNat_of_lt hfits, fun node output millis hmem => ?_⟩
  obtain ⟨s, hs, rfl⟩ := hlog.completed hmem
  exact UInt64.toNat_ofNat_of_lt (by have := heach s hs; omega)

/-- A run whose bounds are given the wrong way round. The last delay that it draws is too long. -/
def hurried : Simulation where
  registry := {}
  executor := Mock.execute { Mock.between 5 2 with failingNodes := ["second"] }
  settings := { onError := .carryOn, stepTimeout := some 3 }
  input := .obj []
  chance := fun attempts => attempts

theorem run_millis_hurried : ∃ r, hurried.run row = .ok r ∧ row.Linked ∧
    r.summary =
      { executed := ["first"], failed := ["second", "third"], skipped := ["loop"], millis := 8 } ∧
    InTurn 0 r.attempts [2, 3, 3] ∧
    List.Forall₂ (fun x delay => ∀ timeout, x.result = .error (.timeout timeout) ↔
      some 3 = some timeout ∧ timeout < delay) r.attempts [2, 3, 4] ∧
    (∀ node output millis, .nodeCompleted node output millis ∈ r.log →
      ∃ x ∈ r.attempts.zip [2, 3, 4], x.1.node = node ∧ millis = hurried.settings.span x.2) ∧
    r.log.getLast? = some (.runCompleted false false 8) ∧ 3 * 2 ≤ 8 ∧ 8 ≤ 3 * 3 := by
  have hrun : hurried.run row = .ok (hurried.follow row row.plan) := run_of_skip rfl
  obtain ⟨-, delays, hdrawn, -, hturn, hends, hlog, -, hlast, hlow, hhigh⟩ :=
    run_millis row_linked rfl rfl hrun
  have hdelays : delays.map some = [some 2, some 3, some 4] := hdrawn.symm.trans (by decide)
  obtain rfl : delays = [2, 3, 4] := List.map_injective_iff.mpr (Option.some_injective Nat) hdelays
  exact ⟨_, hrun, row_linked, by decide, hturn, hends, hlog, hlast, hlow, hhigh⟩

end Simulation
end WorkflowCanvas
