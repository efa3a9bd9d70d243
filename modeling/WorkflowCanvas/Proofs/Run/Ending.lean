import WorkflowCanvas.Proofs.Run.Course

/-! How steps end: after their delay, at the timeout, or where the user cancels the run, and where the
run stands then. -/
namespace WorkflowCanvas

/-- The time that a step with the given delay takes. -/
def RunSettings.span (s : RunSettings) (delay : Nat) : Nat :=
  match s.stepTimeout with
  | none => delay
  | some timeout => min delay timeout

theorem RunSettings.span_of_le {s : RunSettings} {delay : Nat}
    (h : ∀ timeout, s.stepTimeout = some timeout → delay ≤ timeout) : s.span delay = delay := by
  unfold span
  split
  · rfl
  · next timeout htimeout => exact Nat.min_eq_left (h timeout htimeout)

theorem RunSettings.span_of_lt {s : RunSettings} {delay timeout : Nat}
    (h : s.stepTimeout = some timeout) (hlt : timeout < delay) : s.span delay = timeout := by
  simp only [span, h]
  exact Nat.min_eq_right hlt.le

/-- How a step ends that starts at the given time: what it has sent by then, its result, and the time
that it took. It ends after its delay, at the timeout if that comes first, or at the moment of the
cancellation if that comes before either. What it sends comes one after the other, at once or later, so
that the later messages that are sent are those before the first for which no time was left. -/
inductive Step.Ends (sim : Simulation) (start : Nat) (step : Step) :
    List StepMessage → Except StepError Json → Nat → Prop
  | done
      (intime : ∀ timeout, sim.settings.stepTimeout = some timeout → step.delay ≤ timeout)
      (going : ∀ c, sim.cancellation = .after c → start + step.delay ≤ c) :
      step.Ends sim start
        (step.messages ++ (step.later.takeWhile (·.1 ≤ step.delay)).map (·.2))
        (step.outcome step.cancels) step.delay
  | late {timeout : Nat} (limited : sim.settings.stepTimeout = some timeout)
      (overdue : timeout < step.delay)
      (going : ∀ c, sim.cancellation = .after c → start + timeout ≤ c) :
      step.Ends sim start
        (step.messages ++ (step.later.takeWhile (·.1 ≤ timeout)).map (·.2))
        (.error (.timeout timeout)) timeout
  | cut {c : Nat} (cancelled : sim.cancellation = .after c) (begun : start ≤ c)
      (inflight : c < start + sim.settings.span step.delay) :
      step.Ends sim start
        (step.messages ++ (step.later.takeWhile (·.1 < c - start)).map (·.2))
        (.error .cancelled) (c - start)

theorem Step.Ends.millis_le {sim : Simulation} {start millis : Nat} {step : Step}
    {messages : List StepMessage} {result : Except StepError Json}
    (h : step.Ends sim start messages result millis) : millis ≤ sim.settings.span step.delay := by
  cases h with
  | done intime => rw [RunSettings.span_of_le intime]
  | late limited overdue => rw [RunSettings.span_of_lt limited overdue]
  | cut cancelled begun inflight => omega

namespace Simulation
variable {sim : Simulation} {g : Graph} {id : String} {ids rest : List String}
  {run : String → RunState} {p : Progress} {told : StepContext} {step : Step}

/-! ### The end of a step -/

theorem naturalEnd_of_lt {timeout : Nat} (h : sim.settings.stepTimeout = some timeout)
    (hlt : timeout < step.delay) (start : Nat) : sim.naturalEnd start step =
      { time := start + timeout, messages := step.sent (· ≤ timeout),
        result := .error (.timeout timeout) } := by
  have hfilter : sim.settings.stepTimeout.filter (· < step.delay) = some timeout := by
    simp [h, hlt]
  simp only [naturalEnd, hfilter]

theorem naturalEnd_of_le (h : ∀ timeout, sim.settings.stepTimeout = some timeout →
    step.delay ≤ timeout) (start : Nat) : sim.naturalEnd start step =
      { time := start + step.delay, cancels := step.cancels,
        messages := step.sent (· ≤ step.delay), result := step.outcome step.cancels } := by
  have hfilter : sim.settings.stepTimeout.filter (· < step.delay) = none := by
    simpa [Option.filter_eq_none_iff] using h
  simp only [naturalEnd, hfilter]

/-- A step has time for its delay, or there is a timeout before it. -/
theorem intime_or_overdue (sim : Simulation) (step : Step) :
    (∀ timeout, sim.settings.stepTimeout = some timeout → step.delay ≤ timeout) ∨
      ∃ timeout, sim.settings.stepTimeout = some timeout ∧ timeout < step.delay := by
  by_cases h : ∃ timeout, sim.settings.stepTimeout = some timeout ∧ timeout < step.delay
  · exact .inr h
  · exact .inl fun timeout htimeout => Nat.le_of_not_lt fun hlt => h ⟨timeout, htimeout, hlt⟩

theorem naturalEnd_time (sim : Simulation) (start : Nat) (step : Step) :
    (sim.naturalEnd start step).time = start + sim.settings.span step.delay := by
  obtain hle | ⟨timeout, htimeout, hlt⟩ := sim.intime_or_overdue step
  · rw [naturalEnd_of_le hle, RunSettings.span_of_le hle]
  · rw [naturalEnd_of_lt htimeout hlt, RunSettings.span_of_lt htimeout hlt]

/-- A step that is in flight at the cancellation is cut off. -/
theorem ending_of_lt {c start : Nat} (h : sim.cancellation = .after c)
    (hlt : c < (sim.naturalEnd start step).time) : sim.ending start step =
      { time := c, messages := step.sent (start + · < c), result := .error .cancelled } := by
  simp only [ending, h, Cancellation.cut?, if_pos hlt]

/-- A step that ends before the cancellation ends as if there were none. -/
theorem ending_of_le {start : Nat} (h : ∀ c, sim.cancellation = .after c →
    (sim.naturalEnd start step).time ≤ c) : sim.ending start step = sim.naturalEnd start step := by
  cases hc : sim.cancellation with
  | never => simp only [ending, hc, Cancellation.cut?]
  | before => simp only [ending, hc, Cancellation.cut?]
  | after c => simp only [ending, hc, Cancellation.cut?, if_neg (Nat.not_lt.mpr (h c hc))]

theorem ending_of_never (h : sim.cancellation = .never) (start : Nat) (step : Step) :
    sim.ending start step = sim.naturalEnd start step :=
  ending_of_le (by simp [h])

theorem sent_messages (step : Step) (going : Nat → Bool) : (step.sent going).map (·.2) =
    step.messages ++ (step.later.takeWhile fun m => going m.1).map (·.2) := by
  simp [Step.sent, Function.comp_def]

/-- Every step of a run that is not cancelled before it ends in one of the three ways. -/
theorem ending_ends {start : Nat} (hstart : ∀ c, sim.cancellation = .after c → start ≤ c)
    (step : Step) : ∃ millis, (sim.ending start step).time = start + millis ∧
      step.Ends sim start ((sim.ending start step).messages.map (·.2))
        (sim.ending start step).result millis := by
  by_cases hcut : ∃ c, sim.cancellation = .after c ∧ c < (sim.naturalEnd start step).time
  · obtain ⟨c, hc, hlt⟩ := hcut
    have hbegun := hstart c hc
    have hsame : (fun m : Nat × StepMessage => decide (start + m.1 < c)) =
        fun m => decide (m.1 < c - start) := by
      funext m
      congr 1
      exact propext (by omega)
    rw [ending_of_lt hc hlt, sent_messages, hsame]
    rw [naturalEnd_time] at hlt
    exact ⟨c - start, by simp only; omega, .cut hc hbegun hlt⟩
  · have hgoing : ∀ c, sim.cancellation = .after c → (sim.naturalEnd start step).time ≤ c :=
      fun c hc => Nat.le_of_not_lt fun hlt => hcut ⟨c, hc, hlt⟩
    rw [ending_of_le hgoing]
    obtain hle | ⟨timeout, htimeout, hlt⟩ := sim.intime_or_overdue step
    · rw [naturalEnd_of_le hle] at hgoing ⊢
      rw [sent_messages]
      exact ⟨step.delay, rfl, .done hle hgoing⟩
    · rw [naturalEnd_of_lt htimeout hlt] at hgoing ⊢
      rw [sent_messages]
      exact ⟨timeout, rfl, .late htimeout hlt hgoing⟩

/-! ### Where the run stands then -/

theorem going_of_never (sim : Simulation) (hnever : sim.cancellation = .never)
    (hgoing : p.cancelled = false) : (p.cancelled || sim.cancellation.reached p.time) = false := by
  rw [hgoing, hnever]
  rfl

/-- Nothing is cancelled by a simulation whose steps do not cancel it. -/
theorem naturalEnd_cancels (hcancels : ∀ told, (sim.executor told).cancels = false) (start : Nat)
    (told : StepContext) : (sim.naturalEnd start (sim.executor told)).cancels = false := by
  unfold naturalEnd
  split
  · rfl
  · exact hcancels told

/-- What a step was told shows where the run stood before it, and its end where it stands then. -/
theorem attempt_after (h : (sim.attempt p id).told = some told) :
    (sim.attempt p id).result = (sim.ending p.time (sim.executor told)).result ∧
    (sim.attempt p id).after.time = (sim.ending p.time (sim.executor told)).time ∧
    (sim.attempt p id).after.attempts = p.attempts + 1 ∧
    (sim.attempt p id).after.cancelled =
      (p.cancelled || (sim.ending p.time (sim.executor told)).cancels) := by
  cases hn : p.graph.node? id with
  | none => simp [attempt, hn] at h
  | some n =>
    simp only [attempt, hn] at h ⊢
    obtain rfl := Option.some.inj h
    exact ⟨rfl, rfl, rfl, rfl⟩

theorem Ready.attempt_going (h : Ready g (id :: rest) run p) (hnever : sim.cancellation = .never)
    (hcancels : ∀ told, (sim.executor told).cancels = false) (hgoing : p.cancelled = false) :
    (sim.attempt p id).after.cancelled = false := by
  obtain ⟨told, e, ha⟩ := h.attempted sim
  obtain ⟨-, -, -, hcancelled⟩ := attempt_after ha.told_eq
  rw [hcancelled, hgoing, ending_of_never hnever, naturalEnd_cancels hcancels, Bool.or_false]

theorem Ready.attempt_count (h : Ready g (id :: rest) run p) :
    (sim.attempt p id).after.attempts = p.attempts + 1 := by
  obtain ⟨told, e, ha⟩ := h.attempted sim
  exact (attempt_after ha.told_eq).2.2.1

/-- A walk goes on to its end if nobody cancels it and none of its attempts is its last. -/
theorem Ready.walk_through (h : Ready g ids run p) (hnever : sim.cancellation = .never)
    (hcancels : ∀ told, (sim.executor told).cancels = false) (hgoing : p.cancelled = false)
    (hall : ∀ a ∈ (sim.walk ids p).attempts, a.stop? sim.settings.onError = none) :
    (sim.walk ids p).stop = none := by
  revert run
  fun_induction Simulation.walk sim ids p with
  | case1 => simp
  | case2 id rest p hstop => simp [hgoing, hnever, Cancellation.reached] at hstop
  | case3 id rest p _ a stop ha =>
    have hlast := hall a List.mem_cons_self
    rw [ha] at hlast
    cases hlast
  | case4 id rest p _ a _ course =>
    rename_i ih
    intro run h
    exact ih (h.attempt_going hnever hcancels hgoing)
      (fun b hb => hall b (List.mem_cons_of_mem a hb)) (h.next sim)

end Simulation
end WorkflowCanvas
