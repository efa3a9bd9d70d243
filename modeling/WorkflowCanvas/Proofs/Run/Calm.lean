import WorkflowCanvas.Proofs.Run.Accounting
import WorkflowCanvas.Proofs.Run.Ending

/-! Runs that nothing disturbs: no step is cut off, nobody cancels, and whether a step fails depends on
its node alone. What becomes of the nodes follows from the order and from which of them fail. -/
namespace WorkflowCanvas.Simulation
variable {sim : Simulation} {fails : String → Bool} {g : Graph} {id : String} {ids rest : List String}
  {run : String → RunState} {p : Progress}

/-- A simulation without timeout and cancellation, in which the given nodes fail. -/
structure Calm (sim : Simulation) (fails : String → Bool) : Prop where
  no_timeout : sim.settings.stepTimeout = none
  no_cancellation : sim.cancellation = .never
  no_cancels : ∀ told, (sim.executor told).cancels = false
  succeeds : ∀ told, fails told.node = false →
    ∃ output, (sim.executor told).outcome false = .ok output
  fails : ∀ told, fails told.node = true →
    ∃ error, (sim.executor told).outcome false = .error error ∧ error ≠ .cancelled

namespace Calm

theorem ending_eq (h : sim.Calm fails) (start : Nat) (told : StepContext) :
    (sim.ending start (sim.executor told)).result = (sim.executor told).outcome false ∧
    (sim.ending start (sim.executor told)).cancels = false := by
  have hle : ∀ timeout, sim.settings.stepTimeout = some timeout →
      (sim.executor told).delay ≤ timeout := by
    simp [h.no_timeout]
  rw [ending_of_never h.no_cancellation, naturalEnd_of_le hle, h.no_cancels]
  exact ⟨rfl, rfl⟩

/-- A step of a calm run fails if its node does, and does not cancel the run. -/
theorem attempt (h : sim.Calm fails) (hid : (p.graph.node? id).isSome) :
    (sim.attempt p id).succeeded = !fails id ∧
    (sim.attempt p id).result ≠ .error .cancelled ∧
    (sim.attempt p id).after.cancelled = p.cancelled := by
  obtain ⟨n, hn⟩ := Option.isSome_iff_exists.mp hid
  have hnode : n.id = id := by simpa using List.find?_some hn
  let told := sim.context p n (p.graph.mergedInput n.id sim.input)
  have htold : (sim.attempt p id).told = some told := by
    rw [sim.attempt_of_found hn]
    rfl
  have hsame : told.node = id := hnode
  obtain ⟨hresult, -, -, hcancelled⟩ := attempt_after htold
  obtain ⟨hending, hcancels⟩ := h.ending_eq p.time told
  rw [hending] at hresult
  rw [hcancels, Bool.or_false] at hcancelled
  rw [Attempt.succeeded, hresult]
  cases hfails : fails id with
  | false =>
    obtain ⟨output, hok⟩ := h.succeeds told (hsame ▸ hfails)
    rw [hok]
    exact ⟨rfl, by simp, hcancelled⟩
  | true =>
    obtain ⟨error, herror, hne⟩ := h.fails told (hsame ▸ hfails)
    rw [herror]
    exact ⟨rfl, fun heq => hne (Except.error.inj heq), hcancelled⟩

theorem stop?_eq (h : sim.Calm fails) (hid : (p.graph.node? id).isSome) :
    (sim.attempt p id).stop? sim.settings.onError =
      if fails id = true ∧ sim.settings.onError = .stop then some .failed else none := by
  obtain ⟨hsucceeded, hresult, -⟩ := h.attempt hid
  unfold Attempt.succeeded at hsucceeded
  unfold Attempt.stop?
  split <;> simp_all

theorem fails_of_stop (h : sim.Calm fails) (hid : (p.graph.node? id).isSome) {stop : Stop}
    (hstop : (sim.attempt p id).stop? sim.settings.onError = some stop) :
    (fails id = true ∧ sim.settings.onError = .stop) ∧ stop = .failed := by
  rw [h.stop?_eq hid] at hstop
  split at hstop
  · next hfails => exact ⟨hfails, (Option.some.inj hstop).symm⟩
  · cases hstop

theorem goes_on (h : sim.Calm fails) (hid : (p.graph.node? id).isSome)
    (hstop : (sim.attempt p id).stop? sim.settings.onError = none) :
    ¬(fails id = true ∧ sim.settings.onError = .stop) := by
  intro hfails
  rw [h.stop?_eq hid, if_pos hfails] at hstop
  cases hstop

/-- Runs of a mock executor that is told of nodes alone are calm. -/
theorem of_mock {m : Mock} (hexecutor : sim.executor = m.execute) (htypes : m.failingTypes = [])
    (htimeout : sim.settings.stepTimeout = none) (hcancellation : sim.cancellation = .never) :
    sim.Calm (m.failingNodes.contains ·) := by
  have hfails : ∀ told : StepContext, m.fails told = m.failingNodes.contains told.node := by
    intro told
    simp [Mock.fails, htypes]
  refine ⟨htimeout, hcancellation, fun told => ?_, fun told hnode => ?_, fun told hnode => ?_⟩ <;>
    rw [hexecutor]
  · rfl
  · exact ⟨_, if_neg (by rw [hfails, hnode]; exact Bool.false_ne_true)⟩
  · exact ⟨_, if_pos ((hfails told).trans hnode), by simp⟩

end Calm

/-- The nodes of a list that a calm run comes to: all of them, or those up to the first that fails. -/
def reached (onError : ErrorHandling) (fails : String → Bool) (ids : List String) : List String :=
  match onError with
  | .carryOn => ids
  | .stop => ids.takeWhile (!fails ·) ++ (ids.find? fails).toList

theorem reached_cons (onError : ErrorHandling) (fails : String → Bool) (id : String)
    (ids : List String) : reached onError fails (id :: ids) =
      if fails id = true ∧ onError = .stop then [id] else id :: reached onError fails ids := by
  cases onError <;> cases h : fails id <;> simp [reached, h]

theorem reached_of_none (onError : ErrorHandling) (ids : List String) :
    reached onError (fun _ => false) ids = ids := by
  induction ids with
  | nil => cases onError <;> rfl
  | cons id ids ih => rw [reached_cons, if_neg (by simp), ih]

theorem Ready.node?_isSome (h : Ready g (id :: rest) run p) : (p.graph.node? id).isSome := by
  obtain ⟨n, hn, -⟩ := g.node?_isSome (h.subset List.mem_cons_self)
  simp [h.graph, g.node?_marked, hn]

/-- A calm walk comes to the nodes up to where it stops, and those that fail in it are those that do. -/
theorem Ready.walk_calm (h : Ready g ids run p) (hcalm : sim.Calm fails)
    (hgoing : p.cancelled = false) :
    (sim.walk ids p).attempts.map (·.node) = reached sim.settings.onError fails ids ∧
    (∀ a ∈ (sim.walk ids p).attempts, a.succeeded = !fails a.node) ∧
    (sim.walk ids p).stop ≠ some .cancelled := by
  -- The statuses of the nodes change from step to step, so they are not fixed in the induction.
  revert run
  fun_induction Simulation.walk sim ids p with
  | case1 p =>
    intro run h
    refine ⟨?_, by simp, by simp⟩
    cases hmode : sim.settings.onError <;> rfl
  | case2 id rest p hstop =>
    simp [hgoing, hcalm.no_cancellation, Cancellation.reached] at hstop
  | case3 id rest p _ a stop ha =>
    intro run h
    obtain ⟨hsucceeded, -, -⟩ := hcalm.attempt h.node?_isSome
    obtain ⟨hfails, rfl⟩ := hcalm.fails_of_stop h.node?_isSome ha
    rw [reached_cons, if_pos hfails]
    refine ⟨by simp [a, attempt_node], fun b hb => ?_, by simp⟩
    obtain rfl := List.mem_singleton.mp hb
    rw [attempt_node]
    exact hsucceeded
  | case4 id rest p _ a ha course =>
    rename_i ih
    intro run h
    obtain ⟨hsucceeded, -, hcancelled⟩ := hcalm.attempt h.node?_isSome
    obtain ⟨hnodes, hall, hend⟩ := ih (hcancelled.trans hgoing) (h.next sim)
    rw [reached_cons, if_neg (hcalm.goes_on h.node?_isSome ha)]
    refine ⟨by simp [a, attempt_node, hnodes, course], fun b hb => ?_, hend⟩
    obtain rfl | hb := List.mem_cons.mp hb
    · rw [attempt_node]
      exact hsucceeded
    · exact hall b hb

/-- What the summary of a calm run says, by the nodes that the run comes to. -/
theorem follow_reached (hcalm : sim.Calm fails) (hg : g.Linked) :
    (sim.follow g g.plan).summary.executed =
      (reached sim.settings.onError fails g.plan.order).filter (!fails ·) ∧
    (sim.follow g g.plan).summary.failed =
      (reached sim.settings.onError fails g.plan.order).filter fails ∧
    (sim.follow g g.plan).summary.skipped = g.plan.blocked ++
      g.plan.order.drop (reached sim.settings.onError fails g.plan.order).length ∧
    (sim.follow g g.plan).summary.cancelled = false := by
  obtain ⟨hnodes, hall, hstop⟩ := (opening_ready hg).walk_calm hcalm rfl
  have hleft := left_eq_drop sim g g.plan
  rw [← List.length_map (·.node)] at hleft
  have hcourse : (sim.course g g.plan).attempts.map (·.node) =
      reached sim.settings.onError fails g.plan.order := hnodes
  obtain ⟨hexecuted, hfailed⟩ := Attempt.nodes_of_fails hall
  rw [hnodes] at hexecuted hfailed
  rw [hcourse] at hleft
  exact ⟨hexecuted, hfailed, congrArg (g.plan.blocked ++ ·) hleft, beq_eq_false_iff_ne.mpr hstop⟩

/-- Up to the first node that fails: the nodes before it, the node, and what is left. -/
theorem reached_stop (fails : String → Bool) (ids : List String) :
    (reached .stop fails ids).filter (!fails ·) = ids.takeWhile (!fails ·) ∧
    (reached .stop fails ids).filter fails = (ids.find? fails).toList ∧
    ids.drop (reached .stop fails ids).length = (ids.dropWhile (!fails ·)).tail := by
  induction ids with
  | nil => exact ⟨rfl, rfl, rfl⟩
  | cons id ids ih =>
    rw [reached_cons]
    cases h : fails id with
    | true => simp [h]
    | false => simpa [h] using ih

theorem follow_carryOn (hcalm : sim.Calm fails) (hg : g.Linked)
    (hmode : sim.settings.onError = .carryOn) :
    (sim.follow g g.plan).summary.executed = g.plan.order.filter (!fails ·) ∧
    (sim.follow g g.plan).summary.failed = g.plan.order.filter fails ∧
    (sim.follow g g.plan).summary.skipped = g.plan.blocked := by
  obtain ⟨hexecuted, hfailed, hskipped, -⟩ := follow_reached hcalm hg
  rw [hmode] at hexecuted hfailed hskipped
  exact ⟨hexecuted, hfailed, by simpa [reached] using hskipped⟩

theorem follow_stop (hcalm : sim.Calm fails) (hg : g.Linked)
    (hmode : sim.settings.onError = .stop) :
    (sim.follow g g.plan).summary.executed = g.plan.order.takeWhile (!fails ·) ∧
    (sim.follow g g.plan).summary.failed = (g.plan.order.find? fails).toList ∧
    (sim.follow g g.plan).summary.skipped =
      g.plan.blocked ++ (g.plan.order.dropWhile (!fails ·)).tail := by
  obtain ⟨hexecuted, hfailed, hskipped, -⟩ := follow_reached hcalm hg
  obtain ⟨hbefore, hfirst, hbehind⟩ := reached_stop fails g.plan.order
  rw [hmode] at hexecuted hfailed hskipped
  exact ⟨hexecuted.trans hbefore, hfailed.trans hfirst, by rw [hskipped, hbehind]⟩

/-- A calm run is a success if no node of its order fails. -/
theorem follow_success_iff (hcalm : sim.Calm fails) (hg : g.Linked) :
    (sim.follow g g.plan).summary.success = true ↔ ∀ id ∈ g.plan.order, fails id = false := by
  obtain ⟨-, hfailed, -, hcancelled⟩ := follow_reached hcalm hg
  have hsuccess : (sim.follow g g.plan).summary.success = true ↔
      (sim.follow g g.plan).summary.failed = [] := by
    simp [Summary.success, hcancelled]
  rw [hsuccess]
  cases hmode : sim.settings.onError with
  | carryOn =>
    rw [(follow_carryOn hcalm hg hmode).2.1, List.filter_eq_nil_iff]
    simp
  | stop =>
    rw [(follow_stop hcalm hg hmode).2.1, Option.toList_eq_nil_iff, List.find?_eq_none]
    simp

end WorkflowCanvas.Simulation
