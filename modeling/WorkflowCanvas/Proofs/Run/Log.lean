import WorkflowCanvas.Proofs.Run.Ending
import WorkflowCanvas.Proofs.Run.Shadow

/-! The log of a run from its first report to its last: the parts that it has and their order, the
statuses through which it takes each node, and that no two steps overlap in it. -/
namespace WorkflowCanvas

/-! ### The parts of a log -/

/-- A step as the log tells of it. -/
structure StepLog where
  node : String
  type : String
  /-- When it starts, in milliseconds from the start of the run. -/
  start : Nat
  messages : List StepMessage
  result : Except StepError Json
  millis : Nat

namespace StepLog

def succeeded (s : StepLog) : Bool := s.result.isOk

def verdict (s : StepLog) : Status := if s.succeeded then .success else .error

def outcome (s : StepLog) : List Happening :=
  match s.result with
  | .ok output => [.nodeStatus s.node .success, .nodeCompleted s.node output s.millis]
  | .error error => [.nodeStatus s.node .error, .nodeFailed s.node error.message]

/-- All that is reported between the start of a step and its end. -/
def block (g : Graph) (s : StepLog) : List Happening :=
  [.nodeStatus s.node .running, .nodeStarted s.node s.type]
  ++ (g.incoming s.node).map (fun e => .edgeActivity e.id true)
  ++ s.messages.map (.nodeMessage s.node)
  ++ (g.incoming s.node).map (fun e => .edgeActivity e.id false)
  ++ s.outcome

theorem mem_outcome {s : StepLog} {x : Happening} (h : x ∈ s.outcome) :
    x = .nodeStatus s.node s.verdict ∨
    (∃ output, s.result = .ok output ∧ x = .nodeCompleted s.node output s.millis) ∨
    ∃ error, s.result = .error error ∧ x = .nodeFailed s.node error.message := by
  unfold verdict succeeded
  cases hresult : s.result <;>
    simp only [outcome, hresult, List.mem_cons, List.not_mem_nil, or_false] at h <;>
    obtain rfl | rfl := h <;> simp [Except.isOk, Except.toBool]

/-- What a step reports, kind by kind. -/
theorem mem_block {g : Graph} {s : StepLog} {x : Happening} (h : x ∈ s.block g) :
    (∃ status, x = .nodeStatus s.node status) ∨ x = .nodeStarted s.node s.type ∨
    (∃ edge active, x = .edgeActivity edge active) ∨ (∃ message, x = .nodeMessage s.node message) ∨
    (∃ output, x = .nodeCompleted s.node output s.millis) ∨
    ∃ message, x = .nodeFailed s.node message := by
  simp only [block, List.mem_append, List.mem_cons, List.mem_map, List.not_mem_nil, or_false] at h
  obtain ((((rfl | rfl) | ⟨e, -, rfl⟩) | ⟨m, -, rfl⟩) | ⟨e, -, rfl⟩) | h := h
  · simp
  · simp
  · simp
  · simp
  · simp
  · obtain rfl | ⟨output, -, rfl⟩ | ⟨error, -, rfl⟩ := mem_outcome h <;> simp

/-- The step that an attempt took: a node of the graph ran under its type, and what is told of its
messages, its result and its time is what the executor's step does until it ends. -/
structure Tells (sim : Simulation) (g : Graph) (s : StepLog) (a : Attempt) : Prop where
  node_eq : s.node = a.node
  result_eq : s.result = a.result
  type_eq : ∃ n, g.node? s.node = some n ∧ s.type = n.type
  ended : ∃ told, a.told = some told ∧ told.node = s.node ∧ told.type = s.type ∧
    (sim.executor told).Ends sim s.start s.messages s.result s.millis

/-- Steps that come one right after the other, from the one moment to the other. -/
def Consecutive : Nat → List StepLog → Nat → Prop
  | start, [], stop => start = stop
  | start, s :: steps, stop => s.start = start ∧ Consecutive (start + s.millis) steps stop

theorem Consecutive.le {start stop : Nat} {steps : List StepLog} (h : Consecutive start steps stop) :
    start ≤ stop := by
  induction steps generalizing start with
  | nil => exact Nat.le_of_eq h
  | cons s steps ih => exact (Nat.le_add_right start s.millis).trans (ih h.2)

/-- Steps one after the other take no more than each of them may take, and each no more than all. -/
theorem Consecutive.bounds {start stop longest : Nat} {steps : List StepLog}
    (h : Consecutive start steps stop) (hlongest : ∀ s ∈ steps, s.millis ≤ longest) :
    stop ≤ start + steps.length * longest ∧ ∀ s ∈ steps, start + s.millis ≤ stop := by
  induction steps generalizing start with
  | nil =>
    obtain rfl : start = stop := h
    exact ⟨Nat.le_add_right _ _, by simp⟩
  | cons s steps ih =>
    obtain ⟨hs, hsteps⟩ := List.forall_mem_cons.mp hlongest
    obtain ⟨hstop, heach⟩ := ih h.2 hsteps
    refine ⟨?_, List.forall_mem_cons.mpr ⟨h.2.le, fun t ht => ?_⟩⟩
    · rw [List.length_cons, Nat.succ_mul]
      omega
    · have := heach t ht
      omega

end StepLog

/-- The reason that a log gives for the nodes left out at the end. -/
def Summary.reason (s : Summary) : String :=
  if s.cancelled then "run cancelled" else "run stopped after a failure"

/-- The log of a run that takes the given steps and leaves out the given nodes of its order. -/
def Graph.log (g : Graph) (steps : List StepLog) (left : List String) (s : Summary) :
    List Happening :=
  [.runStarted g.plan.order]
  ++ g.plan.order.map (.nodeStatus · .queued)
  ++ g.plan.blocked.map (.nodeSkipped · .idle "blocked by a cycle")
  ++ steps.flatMap (·.block g)
  ++ left.map (.nodeSkipped · .idle s.reason)
  ++ [.runCompleted s.success s.cancelled s.millis]

/-- The log of a run, with one step for each of its attempts. -/
structure Run.Logged (sim : Simulation) (g : Graph) (r : Run) (steps : List StepLog)
    (left : List String) : Prop where
  told : List.Forall₂ (StepLog.Tells sim g) steps r.attempts
  timed : StepLog.Consecutive 0 steps r.summary.millis
  order : steps.map (·.node) ++ left = g.plan.order
  executed : (steps.filter (·.succeeded)).map (·.node) = r.summary.executed
  failed : (steps.filter (!·.succeeded)).map (·.node) = r.summary.failed
  skipped : g.plan.blocked ++ left = r.summary.skipped
  log : r.log = g.log steps left r.summary

namespace Simulation
variable {sim : Simulation} {g : Graph} {p : Progress} {id : String} {a : Attempt}

theorem outcome_happening (start : Nat) (node type : String) (messages : List StepMessage)
    (e : Ending) : (outcome start node e).map (·.happening) =
      (StepLog.mk node type start messages e.result (e.time - start)).outcome := by
  cases h : e.result with
  | ok output => simp only [outcome, h]; rfl
  | error error => simp only [outcome, h]; rfl

/-- What is reported of an attempt is the block of one step. -/
theorem Attempted.block {told : StepContext} {e : Ending} (h : Attempted sim g p id a told e) :
    a.acts.map (·.happening) = (StepLog.mk id told.type p.time (e.messages.map (·.2)) e.result
      (e.time - p.time)).block g := by
  have hbegun : a.begun.map (·.happening) =
      [.nodeStatus id .running, .nodeStarted id told.type]
        ++ (g.incoming id).map (fun e => .edgeActivity e.id true) := by
    simp [h.begun_eq, beginning, h.node_eq, Act.status, Act.activity, Function.comp_def]
  have hmessages : a.sent.map (·.happening) =
      (e.messages.map (·.2)).map (.nodeMessage id) := by
    simp [h.sent_eq, Act.message, Function.comp_def]
  have hended : a.ended.map (·.happening) =
      (g.incoming id).map (fun e => .edgeActivity e.id false)
        ++ (outcome p.time id e).map (·.happening) := by
    simp [h.ended_eq, closing, Act.activity, Function.comp_def]
  rw [Attempt.acts, List.map_append, List.map_append, hbegun, hmessages, hended,
    outcome_happening p.time id told.type (e.messages.map (·.2)), StepLog.block]
  simp only [List.append_assoc]

/-- An attempt that the cancellation does not come before, told as a step. -/
theorem Ready.step {run : String → RunState} {rest : List String} (h : Ready g (id :: rest) run p)
    (hgoing : (p.cancelled || sim.cancellation.reached p.time) = false) :
    ∃ s : StepLog, s.Tells sim g (sim.attempt p id) ∧ s.start = p.time ∧
      (sim.attempt p id).after.time = p.time + s.millis ∧
      (sim.attempt p id).acts.map (·.happening) = s.block g := by
  obtain ⟨told, e, ha⟩ := h.attempted sim
  have hstart : ∀ c, sim.cancellation = .after c → p.time ≤ c := by
    intro c hc
    rw [hc] at hgoing
    simpa [Cancellation.reached] using (Bool.or_eq_false_iff.mp hgoing).2
  obtain ⟨millis, htime, hends⟩ := ending_ends hstart (sim.executor told)
  rw [← ha.ending_eq] at htime hends
  obtain ⟨-, hafter, -⟩ := attempt_after ha.told_eq
  have htaken : e.time - p.time = millis := by omega
  refine ⟨⟨id, told.type, p.time, e.messages.map (·.2), e.result, millis⟩,
    ⟨(attempt_node sim p id).symm, ha.result_eq.symm, ha.type_eq, told, ha.told_eq, ha.node_eq, rfl,
      hends⟩, rfl, ?_, ?_⟩
  · rw [hafter, ← ha.ending_eq, htime]
  · rw [ha.block, htaken]

/-! ### The log of a run -/

/-- The attempts of a walk, told as steps. -/
theorem Ready.steps {ids : List String} {run : String → RunState} (h : Ready g ids run p) :
    ∃ steps : List StepLog, List.Forall₂ (StepLog.Tells sim g) steps (sim.walk ids p).attempts ∧
      StepLog.Consecutive p.time steps (sim.walk ids p).time ∧
      (sim.walk ids p).attempts.flatMap (fun a => a.acts.map (·.happening)) =
        steps.flatMap (·.block g) := by
  -- Each step leaves other marks, so the induction is for all of them.
  revert run
  fun_induction Simulation.walk sim ids p with
  | case1 p => exact fun _ => ⟨[], .nil, rfl, rfl⟩
  | case2 id rest p => exact fun _ => ⟨[], .nil, rfl, rfl⟩
  | case3 id rest p hgoing a stop =>
    intro run h
    obtain ⟨s, htells, hstart, htime, hblock⟩ := h.step (Bool.not_eq_true _ ▸ hgoing)
    exact ⟨[s], .cons htells .nil, ⟨hstart, htime.symm⟩, by simp [a, hblock]⟩
  | case4 id rest p hgoing a _ course =>
    rename_i ih
    intro run h
    obtain ⟨s, htells, hstart, htime, hblock⟩ := h.step (Bool.not_eq_true _ ▸ hgoing)
    obtain ⟨steps, hsteps, htimed, hblocks⟩ := ih (h.next sim)
    rw [show a.after.time = p.time + s.millis from htime] at htimed
    refine ⟨s :: steps, .cons htells hsteps, ⟨hstart, htimed⟩, ?_⟩
    rw [List.flatMap_cons, List.flatMap_cons, hblocks]
    exact congrArg (· ++ _) hblock

theorem walk_execution (sim : Simulation) (ids : List String) (p : Progress) :
    (sim.walk ids p).execution = sim.execution := by
  fun_induction walk sim ids p with
  | case1 => rfl
  | case2 => rfl
  | case3 => rfl
  | case4 id rest p _ a _ course ih => exact ih

/-- The nodes left out are released, for the reason that the summary gives. -/
theorem course_log (sim : Simulation) (g : Graph) (plan : Plan) :
    (sim.course g plan).acts.map (·.happening) =
      (sim.course g plan).attempts.flatMap (fun a => a.acts.map (·.happening)) ++
      (sim.course g plan).left.map
        (.nodeSkipped · .idle ((sim.course g plan).summary plan.blocked).reason) := by
  have hacts : ∀ attempts : List Attempt, (attempts.flatMap (·.acts)).map (·.happening) =
      attempts.flatMap (fun a => a.acts.map (·.happening)) := by
    intro attempts
    rw [List.map_flatMap]
  rw [Course.acts, List.map_append, hacts]
  cases hstop : (sim.course g plan).stop with
  | none => simp [sim.walk_left_of_stop_none _ _ hstop, course]
  | some stop =>
    cases stop <;>
      simp [release, Act.skip, Function.comp_def, Summary.reason, Course.summary, hstop, Stop.reason]

theorem opening_log (plan : Plan) : (opening plan).map (·.happening) =
    [.runStarted plan.order] ++ plan.order.map (.nodeStatus · .queued)
      ++ plan.blocked.map (.nodeSkipped · .idle "blocked by a cycle") := by
  simp [opening, release, Act.status, Act.skip, Function.comp_def]

/-- Steps and attempts agree on the nodes of each kind of result. -/
theorem nodes_filter_eq {steps : List StepLog} {attempts : List Attempt}
    (h : List.Forall₂ (StepLog.Tells sim g) steps attempts) (keep : Except StepError Json → Bool) :
    (steps.filter fun s => keep s.result).map (·.node) =
      (attempts.filter fun a => keep a.result).map (·.node) := by
  induction h with
  | nil => rfl
  | cons htells _ ih =>
    rw [List.filter_cons, List.filter_cons, htells.result_eq]
    split
    · rw [List.map_cons, List.map_cons, htells.node_eq, ih]
    · exact ih

theorem course_steps (sim : Simulation) (hg : g.Linked) :
    ∃ steps : List StepLog,
      List.Forall₂ (StepLog.Tells sim g) steps (sim.course g g.plan).attempts ∧
      StepLog.Consecutive 0 steps (sim.course g g.plan).time ∧
      (sim.course g g.plan).attempts.flatMap (fun a => a.acts.map (·.happening)) =
        steps.flatMap (·.block g) :=
  (opening_ready hg).steps

theorem follow_logged (sim : Simulation) (hg : g.Linked) :
    ∃ steps left, (sim.follow g g.plan).Logged sim g steps left := by
  obtain ⟨steps, hsteps, htimed, hblocks⟩ := course_steps sim hg
  have hok : ∀ a : Attempt, a.succeeded = a.result.isOk := by
    intro a
    unfold Attempt.succeeded
    cases a.result <;> rfl
  refine ⟨steps, (sim.course g g.plan).left, hsteps, htimed, ?_, ?_, ?_, rfl, ?_⟩
  · have hnodes := nodes_filter_eq hsteps fun _ => true
    rw [List.filter_true, List.filter_true] at hnodes
    rw [hnodes, course_nodes]
  · have hexecuted := nodes_filter_eq hsteps (·.isOk)
    simp only [← hok] at hexecuted
    exact hexecuted
  · have hfailed := nodes_filter_eq hsteps (!·.isOk)
    simp only [← hok] at hfailed
    exact hfailed
  · have hcourse := sim.course_log g g.plan
    rw [hblocks] at hcourse
    rw [Run.log, follow, Act.map_happening_moments, script, List.map_append, List.map_append,
      opening_log, hcourse]
    simp only [Graph.log, Summary.completed, List.append_assoc, List.map_cons, List.map_nil]

end Simulation

/-! ### The course of a node -/

/-- The status to which a report brings a node. At the start of a run all nodes are idle. -/
def Happening.brings? (id : String) : Happening → Option Status
  | .runStarted _ => some .idle
  | .nodeStatus node status => if node = id then some status else none
  | .nodeSkipped node status _ => if node = id then some status else none
  | _ => none

/-- The statuses through which a log takes a node. -/
def trail (id : String) (log : List Happening) : List Status := log.filterMap (·.brings? id)

section Trail
variable {g : Graph} {id : String} {ids : List String} {steps : List StepLog}

@[simp] theorem trail_append (id : String) (log later : List Happening) :
    trail id (log ++ later) = trail id log ++ trail id later :=
  List.filterMap_append

theorem trail_map (hnd : ids.Nodup) (report : String → Happening) (status : Status)
    (h : ∀ other, (report other).brings? id = if other = id then some status else none) :
    trail id (ids.map report) = if id ∈ ids then [status] else [] := by
  induction ids with
  | nil => rfl
  | cons x ids ih =>
    have hrest := ih (List.nodup_cons.mp hnd).2
    rw [trail, List.map_cons, List.filterMap_cons, h x]
    by_cases hx : x = id
    · have hid : id ∉ ids := hx ▸ (List.nodup_cons.mp hnd).1
      rw [if_neg hid] at hrest
      simp [hx, ← hrest, trail]
    · simpa [hx, Ne.symm hx, trail] using hrest

theorem trail_silent {log : List Happening} (h : ∀ x ∈ log, x.brings? id = none) :
    trail id log = [] :=
  List.filterMap_eq_nil_iff.mpr h

theorem StepLog.trail_block (g : Graph) (s : StepLog) (id : String) :
    trail id (s.block g) = if s.node = id then [.running, s.verdict] else [] := by
  have hedges : ∀ active, trail id ((g.incoming s.node).map fun e => .edgeActivity e.id active) = [] := by
    intro active
    exact trail_silent (by simp [Happening.brings?])
  have hmessages : trail id (s.messages.map (.nodeMessage s.node)) = [] :=
    trail_silent (by simp [Happening.brings?])
  have houtcome : trail id s.outcome = if s.node = id then [s.verdict] else [] := by
    cases h : s.result <;> by_cases hid : s.node = id <;>
      simp [outcome, verdict, succeeded, h, hid, trail, Happening.brings?, Except.isOk,
        Except.toBool]
  rw [block, trail_append, trail_append, trail_append, trail_append, hedges, hedges, hmessages,
    houtcome]
  by_cases hid : s.node = id <;> simp [hid, trail, Happening.brings?]

theorem trail_steps_of_notMem (h : id ∉ steps.map (·.node)) :
    trail id (steps.flatMap (·.block g)) = [] := by
  induction steps with
  | nil => rfl
  | cons s steps ih =>
    obtain ⟨hne, hrest⟩ : id ≠ s.node ∧ id ∉ steps.map (·.node) := by simpa using h
    rw [List.flatMap_cons, trail_append, s.trail_block, if_neg hne.symm, ih hrest]
    rfl

theorem trail_steps (hnd : (steps.map (·.node)).Nodup) {s : StepLog} (hs : s ∈ steps) :
    trail s.node (steps.flatMap (·.block g)) = [.running, s.verdict] := by
  induction steps with
  | nil => simp at hs
  | cons t steps ih =>
    obtain ⟨hnew, hrest⟩ := List.nodup_cons.mp hnd
    rw [List.flatMap_cons, trail_append, t.trail_block]
    obtain rfl | hs := List.mem_cons.mp hs
    · rw [if_pos rfl, trail_steps_of_notMem hnew]
      rfl
    · have hne : t.node ≠ s.node := by
        intro heq
        exact hnew (List.mem_map.mpr ⟨s, hs, heq.symm⟩)
      rw [if_neg hne, ih hrest hs]
      rfl

/-- A log takes a node through the statuses that its parts bring it to, one after the other. -/
theorem trail_log (hg : g.Linked) {left : List String} (horder : steps.map (·.node) ++ left =
    g.plan.order) (summary : Summary) (id : String) :
    trail id (g.log steps left summary) = [.idle] ++ (if id ∈ g.plan.order then [.queued] else [])
      ++ (if id ∈ g.plan.blocked then [.idle] else []) ++ trail id (steps.flatMap (·.block g))
      ++ (if id ∈ left then [.idle] else []) := by
  have hnd : g.plan.order.Nodup := Graph.plan_order_nodup hg
  have hleft : left.Nodup := (List.nodup_append.mp (horder ▸ hnd)).2.1
  have hblocked : g.plan.blocked.Nodup := by
    rw [Graph.plan_blocked hg]
    exact hg.nodes_nodup.filter _
  simp only [Graph.log, trail_append]
  rw [trail_map hnd _ .queued fun _ => rfl, trail_map hblocked _ .idle fun _ => rfl,
    trail_map hleft _ .idle fun _ => rfl]
  simp [trail, Happening.brings?]

end Trail

/-! ### One step at a time -/

/-- The step that is under way after a report, if the report may come while `current` is under way:
a step starts and ends alone, and until its end all reports are of its node and the edges into it. -/
def Graph.turn (g : Graph) (current : Option String) : Happening → Option (Option String)
  | .nodeStarted node _ => if current = none then some (some node) else none
  | .nodeCompleted node _ _ | .nodeFailed node _ => if current = some node then some none else none
  | .nodeMessage node _ => if current = some node then some current else none
  | .edgeActivity edge _ =>
    if current.any fun node => (g.incoming node).any (·.id == edge) then some current else none
  | .nodeStatus node status =>
    if current = (if status.terminal then some node else none) then some current else none
  | .runStarted _ | .runCompleted _ _ _ | .nodeSkipped _ _ _ =>
    if current = none then some none else none

section Turn
variable {g : Graph} {current : Option String} {log : List Happening}

theorem foldlM_turn (h : ∀ x ∈ log, g.turn current x = some current) :
    log.foldlM g.turn current = some current := by
  induction log with
  | nil => rfl
  | cons x log ih =>
    rw [List.foldlM_cons, h x List.mem_cons_self]
    exact ih fun y hy => h y (List.mem_cons_of_mem x hy)

theorem StepLog.foldlM_turn_block (g : Graph) (s : StepLog) :
    (s.block g).foldlM g.turn none = some none := by
  have hedges : ∀ active, ((g.incoming s.node).map fun e => Happening.edgeActivity e.id active).foldlM
      g.turn (some s.node) = some (some s.node) := by
    intro active
    refine foldlM_turn fun x hx => ?_
    obtain ⟨e, he, rfl⟩ := List.mem_map.mp hx
    have hany : (g.incoming s.node).any (·.id == e.id) = true :=
      List.any_eq_true.mpr ⟨e, he, by simp⟩
    simp [Graph.turn, hany]
  have hmessages : (s.messages.map (Happening.nodeMessage s.node)).foldlM g.turn (some s.node) =
      some (some s.node) := by
    refine foldlM_turn fun x hx => ?_
    obtain ⟨m, _, rfl⟩ := List.mem_map.mp hx
    simp [Graph.turn]
  have hstart : [Happening.nodeStatus s.node .running, .nodeStarted s.node s.type].foldlM g.turn none =
      some (some s.node) := by
    simp [Graph.turn, Status.terminal]
  have hend : s.outcome.foldlM g.turn (some s.node) = some none := by
    cases h : s.result <;> simp [outcome, h, Graph.turn, Status.terminal]
  simp only [block, List.foldlM_append, hstart, hedges, hmessages, hend, Option.bind_eq_bind,
    Option.bind_some]

theorem foldlM_turn_steps (g : Graph) (steps : List StepLog) :
    (steps.flatMap (·.block g)).foldlM g.turn none = some none := by
  induction steps with
  | nil => rfl
  | cons s steps ih =>
    rw [List.flatMap_cons, List.foldlM_append, s.foldlM_turn_block]
    exact ih

theorem foldlM_turn_log (g : Graph) (steps : List StepLog) (left : List String)
    (summary : Summary) : (g.log steps left summary).foldlM g.turn none = some none := by
  have hqueued : (g.plan.order.map (Happening.nodeStatus · .queued)).foldlM g.turn none =
      some none := by
    refine foldlM_turn fun x hx => ?_
    obtain ⟨id, _, rfl⟩ := List.mem_map.mp hx
    rfl
  have hskipped : ∀ (ids : List String) (reason : String),
      (ids.map (Happening.nodeSkipped · .idle reason)).foldlM g.turn none = some none := by
    intro ids reason
    refine foldlM_turn fun x hx => ?_
    obtain ⟨id, _, rfl⟩ := List.mem_map.mp hx
    rfl
  have hstart : [Happening.runStarted g.plan.order].foldlM g.turn none = some none := rfl
  have hend : [Happening.runCompleted summary.success summary.cancelled summary.millis].foldlM
      g.turn none = some none := rfl
  simp only [Graph.log, List.foldlM_append, hstart, hqueued, hskipped, foldlM_turn_steps, hend,
    Option.bind_eq_bind, Option.bind_some]

end Turn

/-! ### A whole run -/

namespace Run.Logged
variable {sim : Simulation} {g : Graph} {r : Run} {steps : List StepLog} {left : List String}

/-- The ends that a log reports are those of its steps. -/
theorem completed (h : r.Logged sim g steps left) {node : String} {output : Json} {millis : Nat}
    (hmem : .nodeCompleted node output millis ∈ r.log) : ∃ s ∈ steps, s.millis = millis := by
  rw [h.log] at hmem
  obtain ⟨s, hs, hblock⟩ : ∃ s ∈ steps, .nodeCompleted node output millis ∈ s.block g := by
    simpa [Graph.log] using hmem
  refine ⟨s, hs, ?_⟩
  obtain ⟨_, heq⟩ | heq | ⟨_, _, heq⟩ | ⟨_, heq⟩ | ⟨_, heq⟩ | ⟨_, heq⟩ := StepLog.mem_block hblock <;>
    cases heq
  rfl

theorem trail_step (h : r.Logged sim g steps left) (hg : g.Linked) {s : StepLog} (hs : s ∈ steps) :
    trail s.node r.log = [.idle, .queued, .running, s.verdict] := by
  have hnd : (steps.map (·.node) ++ left).Nodup := h.order ▸ Graph.plan_order_nodup hg
  have hnode : s.node ∈ steps.map (·.node) := List.mem_map_of_mem hs
  have horder : s.node ∈ g.plan.order := h.order ▸ List.mem_append_left left hnode
  have hblocked : s.node ∉ g.plan.blocked := fun hb =>
    Simulation.disjoint_of_mem_blocked hg s.node hb horder
  have hleft : s.node ∉ left := fun hl =>
    (List.nodup_append.mp hnd).2.2 s.node hnode s.node hl rfl
  rw [h.log, trail_log hg h.order, if_pos horder, if_neg hblocked, if_neg hleft,
    trail_steps (List.nodup_append.mp hnd).1 hs]
  rfl

theorem trail_left (h : r.Logged sim g steps left) (hg : g.Linked) {id : String}
    (hid : id ∈ left) : trail id r.log = [.idle, .queued, .idle] := by
  have hnd : (steps.map (·.node) ++ left).Nodup := h.order ▸ Graph.plan_order_nodup hg
  have horder : id ∈ g.plan.order := h.order ▸ List.mem_append_right _ hid
  have hblocked : id ∉ g.plan.blocked := fun hb =>
    Simulation.disjoint_of_mem_blocked hg id hb horder
  have hsteps : id ∉ steps.map (·.node) := fun hs =>
    (List.nodup_append.mp hnd).2.2 id hs id hid rfl
  rw [h.log, trail_log hg h.order, if_pos horder, if_neg hblocked, if_pos hid,
    trail_steps_of_notMem hsteps]
  rfl

theorem trail_blocked (h : r.Logged sim g steps left) (hg : g.Linked) {id : String}
    (hid : id ∈ g.plan.blocked) : trail id r.log = [.idle, .idle] := by
  have horder : id ∉ g.plan.order := Simulation.disjoint_of_mem_blocked hg id hid
  have hall : id ∉ steps.map (·.node) ++ left := h.order ▸ horder
  have hsteps : id ∉ steps.map (·.node) := fun hs => hall (List.mem_append_left _ hs)
  have hleft : id ∉ left := fun hl => hall (List.mem_append_right _ hl)
  rw [h.log, trail_log hg h.order, if_neg horder, if_pos hid, if_neg hleft,
    trail_steps_of_notMem hsteps]
  rfl

end Run.Logged

namespace Simulation
variable {sim : Simulation} {g : Graph} {r : Run}

/-- The log of a run has its parts in order and each step in one block, with all that the step sends
until it ends. It takes every node through its statuses in turn, never has two steps under way, and all
its events are those of one execution. -/
theorem run_log (hg : g.Linked) (h : sim.run g = .ok r) :
    (∃ steps left, r.Logged sim g steps left) ∧
    (∀ id ∈ r.summary.executed, trail id r.log = [.idle, .queued, .running, .success]) ∧
    (∀ id ∈ r.summary.failed, trail id r.log = [.idle, .queued, .running, .error]) ∧
    (∀ id ∈ r.summary.skipped, id ∉ g.plan.blocked → trail id r.log = [.idle, .queued, .idle]) ∧
    (∀ id ∈ g.plan.blocked, trail id r.log = [.idle, .idle]) ∧
    r.log.foldlM g.turn none = some none ∧
    ∀ started, (r.events sim.execution started).map (·.happening) = r.log ∧
      ∀ e ∈ r.events sim.execution started, e.execution = r.summary.execution := by
  obtain rfl := run_eq_follow h
  obtain ⟨steps, left, hlog⟩ := follow_logged sim hg
  refine ⟨⟨steps, left, hlog⟩, ?_, ?_, ?_, fun id hid => hlog.trail_blocked hg hid, ?_, ?_⟩
  · intro id hid
    rw [← hlog.executed] at hid
    obtain ⟨s, hs, rfl⟩ := List.mem_map.mp hid
    obtain ⟨hs, hok⟩ := List.mem_filter.mp hs
    rw [hlog.trail_step hg hs, StepLog.verdict, if_pos hok]
  · intro id hid
    rw [← hlog.failed] at hid
    obtain ⟨s, hs, rfl⟩ := List.mem_map.mp hid
    obtain ⟨hs, hfailed⟩ := List.mem_filter.mp hs
    rw [hlog.trail_step hg hs, StepLog.verdict, if_neg (by simpa using hfailed)]
  · intro id hid hout
    rw [← hlog.skipped] at hid
    exact hlog.trail_left hg ((List.mem_append.mp hid).resolve_left hout)
  · rw [hlog.log]
    exact foldlM_turn_log g steps left _
  · intro started
    refine ⟨by simp [Run.events, Run.log], fun e he => ?_⟩
    obtain ⟨m, _, rfl⟩ := List.mem_map.mp he
    exact (walk_execution sim g.plan.order _).symm

/-- Steps that send one message at once and two later. The second step is cut off between those. -/
def talkativeRun : Simulation where
  registry := {}
  executor := fun told =>
    { messages := [.info told.node], later := [(2, .info "half"), (4, .info "rest")], delay := 5
      outcome := fun _ => .ok .null }
  settings := {}
  input := .obj []
  cancellation := .after 8

theorem run_log_row : ∃ r, talkativeRun.run row = .ok r ∧ row.Linked ∧
    r.summary = { executed := ["first"], failed := ["second"], skipped := ["loop", "third"],
                  cancelled := true, millis := 8 } ∧
    r.log.filter (fun x => x matches .nodeMessage _ _ | .nodeCompleted _ _ _ | .nodeFailed _ _) =
      [.nodeMessage "first" (.info "first"), .nodeMessage "first" (.info "half"),
        .nodeMessage "first" (.info "rest"), .nodeCompleted "first" .null 5,
        .nodeMessage "second" (.info "second"), .nodeMessage "second" (.info "half"),
        .nodeFailed "second" "Cancelled"] ∧
    (∃ steps left, r.Logged talkativeRun row steps left) ∧
    (∀ id ∈ r.summary.executed, trail id r.log = [.idle, .queued, .running, .success]) ∧
    (∀ id ∈ r.summary.failed, trail id r.log = [.idle, .queued, .running, .error]) ∧
    (∀ id ∈ r.summary.skipped, id ∉ row.plan.blocked →
      trail id r.log = [.idle, .queued, .idle]) ∧
    (∀ id ∈ row.plan.blocked, trail id r.log = [.idle, .idle]) ∧
    r.log.foldlM row.turn none = some none ∧
    ∀ started, (r.events talkativeRun.execution started).map (·.happening) = r.log ∧
      ∀ e ∈ r.events talkativeRun.execution started, e.execution = r.summary.execution :=
  ⟨_, run_of_skip rfl, row_linked, by decide, rfl, run_log row_linked (run_of_skip rfl)⟩

end Simulation
end WorkflowCanvas
