import WorkflowCanvas.Proofs.Run.Shadow

/-! Steps in flight: from the reports alone one knows when a step is under way, and at any such
moment its node is the only one running, with all before it done and all after it queued. -/
namespace WorkflowCanvas

/-- A log that ends while the step of a node is in flight: it has started, every edge into the node
has been lit, and nothing but messages has come since. -/
def Graph.Flying (g : Graph) (id : String) (log : List Happening) : Prop :=
  ∃ earlier type, ∃ messages : List StepMessage, log = earlier ++ .nodeStarted id type ::
    ((g.incoming id).map (fun e => .edgeActivity e.id true) ++ messages.map (.nodeMessage id))

/-- How a graph stands while the step of a node is in flight. -/
structure Graph.InFlight (g : Graph) (id : String) (now : Graph) : Prop where
  running : (now.nodes.filter (·.status = .running)).map (·.id) = [id]
  order : ∃ earlier later, g.plan.order = earlier ++ id :: later ∧
    (∀ n ∈ now.nodes, n.id ∈ earlier → n.status = .success ∨ n.status = .error) ∧
    ∀ n ∈ now.nodes, n.id ∈ later → n.status = .queued
  blocked : ∀ n ∈ now.nodes, n.id ∈ g.plan.blocked → n.status = .idle
  lit : ∀ e ∈ now.edges, e.animated = true ↔ e.target = id

/-! ### Reading flights from reports -/

/-- A reader that knows the node whose step has started, and how many edges into it are out. -/
def Graph.flight (g : Graph) (s : Option (String × Nat)) : Happening → Option (String × Nat)
  | .nodeStarted id _ => some (id, (g.incoming id).length)
  | .edgeActivity _ true =>
    match s with
    | some (id, out + 1) => some (id, out)
    | _ => none
  | .nodeMessage _ _ => s
  | _ => none

namespace Graph
variable (g : Graph)

theorem flight_edges (id : String) (edges : List String) :
    (edges.map fun edge => Happening.edgeActivity edge true).foldl g.flight
      (some (id, edges.length)) = some (id, 0) := by
  induction edges with
  | nil => rfl
  | cons edge edges ih => exact ih

theorem flight_messages (node : String) (messages : List StepMessage) (s : Option (String × Nat)) :
    (messages.map (Happening.nodeMessage node)).foldl g.flight s = s := by
  induction messages with
  | nil => rfl
  | cons message messages ih => exact ih

variable {g} {id : String}

theorem Flying.flight {log : List Happening} (h : g.Flying id log) (s : Option (String × Nat)) :
    log.foldl g.flight s = some (id, 0) := by
  obtain ⟨earlier, type, messages, rfl⟩ := h
  have hedges := g.flight_edges id ((g.incoming id).map (·.id))
  rw [List.map_map, List.length_map] at hedges
  rw [List.foldl_append, List.foldl_cons, List.foldl_append, flight_messages]
  exact hedges

/-- Whenever the reader finds a step in flight, so it is. -/
def Aloft (g : Graph) (s : Option (String × Nat)) (m : Moment) : Prop :=
  ∀ id, s = some (id, 0) → g.InFlight id m.graph

theorem WellFormed.mem_incoming_ids (hg : g.WellFormed) {e : Edge} (he : e ∈ g.edges) :
    e.id ∈ (g.incoming id).map (·.id) ↔ e.target = id := by
  constructor
  · intro h
    obtain ⟨e', he', hid⟩ := List.mem_map.mp h
    obtain ⟨hedge, htarget⟩ := List.mem_filter.mp he'
    obtain rfl := List.inj_on_of_nodup_map hg.edges_nodup hedge he hid
    simpa using htarget
  · intro h
    exact List.mem_map_of_mem (List.mem_filter.mpr ⟨he, by simpa using h⟩)

theorem running_marked (g : Graph) (m : Marks) :
    ((g.marked m).nodes.filter (·.status = .running)).map (·.id) =
      g.nodeIds.filter fun id => (m.run id).status = .running := by
  simp only [marked, nodeIds, List.filter_map, List.map_map]
  rfl

theorem filter_nodeIds (hg : g.Linked) (hid : id ∈ g.nodeIds) :
    g.nodeIds.filter (· == id) = [id] := by
  rw [List.filter_beq, List.count_eq_one_of_mem hg.nodes_nodup hid]
  rfl

end Graph

namespace Act
variable {g : Graph}

/-- An act after whose report no step is in flight. -/
def Grounded (a : Act) : Prop := ∀ (g : Graph) s, g.flight s a.happening = none

theorem along_grounded {acts : List Act} (h : ∀ a ∈ acts, a.Grounded) (now : Graph)
    (s : Option (String × Nat)) : Along g.flight g.Aloft s (moments now acts) := by
  induction acts generalizing now s with
  | nil => trivial
  | cons a acts ih =>
    have hnone := h a List.mem_cons_self g s
    refine ⟨fun id hs => ?_, ih (fun b hb => h b (List.mem_cons_of_mem a hb)) _ _⟩
    rw [hnone] at hs
    cases hs

/-- The edges into a node are lit one by one, and with the last of them its step is in flight. -/
theorem along_activity {id : String} (time : Nat) (edges : List String) (now : Graph)
    (h : g.InFlight id (perform now (edges.map (activity time true)))) :
    Along g.flight g.Aloft (some (id, edges.length))
      (moments now (edges.map (activity time true))) := by
  induction edges generalizing now with
  | nil => trivial
  | cons edge edges ih =>
    refine ⟨fun other hother => ?_, ih _ h⟩
    obtain ⟨rfl, hlength⟩ : id = other ∧ edges.length = 0 := by
      simpa [Graph.flight, activity] using hother
    obtain rfl := List.length_eq_zero_iff.mp hlength
    exact h

theorem along_message {id : String} (start : Nat) (messages : List (Nat × StepMessage))
    {now : Graph} (h : g.InFlight id now) :
    Along g.flight g.Aloft (some (id, 0)) (moments now (messages.map (message start id))) := by
  induction messages with
  | nil => trivial
  | cons message messages ih =>
    refine ⟨fun other hother => ?_, ih⟩
    obtain ⟨rfl, -⟩ := Prod.mk.inj (Option.some.inj hother)
    exact h

end Act

namespace Simulation
variable {sim : Simulation} {g : Graph} {id : String} {ids rest done : List String}
  {run : String → RunState} {p : Progress}

theorem closing_grounded (start : Nat) (node : String) (edges : List String) (e : Ending) :
    ∀ a ∈ closing start node edges e, a.Grounded := by
  intro a ha
  obtain ha | ha := List.mem_append.mp ha
  · obtain ⟨edge, _, rfl⟩ := List.mem_map.mp ha
    exact fun _ _ => rfl
  · obtain ⟨s, result, rfl⟩ | ⟨output, rfl⟩ | ⟨message, rfl⟩ := mem_outcome ha <;>
      exact fun _ _ => rfl

theorem release_grounded (time : Nat) (reason : String) (nodes : List String) :
    ∀ a ∈ release time reason nodes, a.Grounded := by
  intro a ha
  obtain ⟨node, _, rfl⟩ := List.mem_map.mp ha
  exact fun _ _ => rfl

theorem opening_grounded (plan : Plan) : ∀ a ∈ opening plan, a.Grounded := by
  intro a ha
  obtain rfl | ha := List.mem_cons.mp ha
  · exact fun _ _ => rfl
  · obtain ⟨id, rfl⟩ | ⟨id, rfl⟩ := mem_opening_tail ha <;> exact fun _ _ => rfl

theorem Attempted.flying {a : Attempt} {told : StepContext} {e : Ending}
    (ha : Attempted sim g p id a told e) (earlier : List Happening) :
    g.Flying id (earlier ++ a.begun.map (·.happening)) := by
  refine ⟨earlier ++ [.nodeStatus id .running], told.type, [], ?_⟩
  simp [ha.begun_eq, beginning, ha.node_eq, Act.status, Act.activity, Function.comp_def]

/-- A run between two steps: the nodes of the order that it has passed are done, those to come are
queued, and the nodes outside the order are idle. -/
structure Between (g : Graph) (done ids : List String) (run : String → RunState) (p : Progress) :
    Prop extends Ready g ids run p where
  order : g.plan.order = done ++ ids
  done : ∀ id ∈ done, (run id).status = .success ∨ (run id).status = .error
  idle : ∀ id ∉ g.plan.order, (run id).status = .idle

namespace Between

theorem next (h : Between g done (id :: rest) run p) :
    Between g (done ++ [id]) rest (Function.update run id (sim.attempt p id).mark)
      (sim.attempt p id).after where
  toReady := h.toReady.next sim
  order := by rw [h.order]; simp
  done other hother := by
    by_cases heq : other = id
    · rw [heq, Function.update_self, Attempt.mark]
      cases (sim.attempt p id).result <;> simp
    · rw [Function.update_of_ne heq]
      exact h.done other (by simpa [heq] using hother)
  idle other hother := by
    have hne : other ≠ id := fun heq => hother (by rw [h.order]; simp [heq])
    rw [Function.update_of_ne hne]
    exact h.idle other hother

theorem not_running (h : Between g done ids run p) (other : String) :
    (run other).status ≠ .running := by
  by_cases horder : other ∈ g.plan.order
  · rw [h.order, List.mem_append] at horder
    obtain hdone | hids := horder
    · obtain hstatus | hstatus := h.done other hdone <;> simp [hstatus]
    · simp [h.queued other hids]
  · simp [h.idle other horder]

/-- Once a step has begun, it is in flight. -/
theorem inFlight (hg : g.WellFormed) (h : Between g done (id :: rest) run p) :
    g.InFlight id (Act.perform p.graph (sim.attempt p id).begun) := by
  have hnd : (done ++ id :: rest).Nodup := h.order ▸ Graph.plan_order_nodup hg.linked
  have hid : id ∈ g.nodeIds := h.subset List.mem_cons_self
  rw [h.flight sim]
  refine ⟨?_, ⟨done, rest, h.order, ?_, ?_⟩, ?_, ?_⟩
  · rw [Graph.running_marked, ← Graph.filter_nodeIds hg.linked hid]
    refine List.filter_congr fun other _ => ?_
    by_cases heq : other = id
    · simp [heq]
    · simp [heq, h.not_running other]
  · intro n hn hdone
    obtain ⟨n₀, _, rfl⟩ := List.mem_map.mp hn
    have hne : n₀.id ≠ id := fun heq => (List.nodup_append.mp hnd).2.2 n₀.id hdone id (by simp) heq
    simpa [Node.status, Node.setRun, hne] using h.done n₀.id hdone
  · intro n hn hrest
    obtain ⟨n₀, _, rfl⟩ := List.mem_map.mp hn
    have hne : n₀.id ≠ id := fun heq => (List.nodup_cons.mp h.nodup).1 (heq ▸ hrest)
    have hqueued := h.queued n₀.id (List.mem_cons_of_mem id hrest)
    simp [Node.status, Node.setRun, hne, hqueued]
  · intro n hn hblocked
    obtain ⟨n₀, _, rfl⟩ := List.mem_map.mp hn
    have hout : n₀.id ∉ g.plan.order := disjoint_of_mem_blocked hg.linked n₀.id hblocked
    have hne : n₀.id ≠ id := fun heq => hout (by rw [h.order]; simp [heq])
    simpa [Node.status, Node.setRun, hne] using h.idle n₀.id hout
  · intro e he
    obtain ⟨e₀, he₀, rfl⟩ := List.mem_map.mp he
    simp only [decide_eq_true_eq]
    exact hg.mem_incoming_ids he₀

theorem along_attempt (hg : g.WellFormed) (h : Between g done (id :: rest) run p)
    (s : Option (String × Nat)) :
    Along g.flight g.Aloft s (Act.moments p.graph (sim.attempt p id).acts) := by
  obtain ⟨told, e, ha⟩ := h.attempted sim
  have hflight : g.InFlight id (Act.perform p.graph (sim.attempt p id).begun) := h.inFlight hg
  have hbegun : Along g.flight g.Aloft s (Act.moments p.graph (sim.attempt p id).begun) := by
    rw [ha.begun_eq, beginning, ha.node_eq] at hflight ⊢
    rw [Act.perform_append] at hflight
    have hlit := Act.along_activity p.time _ _ hflight
    rw [List.length_map] at hlit
    refine ⟨fun other hother => ?_, fun other hother => ?_, hlit⟩
    · cases hother
    -- If no edge leads to the node, its step is in flight as soon as it has started.
    · obtain ⟨rfl, hlength⟩ : id = other ∧ (g.incoming id).length = 0 := by
        simpa [Graph.flight] using hother
      have hnil := List.length_eq_zero_iff.mp hlength
      rw [hnil] at hflight
      exact hflight
  have hread : ((Act.moments p.graph (sim.attempt p id).begun).map (·.happening)).foldl g.flight s =
      some (id, 0) := by
    rw [Act.map_happening_moments]
    exact (ha.flying []).flight s
  rw [Attempt.acts, Act.moments_append, Act.moments_append]
  refine (hbegun.append ?_).append ?_
  · rw [hread, ha.sent_eq]
    exact Act.along_message _ _ hflight
  · rw [ha.ended_eq]
    exact Act.along_grounded (closing_grounded _ _ _ _) _ _

theorem along_walk (hg : g.WellFormed) (h : Between g done ids run p)
    (s : Option (String × Nat)) :
    Along g.flight g.Aloft s (Act.moments p.graph (sim.walk ids p).acts) := by
  revert done run s
  fun_induction Simulation.walk sim ids p with
  | case1 p =>
    intro done run h s
    trivial
  | case2 id rest p =>
    intro done run h s
    exact Act.along_grounded (release_grounded _ _ _) _ _
  | case3 id rest p _ a stop =>
    intro done run h s
    simp only [Course.acts, List.flatMap_cons, List.flatMap_nil, List.append_nil,
      Act.moments_append]
    exact (h.along_attempt hg s).append (Act.along_grounded (release_grounded _ _ _) _ _)
  | case4 id rest p _ a _ =>
    rename_i ih
    intro done run h s
    rw [acts_cons, Act.moments_append, ← attempt_graph]
    exact (h.along_attempt hg s).append (ih h.next _)

end Between

theorem opening_between (hg : g.Linked) :
    Between g [] g.plan.order (queued g.plan) { graph := Act.perform g (opening g.plan) } where
  toReady := opening_ready hg
  order := rfl
  done _ h := by simp at h
  idle id h := by rw [queued, if_neg h]

/-- Throughout a run the reports tell which step is in flight. -/
theorem along_flight (sim : Simulation) (hg : g.WellFormed) (s : Option (String × Nat)) :
    Along g.flight g.Aloft s (sim.follow g g.plan).moments := by
  rw [follow, script, Act.moments_append, Act.moments_append, Act.perform_append]
  refine ((Act.along_grounded (opening_grounded _) _ _).append ?_).append ?_
  · exact (opening_between hg.linked).along_walk hg _
  · refine Act.along_grounded (fun a ha => ?_) _ _
    obtain rfl := List.mem_singleton.mp ha
    exact fun _ _ => rfl

theorem begun_infix (sim : Simulation) (plan : Plan) {a : Attempt}
    (ha : a ∈ (sim.course g plan).attempts) : a.begun <:+: sim.script g plan := by
  have hbegun : a.begun <:+: a.acts :=
    ((List.prefix_append a.begun a.sent).trans (List.prefix_append _ a.ended)).isInfix
  have hacts : a.acts <:+: (sim.course g plan).attempts.flatMap (·.acts) := by
    rw [List.flatMap_def]
    exact List.infix_of_mem_flatten (List.mem_map_of_mem ha)
  have hcourse : (sim.course g plan).attempts.flatMap (·.acts) <:+: (sim.course g plan).acts :=
    (List.prefix_append _ _).isInfix
  exact hbegun.trans (hacts.trans (hcourse.trans ⟨opening plan, [Summary.completed _], rfl⟩))

/-- Every step that a run takes is in flight at some moment. -/
theorem follow_flies (sim : Simulation) (hg : g.Linked) {a : Attempt}
    (ha : a ∈ (sim.course g g.plan).attempts) : ∃ before m after,
    (sim.follow g g.plan).moments = before ++ m :: after ∧
    g.Flying a.node ((before ++ [m]).map (·.happening)) := by
  obtain ⟨p, told, e, hattempted⟩ := (opening_ready hg).walk_attempted sim a ha
  obtain ⟨before, after, hscript⟩ := sim.begun_infix g.plan ha
  obtain ⟨first, last, hbegun⟩ : ∃ first last, a.begun = first ++ [last] :=
    ⟨_, _, (List.dropLast_concat_getLast (by simp [hattempted.begun_eq, beginning])).symm⟩
  have hflying := hattempted.flying (before.map (·.happening))
  obtain ⟨m, later, hmoments, hm⟩ := Act.moments_split g (before ++ first) last after
  rw [hbegun] at hscript hflying
  refine ⟨Act.moments g (before ++ first), m, later, ?_, ?_⟩
  · rw [follow, ← hscript, ← hmoments]
    simp
  · simpa [Act.map_happening_moments, hm] using hflying

theorem follow_ends (sim : Simulation) (g : Graph) (plan : Plan) : ∃ before,
    (sim.follow g plan).moments = before ++ [⟨(sim.follow g plan).summary.millis,
      .runCompleted (sim.follow g plan).summary.success (sim.follow g plan).summary.cancelled
        (sim.follow g plan).summary.millis, (sim.follow g plan).graph⟩] := by
  refine ⟨Act.moments g (opening plan ++ (sim.course g plan).acts), ?_⟩
  simp only [follow, script, Act.moments_append, Act.perform_append]
  rfl

/-- A subscriber that misses nothing sees the graph. At every moment of a run its shadow shows the
graph of that moment, and the report tells what the graph shows; while a step is in flight it is the
only one, and every step that the run takes is in flight at some moment. The last report tells how
the run ended. -/
theorem run_reports {r : Run} (hg : g.WellFormed) (h : sim.run g = .ok r) :
    (∀ before m after, r.moments = before ++ m :: after →
      (∀ s : Shadow, (((before ++ [m]).map (·.happening)).foldl Shadow.see s).Shows m.graph) ∧
      m.graph.clear = g.clear ∧ m.Carries r.summary ∧
      ∀ id, g.Flying id ((before ++ [m]).map (·.happening)) → g.InFlight id m.graph) ∧
    (∀ id ∈ r.summary.executed ++ r.summary.failed, ∃ before m after,
      r.moments = before ++ m :: after ∧ g.Flying id ((before ++ [m]).map (·.happening))) ∧
    ∃ before, r.moments = before ++ [⟨r.summary.millis,
      .runCompleted r.summary.success r.summary.cancelled r.summary.millis, r.graph⟩] := by
  obtain rfl := run_eq_follow h
  refine ⟨fun before m after hsplit => ⟨fun s => ?_, ?_, ?_, fun id hflying => ?_⟩, ?_,
    follow_ends sim g g.plan⟩
  · have hshows := sim.along_shows g g.plan s
    rw [hsplit] at hshows
    exact hshows.at.1
  · have hshows := sim.along_shows g g.plan {}
    rw [hsplit] at hshows
    exact hshows.at.2
  · exact sim.follow_carries hg.linked m (by simp [hsplit])
  · have hflight := along_flight sim hg none
    rw [hsplit] at hflight
    exact hflight.at id (hflying.flight none)
  · intro id hid
    have hattempted := (Course.attempted_perm (sim.course g g.plan) g.plan.blocked).mem_iff.mp hid
    obtain ⟨a, ha, rfl⟩ := List.mem_map.mp hattempted
    exact follow_flies sim hg.linked ha

theorem run_reports_row : ∃ r, (rowRun .carryOn).run row = .ok r ∧ row.WellFormed ∧
    r.summary.executed = ["first", "third"] ∧ r.summary.failed = ["second"] ∧
    (∀ before m after, r.moments = before ++ m :: after →
      (∀ s : Shadow, (((before ++ [m]).map (·.happening)).foldl Shadow.see s).Shows m.graph) ∧
      m.graph.clear = row.clear ∧ m.Carries r.summary ∧
      ∀ id, row.Flying id ((before ++ [m]).map (·.happening)) → row.InFlight id m.graph) ∧
    (∀ id ∈ r.summary.executed ++ r.summary.failed, ∃ before m after,
      r.moments = before ++ m :: after ∧ row.Flying id ((before ++ [m]).map (·.happening))) ∧
    ∃ before, r.moments = before ++ [⟨r.summary.millis,
      .runCompleted r.summary.success r.summary.cancelled r.summary.millis, r.graph⟩] :=
  ⟨_, run_of_skip rfl, ⟨by decide, by decide, by decide, by decide⟩, by decide, by decide,
    run_reports ⟨by decide, by decide, by decide, by decide⟩ (run_of_skip rfl)⟩

end Simulation
end WorkflowCanvas
