import WorkflowCanvas.Proofs.Run.Course

/-! Whoever follows the reports of a run sees the graph: a shadow that changes with the reports
alone shows, at every moment, the status of every node and the edges that are lit. -/
namespace WorkflowCanvas

/-! ### Readers of reports -/

section Reader
variable {σ : Type} (read : σ → Happening → σ) (P : σ → Moment → Prop)

/-- At every moment `P` holds of what a reader has made of the reports so far. -/
def Along : σ → List Moment → Prop
  | _, [] => True
  | s, m :: moments => P (read s m.happening) m ∧ Along (read s m.happening) moments

variable {read P} {s : σ}

theorem Along.append {moments later : List Moment} (h : Along read P s moments)
    (hlater : Along read P ((moments.map (·.happening)).foldl read s) later) :
    Along read P s (moments ++ later) := by
  induction moments generalizing s with
  | nil => exact hlater
  | cons m moments ih => exact ⟨h.1, ih h.2 hlater⟩

theorem Along.at {before after : List Moment} {m : Moment}
    (h : Along read P s (before ++ m :: after)) :
    P (((before ++ [m]).map (·.happening)).foldl read s) m := by
  induction before generalizing s with
  | nil => exact h.1
  | cons first before ih => exact ih h.2

end Reader

theorem Act.map_happening_moments (g : Graph) (acts : List Act) :
    (Act.moments g acts).map (·.happening) = acts.map (·.happening) := by
  induction acts generalizing g with
  | nil => rfl
  | cons a acts ih => simp [Act.moments, ih]

/-! ### The shadow -/

/-- What a subscriber knows of a graph: the status of each node, and which edges are lit. -/
structure Shadow where
  status : String → Status := fun _ => .idle
  lit : String → Bool := fun _ => false

namespace Shadow

/-- The shadow after a report. At the start of a run all nodes are idle and no edge is lit. -/
def see (s : Shadow) : Happening → Shadow
  | .runStarted _ => {}
  | .nodeStatus node status => { s with status := Function.update s.status node status }
  | .nodeSkipped node status _ => { s with status := Function.update s.status node status }
  | .edgeActivity edge active => { s with lit := Function.update s.lit edge active }
  | _ => s

/-- A shadow shows a graph if it agrees with every node and every edge. -/
def Shows (s : Shadow) (g : Graph) : Prop :=
  (∀ n ∈ g.nodes, n.status = s.status n.id) ∧ ∀ e ∈ g.edges, e.animated = s.lit e.id

end Shadow

/-- What is to be seen of marks. -/
def Marks.shadow (m : Marks) : Shadow := ⟨fun id => (m.run id).status, m.lit⟩

theorem Marks.shadow_shows (g : Graph) (m : Marks) : m.shadow.Shows (g.marked m) := by
  constructor
  · intro n hn
    obtain ⟨n₀, _, rfl⟩ := List.mem_map.mp hn
    rfl
  · intro e he
    obtain ⟨e₀, _, rfl⟩ := List.mem_map.mp he
    rfl

theorem Marks.shadow_setRun (m : Marks) (id : String) (f : RunState → RunState) (status : Status)
    (hf : (f (m.run id)).status = status) :
    (m.setRun id f).shadow =
      { m.shadow with status := Function.update m.shadow.status id status } := by
  simp only [shadow, setRun, Shadow.mk.injEq, and_true]
  funext other
  by_cases h : other = id
  · subst h; simp [hf]
  · simp [h]

theorem Marks.shadow_light (m : Marks) (edge : String) (active : Bool) :
    (m.light [edge] active).shadow =
      { m.shadow with lit := Function.update m.shadow.lit edge active } := by
  simp only [shadow, light, Shadow.mk.injEq, true_and]
  funext other
  by_cases h : other = edge <;> simp [h]

namespace Act

/-- An act that changes of the graph what its report says, and nothing else that a shadow shows. -/
def Reported (a : Act) : Prop :=
  ∀ (g : Graph) (m : Marks), ∃ m', a.change (g.marked m) = g.marked m' ∧
    m'.shadow = m.shadow.see a.happening

theorem status_reported (time : Nat) (node : String) (s : Status) (result : RunState → RunState) :
    (Act.status time node s result).Reported := fun g m =>
  ⟨_, g.updateNode_marked m node _, m.shadow_setRun node _ s rfl⟩

theorem skip_reported (time : Nat) (reason node : String) : (Act.skip time reason node).Reported :=
  fun g m => ⟨_, g.updateNode_marked m node _, m.shadow_setRun node _ .idle rfl⟩

theorem activity_reported (time : Nat) (active : Bool) (edge : String) :
    (Act.activity time active edge).Reported := fun g m =>
  ⟨_, g.updateEdge_marked m edge active, m.shadow_light edge active⟩

theorem quiet_reported (time : Nat) (h : Happening) (hsee : ∀ s : Shadow, s.see h = s) :
    Reported { time, happening := h } := fun _ m => ⟨m, rfl, (hsee m.shadow).symm⟩

theorem along_shadow (g : Graph) (m : Marks) (acts : List Act) (h : ∀ a ∈ acts, a.Reported) :
    Along Shadow.see (fun s moment => s.Shows moment.graph ∧ moment.graph.clear = g.clear) m.shadow
      (moments (g.marked m) acts) := by
  induction acts generalizing m with
  | nil => trivial
  | cons a acts ih =>
    obtain ⟨m', hchange, hshadow⟩ := h a List.mem_cons_self g m
    have hrest := ih m' fun b hb => h b (List.mem_cons_of_mem a hb)
    simp only [moments, Along, hchange, ← hshadow]
    exact ⟨⟨m'.shadow_shows g, g.marked_marked m' {}⟩, hrest⟩

end Act

namespace Simulation
variable (sim : Simulation)

theorem beginning_reported (time : Nat) (told : StepContext) (edges : List String) :
    ∀ a ∈ beginning time told edges, a.Reported := by
  intro a ha
  obtain rfl | rfl | ⟨edge, rfl⟩ := mem_beginning ha
  · exact Act.status_reported _ _ _ _
  · exact Act.quiet_reported _ _ fun _ => rfl
  · exact Act.activity_reported _ _ _

theorem closing_reported (start : Nat) (node : String) (edges : List String) (e : Ending) :
    ∀ a ∈ closing start node edges e, a.Reported := by
  intro a ha
  obtain ha | ha := List.mem_append.mp ha
  · obtain ⟨edge, _, rfl⟩ := List.mem_map.mp ha
    exact Act.activity_reported _ _ _
  · obtain ⟨s, result, rfl⟩ | ⟨output, rfl⟩ | ⟨message, rfl⟩ := mem_outcome ha
    · exact Act.status_reported _ _ _ _
    · exact Act.quiet_reported _ _ fun _ => rfl
    · exact Act.quiet_reported _ _ fun _ => rfl

theorem attempt_reported (p : Progress) (id : String) :
    ∀ a ∈ (sim.attempt p id).acts, a.Reported := by
  unfold attempt
  split
  · intro a ha
    simp only [Attempt.acts, attemptNode, List.mem_append] at ha
    obtain (ha | ha) | ha := ha
    · exact beginning_reported _ _ _ a ha
    · obtain ⟨message, _, rfl⟩ := List.mem_map.mp ha
      exact Act.quiet_reported _ _ fun _ => rfl
    · exact closing_reported _ _ _ _ a ha
  · intro a ha
    simp [Attempt.acts] at ha

theorem release_reported (time : Nat) (reason : String) (nodes : List String) :
    ∀ a ∈ release time reason nodes, a.Reported := by
  intro a ha
  obtain ⟨node, _, rfl⟩ := List.mem_map.mp ha
  exact Act.skip_reported _ _ _

theorem walk_reported (ids : List String) (p : Progress) :
    ∀ a ∈ (sim.walk ids p).acts, a.Reported := by
  fun_induction walk sim ids p with
  | case1 => simp [Course.acts]
  | case2 => exact release_reported _ _ _
  | case3 id rest p _ a stop =>
    intro b hb
    simp only [Course.acts, List.flatMap_cons, List.flatMap_nil, List.append_nil,
      List.mem_append] at hb
    obtain hb | hb := hb
    · exact sim.attempt_reported p id b hb
    · exact release_reported _ _ _ b hb
  | case4 id rest p _ a _ course ih =>
    intro b hb
    rw [acts_cons, List.mem_append] at hb
    obtain hb | hb := hb
    · exact sim.attempt_reported p id b hb
    · exact ih b hb

theorem opening_reported (plan : Plan) : ∀ a ∈ (opening plan).tail, a.Reported := by
  intro a ha
  obtain ⟨id, rfl⟩ | ⟨id, rfl⟩ := mem_opening_tail ha
  · exact Act.status_reported _ _ _ _
  · exact Act.skip_reported _ _ _

theorem completed_reported (s : Summary) : s.completed.Reported :=
  Act.quiet_reported _ _ fun _ => rfl

/-- After the start of a run, which clears the graph, nothing changes without a report. -/
theorem script_reported (g : Graph) (plan : Plan) :
    ∀ a ∈ (sim.script g plan).tail, a.Reported := by
  intro a ha
  have hscript : (sim.script g plan).tail = (opening plan).tail ++ (sim.course g plan).acts ++
      [((sim.course g plan).summary plan.blocked).completed] := rfl
  rw [hscript, List.mem_append, List.mem_append] at ha
  obtain (ha | ha) | ha := ha
  · exact opening_reported plan a ha
  · exact sim.walk_reported _ _ a ha
  · obtain rfl := List.mem_singleton.mp ha
    exact completed_reported _

/-- From the start of a run on, a shadow shows the graph, whatever it was before. -/
theorem along_shows (g : Graph) (plan : Plan) (s : Shadow) :
    Along Shadow.see (fun s moment => s.Shows moment.graph ∧ moment.graph.clear = g.clear) s
      (sim.follow g plan).moments :=
  ⟨⟨Marks.shadow_shows g {}, g.marked_marked {} {}⟩,
    Act.along_shadow g {} _ (sim.script_reported g plan)⟩

end Simulation

/-! ### Results in reports -/

/-- A report of a result tells what the graph shows of the node, and the report of the end what the
summary of the run says. -/
def Moment.Carries (summary : Summary) (m : Moment) : Prop :=
  match m.happening with
  | .nodeCompleted id output _ =>
    ∃ n, m.graph.node? id = some n ∧ n.data.run.lastOutput = some output
  | .nodeFailed id error => ∃ n, m.graph.node? id = some n ∧ n.data.run.lastError = some error
  | .runCompleted success cancelled millis =>
    success = summary.success ∧ cancelled = summary.cancelled ∧ millis = summary.millis
  | _ => True

namespace Act
variable {g : Graph} {acts later : List Act} {summary : Summary}

theorem perform_reported (h : ∀ a ∈ acts, a.Reported) (m : Marks) :
    ∃ m', perform (g.marked m) acts = g.marked m' := by
  induction acts generalizing m with
  | nil => exact ⟨m, rfl⟩
  | cons a acts ih =>
    obtain ⟨m', hchange, -⟩ := h a List.mem_cons_self g m
    obtain ⟨m'', hrest⟩ := ih (fun b hb => h b (List.mem_cons_of_mem a hb)) m'
    exact ⟨m'', by rw [← hrest, ← hchange]; rfl⟩

/-- Acts whose reports tell what the graph and the summary show. -/
def Carrying (g : Graph) (summary : Summary) (acts : List Act) : Prop :=
  ∀ m, ∀ moment ∈ moments (g.marked m) acts, moment.Carries summary

theorem Carrying.append (h : Carrying g summary acts) (hreported : ∀ a ∈ acts, a.Reported)
    (hlater : Carrying g summary later) : Carrying g summary (acts ++ later) := by
  intro m moment hmoment
  rw [moments_append, List.mem_append] at hmoment
  obtain hmoment | hmoment := hmoment
  · exact h m moment hmoment
  · obtain ⟨m', hm'⟩ := perform_reported hreported m
    exact hlater m' moment (hm' ▸ hmoment)

/-- An act whose report has nothing to tell of results. -/
def Bare (a : Act) : Prop := ∀ summary graph, Moment.Carries summary ⟨a.time, a.happening, graph⟩

theorem carries_of_bare (h : ∀ a ∈ acts, a.Bare) :
    ∀ moment ∈ moments g acts, moment.Carries summary := by
  induction acts generalizing g with
  | nil => simp [moments]
  | cons a acts ih =>
    intro moment hmoment
    obtain rfl | hmoment := List.mem_cons.mp hmoment
    · exact h a List.mem_cons_self _ _
    · exact ih (fun b hb => h b (List.mem_cons_of_mem a hb)) moment hmoment

end Act

namespace Simulation
variable (sim : Simulation) {g : Graph} {summary : Summary}

theorem outcome_carrying {node : String} (hnode : node ∈ g.nodeIds) (start : Nat) (e : Ending) :
    Act.Carrying g summary (outcome start node e) := by
  intro m moment hmoment
  obtain ⟨n, hn, _⟩ := g.node?_isSome hnode
  cases hr : e.result with
  | ok output =>
    simp only [outcome, hr, Act.moments, Act.status, List.mem_cons, List.not_mem_nil,
      or_false, g.updateNode_marked] at hmoment
    obtain rfl | rfl := hmoment
    · trivial
    · exact ⟨_, by rw [id, g.node?_marked, hn]; rfl, by simp [Marks.setRun, Node.setRun]⟩
  | error error =>
    simp only [outcome, hr, Act.moments, Act.status, List.mem_cons, List.not_mem_nil,
      or_false, g.updateNode_marked] at hmoment
    obtain rfl | rfl := hmoment
    · trivial
    · exact ⟨_, by rw [id, g.node?_marked, hn]; rfl, by simp [Marks.setRun, Node.setRun]⟩

theorem beginning_bare (time : Nat) (told : StepContext) (edges : List String) :
    ∀ a ∈ beginning time told edges, a.Bare := by
  intro a ha
  obtain rfl | rfl | ⟨edge, rfl⟩ := mem_beginning ha <;> exact fun _ _ => trivial

theorem release_bare (time : Nat) (reason : String) (nodes : List String) :
    ∀ a ∈ release time reason nodes, a.Bare := by
  intro a ha
  obtain ⟨node, _, rfl⟩ := List.mem_map.mp ha
  exact fun _ _ => trivial

theorem opening_bare (plan : Plan) : ∀ a ∈ opening plan, a.Bare := by
  intro a ha
  obtain rfl | ha := List.mem_cons.mp ha
  · exact fun _ _ => trivial
  · obtain ⟨id, rfl⟩ | ⟨id, rfl⟩ := mem_opening_tail ha <;> exact fun _ _ => trivial

theorem attempt_carrying {p : Progress} {id : String} {m : Marks} (hgraph : p.graph = g.marked m)
    (hid : id ∈ g.nodeIds) : Act.Carrying g summary (sim.attempt p id).acts := by
  obtain ⟨told, e, ha⟩ := sim.attempt_attempted ⟨m, hgraph⟩ hid
  have hbefore : ∀ a ∈ (sim.attempt p id).begun ++ (sim.attempt p id).sent ++
      ((g.incoming id).map (·.id)).map (Act.activity e.time false), a.Bare := by
    intro a hmem
    rw [ha.begun_eq, ha.sent_eq, List.mem_append, List.mem_append] at hmem
    obtain (hmem | hmem) | hmem := hmem
    · exact beginning_bare _ _ _ a hmem
    · obtain ⟨message, _, rfl⟩ := List.mem_map.mp hmem
      exact fun _ _ => trivial
    · obtain ⟨edge, _, rfl⟩ := List.mem_map.mp hmem
      exact fun _ _ => trivial
  have hreported := sim.attempt_reported p id
  rw [Attempt.acts, ha.ended_eq, closing, ← List.append_assoc] at hreported ⊢
  exact Act.Carrying.append (fun _ => Act.carries_of_bare hbefore)
    (fun a ha => hreported a (List.mem_append_left _ ha)) (outcome_carrying hid p.time e)

theorem walk_carrying (ids : List String) (p : Progress) (hgraph : ∃ m, p.graph = g.marked m)
    (hids : ids ⊆ g.nodeIds) : Act.Carrying g summary (sim.walk ids p).acts := by
  fun_induction walk sim ids p with
  | case1 => exact fun _ => by simp [Course.acts, Act.moments]
  | case2 => exact fun _ => Act.carries_of_bare (release_bare _ _ _)
  | case3 id rest p _ a stop =>
    obtain ⟨m, hm⟩ := hgraph
    simp only [Course.acts, List.flatMap_cons, List.flatMap_nil, List.append_nil]
    exact (sim.attempt_carrying hm (hids (by simp))).append (sim.attempt_reported p id)
      fun _ => Act.carries_of_bare (release_bare _ _ _)
  | case4 id rest p _ a _ course ih =>
    obtain ⟨m, hm⟩ := hgraph
    rw [acts_cons]
    refine (sim.attempt_carrying hm (hids (by simp))).append (sim.attempt_reported p id)
      (ih ?_ fun other hother => hids (List.mem_cons_of_mem id hother))
    rw [attempt_graph, hm]
    exact Act.perform_reported (sim.attempt_reported p id) m

/-- Every report of a run tells what the graph and the summary of the run show. -/
theorem follow_carries (hg : g.Linked) :
    ∀ m ∈ (sim.follow g g.plan).moments, m.Carries (sim.follow g g.plan).summary := by
  intro m hm
  rw [follow, script, Act.moments_append, Act.moments_append, List.mem_append, List.mem_append,
    Act.perform_append, perform_opening g g.plan (disjoint_of_mem_blocked hg)] at hm
  obtain (hm | hm) | hm := hm
  · exact Act.carries_of_bare (opening_bare g.plan) m hm
  · exact sim.walk_carrying _ _ ⟨_, (opening_ready hg).graph⟩ (opening_ready hg).subset _ m hm
  · obtain rfl := List.mem_singleton.mp hm
    exact ⟨rfl, rfl, rfl⟩

/-- A run changes nothing but marks. -/
theorem run_marked {sim : Simulation} {r : Run} (h : sim.run g = .ok r) :
    ∃ m, r.graph = g.marked m := by
  obtain rfl := run_eq_follow h
  -- The first act clears the graph, and what is reported after it changes marks only.
  exact Act.perform_reported (sim.script_reported g g.plan) (g := g) {}

end Simulation
end WorkflowCanvas
