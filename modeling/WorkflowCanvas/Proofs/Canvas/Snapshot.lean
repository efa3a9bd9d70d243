import WorkflowCanvas.Proofs.Canvas.Reload
import WorkflowCanvas.Proofs.Run.Dataflow

/-! Nodes and edges as they are written with their run state. An edge is read back as it was. A node is
too, but for an input or an output that is `null`: it is written, and read as if there were none. So what
a run leaves is read back exactly if no step gave `null` and none was given it. -/
namespace WorkflowCanvas

/-! ### Values that may be missing -/

namespace Json

/-- The value, unless it is `null`. -/
def unlessNull (value : Option Json) : Option Json := value.filter (!·.isNull)

theorem unlessNull_eq_self_iff {value : Option Json} : unlessNull value = value ↔ value ≠ some .null := by
  cases value with
  | none => simp [unlessNull]
  | some j => cases j <;> simp [unlessNull, isNull]

end Json

namespace Fields
variable {members : List (String × Json)} {key : String}

/-- An optional value is read from its member, where `null` stands for no value. -/
theorem gives_json_option {value : Option Json} (hkeys : (members.map (·.1)).Nodup)
    (hget : KeyMap.get? members key = value) :
    (optional key Reader.json.option none).Gives members (Json.unlessNull value) := by
  rw [gives_optional hkeys, hget]
  cases value with
  | none => exact .inr ⟨rfl, rfl⟩
  | some j =>
    have hread : Reader.json.option.ofJson j = .ok (Json.unlessNull (some j)) := by cases j <;> rfl
    exact .inl ⟨j, rfl, hread⟩

end Fields

/-! ### Edges -/

theorem Edge.reader_toJson (e : Edge) : reader.ofJson e.toJson = .ok e := by
  obtain ⟨id, source, target, sourceHandle, targetHandle, animated⟩ := e
  have hanimated : Reader.bool.ofJson (.bool animated) = .ok animated := rfl
  have htext (s : String) : Reader.text.option.ofJson (.str s) = .ok (some s) := rfl
  cases sourceHandle <;> cases targetHandle <;>
    simp [reader, toJson, Json.member?, KeyMap.get?_cons, htext, hanimated]

/-! ### Nodes -/

theorem Status.reader_name (s : Status) : reader.ofJson (.str s.name) = .ok s := by
  cases s <;> rfl

/-- The run state without values that are `null`. -/
def RunState.sparse (r : RunState) : RunState :=
  { r with lastOutput := Json.unlessNull r.lastOutput, lastInput := Json.unlessNull r.lastInput }

theorem RunState.sparse_eq_self_iff (r : RunState) :
    r.sparse = r ↔ r.lastOutput ≠ some .null ∧ r.lastInput ≠ some .null := by
  rw [← Json.unlessNull_eq_self_iff, ← Json.unlessNull_eq_self_iff]
  obtain ⟨status, lastOutput, lastInput, lastError⟩ := r
  simp [sparse]

namespace NodeData

def members (d : NodeData) : List (String × Json) :=
  [("label", .str d.label), ("notes", .str d.notes), ("config", .obj d.config),
    ("status", .str d.run.status.name)]
  ++ Json.member? "last_output" d.run.lastOutput
  ++ Json.member? "last_input" d.run.lastInput
  ++ Json.member? "last_error" (d.run.lastError.map .str)

theorem members_nodup (d : NodeData) : (d.members.map (·.1)).Nodup := by
  cases houtput : d.run.lastOutput <;> cases hinput : d.run.lastInput <;>
    cases herror : d.run.lastError <;> simp [members, Json.member?, houtput, hinput, herror]

theorem get?_members (d : NodeData) :
    KeyMap.get? d.members "label" = some (.str d.label) ∧
    KeyMap.get? d.members "notes" = some (.str d.notes) ∧
    KeyMap.get? d.members "config" = some (.obj d.config) ∧
    KeyMap.get? d.members "status" = some (.str d.run.status.name) ∧
    KeyMap.get? d.members "last_output" = d.run.lastOutput ∧
    KeyMap.get? d.members "last_input" = d.run.lastInput ∧
    KeyMap.get? d.members "last_error" = d.run.lastError.map .str := by
  simp [members, KeyMap.get?_append, KeyMap.get?_member?, KeyMap.get?_cons]

/-- Data is read as it was written, but for values that are `null`. -/
theorem reader_toJson (d : NodeData) :
    reader.ofJson d.toJson = .ok { d with run := d.run.sparse } := by
  have hkeys := d.members_nodup
  obtain ⟨hlabel, hnotes, hconfig, hstatus, houtput, hinput, herror⟩ := d.get?_members
  show reader.ofJson (.obj d.members) = _
  rw [reader, Reader.record_ofJson_obj]
  refine (Fields.gives_seq (by simp)).mpr ⟨ofParts d.label d.notes d.config d.run.status
    (Json.unlessNull d.run.lastOutput) (Json.unlessNull d.run.lastInput), _, ?_,
    (Record.gives_text_option hkeys herror).mpr rfl, rfl⟩
  refine (Fields.gives_seq (by simp)).mpr ⟨_, _, ?_, Fields.gives_json_option hkeys hinput, rfl⟩
  refine (Fields.gives_seq (by simp)).mpr ⟨_, _, ?_, Fields.gives_json_option hkeys houtput, rfl⟩
  refine (Fields.gives_seq (by simp)).mpr ⟨_, _, ?_,
    (Fields.gives_optional_of_some hkeys hstatus).mpr (Status.reader_name _), rfl⟩
  refine (Fields.gives_seq (by simp)).mpr ⟨_, _, ?_,
    (Fields.gives_optional_of_some hkeys hconfig).mpr rfl, rfl⟩
  refine (Fields.gives_seq (by simp)).mpr ⟨_, _, ?_,
    (Fields.gives_optional_of_some hkeys hnotes).mpr rfl, rfl⟩
  exact Fields.gives_map.mpr ⟨_, (Fields.gives_required hkeys).mpr ⟨_, hlabel, rfl⟩, rfl⟩

end NodeData

namespace Node
variable {n m : Node}

/-- The node without an input or an output that is `null`. -/
def sparse (n : Node) : Node := n.setRun RunState.sparse

theorem sparse_eq_self_iff (n : Node) : n.sparse = n ↔ n.data.run.sparse = n.data.run := by
  obtain ⟨id, type, position, label, notes, config, run⟩ := n
  simp [sparse, setRun]

theorem reader_toJson : reader.ofJson n.toJson = .ok m ↔ n.position.Finite ∧ n.sparse = m := by
  simp [reader, toJson, KeyMap.get?_cons, Position.reader_toJson, NodeData.reader_toJson, sparse,
    setRun]

end Node

/-! ### Runs -/

theorem Graph.mergedInput_eq_null_iff (g : Graph) (id : String) (input : Json) :
    g.mergedInput id input = .null ↔ g.incoming id = [] ∧ input = .null := by
  rw [mergedInput_eq, ← predecessors_eq_nil_iff]
  split
  · next hnone => simp [hnone]
  · next hsome => simp [hsome]

namespace Simulation
variable {sim : Simulation} {g : Graph} {r : Run}

/-- What a step leaves in its node holds no `null` exactly if the step gave none and was given none;
it is given one if no edge leads to its node and the input of the run is one. -/
theorem sparse_mark_iff (hg : g.Linked) {a : Attempt} (ha : a ∈ (sim.course g g.plan).attempts) :
    a.mark.sparse = a.mark ↔ a.result ≠ .ok .null ∧ ¬(g.incoming a.node = [] ∧ sim.input = .null) := by
  obtain ⟨told, htold, hinput⟩ := course_inputs sim hg a ha
  obtain ⟨run, hgraph, -⟩ := follow_graph sim hg
  have hnull : told.input = .null ↔ g.incoming a.node = [] ∧ sim.input = .null := by
    rw [hinput, Graph.mergedInput_eq_null_iff, hgraph, Graph.incoming_marked, List.map_eq_nil_iff]
  have houtput : a.result.toOption = some .null ↔ a.result = .ok .null := by
    cases a.result <;> simp [Except.toOption]
  rw [RunState.sparse_eq_self_iff, Attempt.mark_lastOutput, Attempt.mark_lastInput, htold,
    Option.map_some, Ne, Ne, Option.some_inj, houtput, hnull]

theorem run_sparse_iff (hg : g.Linked) (h : sim.run g = .ok r) :
    (∀ n ∈ r.graph.nodes, n.sparse = n) ↔
      ∀ a ∈ r.attempts, a.result ≠ .ok .null ∧ ¬(g.incoming a.node = [] ∧ sim.input = .null) := by
  obtain rfl := run_eq_follow h
  constructor
  · intro hnodes a ha
    obtain ⟨n, hn, hrun⟩ := follow_node? sim hg ha
    have hsparse := n.sparse_eq_self_iff.mp (hnodes n (Graph.node?_eq_some hn).1)
    exact (sparse_mark_iff hg ha).mp (hrun ▸ hsparse)
  · intro hattempts n hn
    obtain ⟨run, hgraph, hmark, hleft, hout⟩ := follow_graph sim hg
    rw [hgraph] at hn
    obtain ⟨n₀, -, rfl⟩ := List.mem_map.mp hn
    rw [Node.sparse_eq_self_iff]
    show (run n₀.id).sparse = run n₀.id
    by_cases horder : n₀.id ∈ g.plan.order
    · rw [← course_nodes sim g g.plan, List.mem_append, List.mem_map] at horder
      obtain ⟨a, ha, hid⟩ | hid := horder
      · rw [← hid, hmark a ha]
        exact (sparse_mark_iff hg ha).mpr (hattempts a ha)
      · rw [hleft _ hid]
        rfl
    · rw [hout _ horder]
      rfl

end Simulation

/-! ### Histories -/

namespace History

/-- What is read of the nodes and edges of a graph that any history has led to, from what they are
written as with their run state. Edges are read as they were, and so are nodes at finite places, but for
an input or an output that is `null`. After a run the nodes are read as they were exactly if no step gave
`null`, and none was given it: the first steps are given the input of the run. -/
theorem snapshot_outcome (history : History) (hplaced : history.canvas.graph.Placed) :
    (∀ e ∈ history.canvas.graph.edges, Edge.reader.ofJson e.toJson = .ok e) ∧
    (∀ n ∈ history.canvas.graph.nodes, Node.reader.ofJson n.toJson = .ok n.sparse ∧
      (n.sparse = n ↔ n.data.run.lastOutput ≠ some .null ∧ n.data.run.lastInput ≠ some .null)) ∧
    ∀ (sim : Simulation) (r : Run), sim.run history.canvas.graph = .ok r →
      ((∀ n ∈ r.graph.nodes, Node.reader.ofJson n.toJson = .ok n) ↔
        ∀ a ∈ r.attempts, a.result ≠ .ok .null ∧
          ¬(history.canvas.graph.incoming a.node = [] ∧ sim.input = .null)) := by
  refine ⟨fun e _ => e.reader_toJson, fun n hn => ?_, fun sim r hr => ?_⟩
  · refine ⟨Node.reader_toJson.mpr ⟨hplaced n hn, rfl⟩, ?_⟩
    rw [Node.sparse_eq_self_iff, RunState.sparse_eq_self_iff]
  · obtain ⟨marks, hmarks⟩ := Simulation.run_marked hr
    have hafter : r.graph.Placed := hmarks ▸ hplaced.marked marks
    rw [← Simulation.run_sparse_iff history.graph_wellFormed.linked hr]
    refine forall₂_congr fun n hn => ?_
    exact Node.reader_toJson.trans (and_iff_right (hafter n hn))

/-- A run with the default settings, in which no step fails or gives `null`. -/
def plainRun (input : Json) : Simulation where
  registry := .empty
  executor := Mock.execute {}
  settings := {}
  input := input

/-- A single node is placed and run with an input. -/
def fed (input : Json) : History :=
  ((start .empty {}).insertNode (.fresh "a" "agent")).edit (.run (plainRun input))

/-- The node after the run. -/
def fedNode (input : Json) : Node :=
  (Node.fresh "a" "agent").setRun fun _ =>
    { status := .success, lastInput := some input, lastOutput := some fallbackOutput }

theorem nodes_fed (input : Json) : (fed input).canvas.graph.nodes = [fedNode input] := rfl

theorem placed_fed (input : Json) : (fed input).canvas.graph.Placed := by
  intro n hn
  rw [nodes_fed, List.mem_singleton] at hn
  rw [hn]
  exact Position.finite_origin

/-- A node that a run has given `null` is read without it. Another input takes its place in the next run,
and is read as it was. -/
theorem snapshot_outcome_fed : (fed .null).canvas.graph.Placed ∧
    Node.reader.ofJson (fedNode .null).toJson = .ok (fedNode .null).sparse ∧
    ∃ r, (plainRun (.str "go")).run (fed .null).canvas.graph = .ok r ∧
      ∀ n ∈ r.graph.nodes, Node.reader.ofJson n.toJson = .ok n := by
  obtain ⟨-, hnodes, hruns⟩ := snapshot_outcome (fed .null) (placed_fed .null)
  have hrun : (plainRun (.str "go")).run (fed .null).canvas.graph = .ok _ := Simulation.run_of_skip rfl
  refine ⟨placed_fed .null, (hnodes _ (List.mem_singleton_self _)).1, _, hrun, ?_⟩
  refine (hruns _ _ hrun).mpr fun a ha => ⟨fun hresult => ?_, fun hinput => Json.noConfusion hinput.2⟩
  have hresults : ((plainRun (.str "go")).follow (fed .null).canvas.graph
      (fed .null).canvas.graph.plan).attempts.map (·.result) = [.ok fallbackOutput] := rfl
  have hmem := List.mem_map_of_mem (f := (·.result)) ha
  rw [hresults, hresult, List.mem_singleton] at hmem
  cases hmem

/-- A node that a run has given `null` is not read back as it was. -/
theorem not_snapshot_null : (fed .null).canvas.graph.Placed ∧
    ∃ n ∈ (fed .null).canvas.graph.nodes, Node.reader.ofJson n.toJson ≠ .ok n := by
  refine ⟨placed_fed .null, fedNode .null, ?_, fun h => ?_⟩
  · rw [nodes_fed]
    exact List.mem_singleton_self _
  · have hsparse := congrArg (·.data.run.lastInput) (Node.reader_toJson.mp h).2
    cases hsparse

end History
end WorkflowCanvas
