import WorkflowCanvas.Run.Basic
import Mathlib.Logic.Function.Basic

/-! What runs write into a graph, told apart from the graph. Every act of a run changes marks only,
so that the graph at any moment is the graph of the start under the marks of the moment. -/
namespace WorkflowCanvas

/-- What a run has written: the run state of the node under each id, and the edges it has lit. -/
structure Marks where
  run : String → RunState := fun _ => {}
  lit : String → Bool := fun _ => false

namespace Marks

def setRun (m : Marks) (id : String) (f : RunState → RunState) : Marks :=
  { m with run := Function.update m.run id (f (m.run id)) }

/-- Bring nodes to one status. -/
def setStatus (m : Marks) (ids : List String) (status : Status) : Marks :=
  { m with run := fun id => if id ∈ ids then { m.run id with status } else m.run id }

/-- Light edges, or put them out. -/
def light (m : Marks) (edges : List String) (active : Bool) : Marks :=
  { m with lit := fun edge => if edge ∈ edges then active else m.lit edge }

theorem setStatus_nil (m : Marks) (status : Status) : m.setStatus [] status = m := by
  simp [setStatus]

theorem light_nil (m : Marks) (active : Bool) : m.light [] active = m := by
  simp [light]

theorem setStatus_cons (m : Marks) (id : String) (ids : List String) (status : Status) :
    (m.setRun id ({ · with status })).setStatus ids status = m.setStatus (id :: ids) status := by
  simp only [setStatus, setRun, Marks.mk.injEq, and_true]
  funext other
  by_cases h : other = id
  · subst h; simp
  · simp [h]

theorem light_cons (m : Marks) (edge : String) (edges : List String) (active : Bool) :
    (m.light [edge] active).light edges active = m.light (edge :: edges) active := by
  simp only [light, Marks.mk.injEq, true_and]
  funext other
  by_cases h : other = edge <;> simp [h]

/-- Edges that are put out leave none lit if they were the only ones. -/
theorem light_out (run : String → RunState) (edges : List String) :
    ({ run, lit := fun edge => decide (edge ∈ edges) } : Marks).light edges false = { run } := by
  simp only [light, Marks.mk.injEq, true_and]
  funext edge
  by_cases h : edge ∈ edges <;> simp [h]

end Marks

namespace Graph
variable (g : Graph) (m : Marks)

/-- The graph with the given marks in place of its own. -/
def marked : Graph :=
  ⟨g.nodes.map fun n => n.setRun fun _ => m.run n.id,
    g.edges.map fun e => { e with animated := m.lit e.id }⟩

theorem clear_eq_marked : g.clear = g.marked {} := rfl

@[simp] theorem marked_marked (m' : Marks) : (g.marked m).marked m' = g.marked m' := by
  simp [marked, Function.comp_def, Node.setRun]

theorem incoming_marked (id : String) : (g.marked m).incoming id =
    (g.incoming id).map fun e => { e with animated := m.lit e.id } := by
  simp only [incoming, marked, List.filter_map]
  rfl

@[simp] theorem map_id_incoming_marked (id : String) :
    ((g.marked m).incoming id).map (·.id) = (g.incoming id).map (·.id) := by
  simp [incoming_marked, Function.comp_def]

@[simp] theorem predecessors_marked (id : String) :
    (g.marked m).predecessors id = g.predecessors id := by
  simp [predecessors, incoming_marked, List.foldl_map]

theorem node?_marked (id : String) :
    (g.marked m).node? id = (g.node? id).map (·.setRun fun _ => m.run id) := by
  simp only [node?, marked, List.find?_map]
  cases h : g.nodes.find? (·.id == id) with
  | none => simpa [Function.comp_def, Node.setRun] using h
  | some n =>
    have hid : n.id = id := by simpa using List.find?_some h
    simpa [Function.comp_def, Node.setRun, hid] using ⟨n, h, by simp [hid]⟩

theorem updateNode_marked (id : String) (f : RunState → RunState) :
    (g.marked m).updateNode id (·.setRun f) = g.marked (m.setRun id f) := by
  simp only [updateNode, marked, Marks.setRun, List.map_map, Graph.mk.injEq, and_true]
  refine List.map_congr_left fun n _ => ?_
  by_cases h : n.id = id
  · simp [Node.setRun, h]
  · simp [Node.setRun, h]

theorem updateEdge_marked (id : String) (active : Bool) :
    (g.marked m).updateEdge id ({ · with animated := active }) =
      g.marked (m.light [id] active) := by
  simp only [updateEdge, marked, Marks.light, List.map_map, Graph.mk.injEq, true_and]
  refine List.map_congr_left fun e _ => ?_
  by_cases h : e.id = id <;> simp [h]

theorem node?_isSome {id : String} (h : id ∈ g.nodeIds) : ∃ n, g.node? id = some n ∧ n.id = id := by
  obtain ⟨n, hn, rfl⟩ := List.mem_map.mp h
  have hsome : (g.node? n.id).isSome := List.find?_isSome.mpr ⟨n, hn, by simp⟩
  obtain ⟨found, hfound⟩ := Option.isSome_iff_exists.mp hsome
  exact ⟨found, hfound, by simpa using List.find?_some hfound⟩

end Graph

namespace Act
variable (g : Graph) (m : Marks)

theorem perform_append (g : Graph) (acts later : List Act) :
    perform g (acts ++ later) = perform (perform g acts) later := by
  simp [perform]

theorem moments_append (g : Graph) (acts later : List Act) :
    moments g (acts ++ later) = moments g acts ++ moments (perform g acts) later := by
  induction acts generalizing g with
  | nil => rfl
  | cons a acts ih => simp [moments, perform, ih]

theorem moments_split (g : Graph) (before : List Act) (a : Act) (after : List Act) :
    ∃ m later, moments g (before ++ a :: after) = moments g before ++ m :: later ∧
      m.happening = a.happening :=
  ⟨_, _, moments_append g before (a :: after), rfl⟩

theorem perform_setStatus (act : String → Act) (status : Status)
    (hact : ∀ id h, (act id).change h = h.updateNode id (·.setRun ({ · with status })))
    (ids : List String) :
    perform (g.marked m) (ids.map act) = g.marked (m.setStatus ids status) := by
  induction ids generalizing m with
  | nil => simp [perform, Marks.setStatus_nil]
  | cons id ids ih =>
    rw [← Marks.setStatus_cons, ← ih, ← Graph.updateNode_marked, ← hact]
    rfl

theorem perform_status (time : Nat) (ids : List String) (s : Status) :
    perform (g.marked m) (ids.map fun id => Act.status time id s) =
      g.marked (m.setStatus ids s) :=
  perform_setStatus g m _ s (fun _ _ => rfl) ids

theorem perform_skip (time : Nat) (reason : String) (ids : List String) :
    perform (g.marked m) (ids.map (Act.skip time reason)) = g.marked (m.setStatus ids .idle) :=
  perform_setStatus g m _ .idle (fun _ _ => rfl) ids

theorem perform_activity (time : Nat) (active : Bool) (edges : List String) :
    perform (g.marked m) (edges.map (Act.activity time active)) =
      g.marked (m.light edges active) := by
  induction edges generalizing m with
  | nil => simp [perform, Marks.light_nil]
  | cons edge edges ih =>
    rw [← Marks.light_cons, ← ih, ← Graph.updateEdge_marked]
    rfl

theorem perform_message (g : Graph) (start : Nat) (node : String)
    (messages : List (Nat × StepMessage)) :
    perform g (messages.map (Act.message start node)) = g := by
  induction messages with
  | nil => rfl
  | cons message messages ih => simpa [perform, Act.message] using ih

end Act
end WorkflowCanvas
