import WorkflowCanvas.Proofs.Canvas.Atomicity
import WorkflowCanvas.Proofs.Canvas.History
import WorkflowCanvas.Proofs.Run.Dependence

/-! Runs change run state and nothing else. At every moment of a run, and after it, the graph saves as
it did before and is checked and ordered as it was, whether the run takes place or is refused. -/
namespace WorkflowCanvas

/-! ### What does not depend on run state -/

namespace Graph
variable {g h : Graph}

theorem save_clear (g : Graph) : g.clear.save = g.save := by
  simp only [save, clear, List.map_map]
  rfl

/-- Graphs are equal but for run state exactly if they save alike. -/
theorem clear_eq_clear_iff : h.clear = g.clear ↔ h.save = g.save := by
  constructor
  · intro heq
    rw [← save_clear h, heq, save_clear]
  · intro heq
    rw [← save_graph_eq_clear, heq, save_graph_eq_clear]

theorem node?_clear (g : Graph) (id : String) : g.clear.node? id = (g.node? id).map (·.clear) :=
  g.node?_marked {} id

end Graph

namespace Registry
variable (r : Registry) (g : Graph)

theorem edgeIssuesIn_clear (e : Edge) : r.edgeIssuesIn g.clear e.clear = r.edgeIssuesIn g e := by
  have hsource := g.node?_clear e.source
  have htarget := g.node?_clear e.target
  simp only [edgeIssuesIn, Edge.clear, hsource, htarget]
  cases g.node? e.source <;> cases g.node? e.target <;> rfl

theorem orderIssues_clear : orderIssues g.clear = orderIssues g := by
  simp only [orderIssues, g.plan_clear]
  simp [Graph.isEmpty, Graph.clear]

theorem validate_clear : r.validate g.clear = r.validate g := by
  have hnodes : g.clear.nodes.foldl r.nodeReport {} = g.nodes.foldl r.nodeReport {} := by
    simp only [Graph.clear, List.foldl_map]
    rfl
  have hedges : g.clear.edges.flatMap (r.edgeIssuesIn g.clear) = g.edges.flatMap (r.edgeIssuesIn g) := by
    have hmap : g.clear.edges = g.edges.map (·.clear) := rfl
    rw [hmap, List.flatMap_map]
    simp only [edgeIssuesIn_clear]
  simp only [validate, hnodes, hedges, orderIssues_clear]

end Registry

/-! ### Runs -/

theorem Simulation.clear_of_mem_moments {sim : Simulation} {g : Graph} {r : Run}
    (h : sim.run g = .ok r) : ∀ m ∈ r.moments, m.graph.clear = g.clear := by
  obtain rfl := run_eq_follow h
  intro m hm
  obtain ⟨before, after, hsplit⟩ := List.append_of_mem hm
  have hshows := sim.along_shows g g.plan {}
  rw [hsplit] at hshows
  exact hshows.at.2

theorem Simulation.clear_of_run {sim : Simulation} {g : Graph} {r : Run} (h : sim.run g = .ok r) :
    r.graph.clear = g.clear := by
  obtain ⟨m, hm⟩ := run_marked h
  rw [hm, Graph.clear_marked]

namespace Canvas
variable {c c' : Canvas}

/-- Canvases that are equal once they have been reset are saved, checked and ordered alike. -/
theorem alike_of_reset (h : c'.reset = c.reset) :
    c'.graph.save = c.graph.save ∧ c'.validate = c.validate ∧ c'.graph.plan = c.graph.plan ∧
    ∀ name, c'.toRecord name = c.toRecord name := by
  have hclear : c'.graph.clear = c.graph.clear := congrArg Canvas.graph h
  have hregistry : c'.registry = c.registry := (congrArg Canvas.registry h :)
  have hsave := Graph.clear_eq_clear_iff.mp hclear
  refine ⟨hsave, ?_, ?_, fun name => ?_⟩
  · rw [validate, validate, hregistry, ← Registry.validate_clear, hclear, Registry.validate_clear]
  · rw [← Graph.plan_clear, hclear, Graph.plan_clear]
  · simp only [toRecord, Record.ofGraph, Record.setGraph, hsave]

theorem reset_of_run {sim : Simulation} {r : Run} (h : c.run sim = .ok (r, c')) :
    c'.reset = c.reset ∧ ∀ m ∈ r.moments, m.graph.clear = c.graph.clear := by
  obtain ⟨r', hrun, heq⟩ := bind_eq_ok.mp h
  obtain ⟨rfl, rfl⟩ := Prod.mk.inj (Except.ok.inj heq)
  refine ⟨?_, Simulation.clear_of_mem_moments hrun⟩
  simp only [reset, Simulation.clear_of_run hrun]

end Canvas

namespace Desk
open Canvas

/-- A run in place comes to what the run comes to, and leaves the canvas as it was but for the run
state of its graph: so it does when it is refused, and so it has done at every moment that it
passes through. What is saved, found wrong and put in order is the same before and after. -/
theorem run_preserves (sim : Simulation) (d : Desk) : ∃ d' passed,
    (run sim).on d = some ((d.canvas.run sim).map (·.1.summary), d') ∧
    d'.canvas = d.canvas.attempted ((d.canvas.run sim).map (·.2)) ∧
    d'.log = d.log ++ passed ∧
    (∀ m ∈ passed, m.graph.save = d.canvas.graph.save ∧ m.graph.clear = d.canvas.graph.clear) ∧
    d'.canvas.graph.save = d.canvas.graph.save ∧ d'.canvas.reset = d.canvas.reset ∧
    d'.canvas.validate = d.canvas.validate ∧ d'.canvas.graph.plan = d.canvas.graph.plan ∧
    ∀ name, d'.canvas.toRecord name = d.canvas.toRecord name := by
  have hon := run_on sim d
  cases hrun : d.canvas.run sim with
  | error e =>
    rw [hrun] at hon
    exact ⟨d, [], hon, rfl, (List.append_nil _).symm, by simp, rfl, rfl, rfl, rfl, fun _ => rfl⟩
  | ok x =>
    obtain ⟨r, c'⟩ := x
    rw [hrun] at hon
    obtain ⟨hreset, hmoments⟩ := reset_of_run hrun
    obtain ⟨hsave, hrest⟩ := alike_of_reset hreset
    refine ⟨_, r.moments, hon, rfl, rfl, fun m hm => ?_, hsave, hreset, hrest⟩
    exact ⟨Graph.clear_eq_clear_iff.mp (hmoments m hm), hmoments m hm⟩

end Desk
end WorkflowCanvas
