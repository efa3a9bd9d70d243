import WorkflowCanvas.Proofs.Canvas.FreshId
import WorkflowCanvas.Proofs.Canvas.History
import WorkflowCanvas.Proofs.Record.Reading

/-! Saving what has been made in an editor and opening it again. It can be opened exactly if all its
places are finite. Copies are all that can be put at other places than were given, and they stay at
finite ones, however often copies are made of copies, exactly if the offset is small. -/
namespace WorkflowCanvas
open Rounding

namespace Position

/-- An offset that leads from finite places to finite places only. -/
structure Slight (d : Position) : Prop where
  x : Rounding.Slight d.x
  y : Rounding.Slight d.y

theorem forall_finite_offset_iff (d : Position) :
    (∀ p : Position, p.Finite → (p.offset d).Finite) ↔ d.Slight := by
  constructor
  · intro h
    have hzero : (0 : Float).isFinite = true := by decide
    exact ⟨(forall_isFinite_add_iff d.x).mp fun x hx => (h ⟨x, 0⟩ ⟨hx, hzero⟩).x,
      (forall_isFinite_add_iff d.y).mp fun y hy => (h ⟨0, y⟩ ⟨hzero, hy⟩).y⟩
  · rintro ⟨hx, hy⟩ p ⟨hpx, hpy⟩
    exact ⟨(forall_isFinite_add_iff d.x).mpr hx p.x hpx, (forall_isFinite_add_iff d.y).mpr hy p.y hpy⟩

end Position

/-! ### Finite places -/

namespace Graph
variable {g h : Graph}

theorem Placed.insertNode (hg : g.Placed) {n : Node} (hn : n.position.Finite)
    (h' : g.insertNode n = .ok h) : h.Placed := by
  obtain ⟨-, rfl⟩ := insertNode_eq_ok_iff.mp h'
  intro m hm
  obtain hm | rfl := by simpa using hm
  · exact hg m hm
  · exact hn

theorem Placed.insertEdge (hg : g.Placed) {e : Edge} (h' : g.insertEdge e = .ok h) : h.Placed := by
  obtain ⟨-, -, -, rfl⟩ := insertEdge_eq_ok_iff.mp h'
  exact hg

theorem Placed.updateNode (hg : g.Placed) (id : String) {f : Node → Node}
    (hf : ∀ n, n.position.Finite → (f n).position.Finite) : (g.updateNode id f).Placed := by
  intro m hm
  obtain ⟨n, hn, rfl⟩ := List.mem_map.mp hm
  split
  · exact hf n (hg n hn)
  · exact hg n hn

theorem Placed.marked (hg : g.Placed) (m : Marks) : (g.marked m).Placed := by
  intro marked hmarked
  obtain ⟨n, hn, rfl⟩ := List.mem_map.mp hmarked
  exact hg n hn

theorem Placed.clear (hg : g.Placed) : g.clear.Placed := hg.marked {}

theorem Placed.removeNode (hg : g.Placed) {id : String} {x : Removal}
    (hx : g.removeNode id = .ok x) : x.rest.Placed := by
  rw [removeNode_rest hx]
  exact fun n hn => hg n (List.mem_of_mem_eraseP hn)

theorem Placed.removeEdge (hg : g.Placed) {id : String} {e : Edge}
    (he : g.removeEdge id = .ok (e, h)) : h.Placed := by
  rw [removeEdge_rest he]
  exact hg

theorem placed_load {p : SavedGraph} (hload : load p = .ok g) (hp : ∀ n ∈ p.nodes, n.position.Finite) :
    g.Placed := by
  obtain ⟨rfl, -⟩ := load_ok hload
  intro loaded hloaded
  obtain ⟨n, hn, rfl⟩ := List.mem_map.mp hloaded
  exact hp n hn

end Graph

/-- The places that an edit gives are finite. -/
def Edit.Finite : Edit → Prop
  | .addNode _ _ position => position.Finite
  | .move _ position => position.Finite
  | _ => True

namespace Canvas
variable {c c' : Canvas}

/-- All places are finite, and those of copies will be. -/
structure Grounded (c : Canvas) : Prop where
  placed : c.graph.Placed
  slight : c.settings.duplicateOffset.Slight

/-- Every edit keeps places finite if it gives none that is not. -/
theorem Grounded.edited (hc : c.Grounded) {e : Edit} (he : e.Finite) (h : c.Does e c') :
    c'.Grounded := by
  refine ⟨?_, by cases h <;> exact hc.slight⟩
  cases h with
  | added _ _ position_eq inserted => exact hc.placed.insertNode (position_eq ▸ he) inserted
  | @copied _ _ old _ _ _ found _ position_eq inserted =>
    have hold : old.position.Finite := hc.placed old (Graph.node?_eq_some found).1
    have hoffset := (Position.forall_finite_offset_iff _).mpr hc.slight _ hold
    exact hc.placed.insertNode (position_eq ▸ hoffset) inserted
  | moved id position => exact hc.placed.updateNode id fun _ _ => he
  | revised e id f => exact hc.placed.updateNode id fun _ hn => hn
  | linked conn => exact hc.placed
  | connected _ _ inserted => exact hc.placed.insertEdge inserted
  | nodeOut removed => exact hc.placed.removeNode removed
  | edgeOut removed => exact hc.placed.removeEdge removed
  | ran run =>
    obtain ⟨m, hm⟩ := Simulation.run_marked run
    exact hm ▸ hc.placed.marked m
  | cleared => exact hc.placed.clear

theorem Grounded.load (hc : c.Grounded) {p : SavedGraph} (hp : ∀ n ∈ p.nodes, n.position.Finite)
    (h : (Graph.load p).map c.load = .ok c') : c'.Grounded := by
  obtain ⟨g, hg, rfl⟩ := map_eq_ok.mp h
  exact ⟨Graph.placed_load hg hp, hc.slight⟩

/-- The record of the canvas, written as a JSON value, can be read, and what is loaded from it is the graph
without what runs have left behind. A text of that value is read as the value is if its numbers read back
from their own texts (`Record.parse_compact`). -/
def Reopens (c : Canvas) (name : String) : Prop :=
  ∃ record, Record.reader.ofJson (c.toRecord name).toJson = .ok record ∧
    ∀ other : Canvas, other.loadRecord record = .ok (other.load c.graph.clear)

theorem reopens_iff_placed (hc : c.graph.WellFormed) (name : String) :
    c.Reopens name ↔ c.graph.Placed := by
  have htidy : (c.toRecord name).Tidy := ⟨KeyMap.beside_nil _, KeyMap.beside_nil _⟩
  constructor
  · rintro ⟨record, hread, -⟩
    exact c.graph.placed_save_iff.mp ((Record.reader_toJson htidy).mp hread).1
  · intro hplaced
    refine ⟨c.toRecord name, (Record.reader_toJson htidy).mpr ⟨?_, rfl⟩, fun other => ?_⟩
    · exact c.graph.placed_save_iff.mpr hplaced
    · rw [loadRecord_eq_map]
      show (Graph.load c.graph.save).map other.load = _
      rw [Graph.load_save hc]
      rfl

end Canvas

namespace History
open Canvas
variable {history : History} {allowed : Position → Prop}

/-- A history in which every place that is given is finite, and copies are offset as is allowed. -/
def Placing (allowed : Position → Prop) : History → Prop
  | start _ settings => allowed settings.duplicateOffset
  | edit past e => past.Placing allowed ∧ e.Finite
  | insertNode past n => past.Placing allowed ∧ n.position.Finite
  | insertEdge past _ => past.Placing allowed
  | amendNode past _ place _ =>
    past.Placing allowed ∧ ∀ p : Position, p.Finite → (place p).Finite
  | lightEdge past _ _ => past.Placing allowed
  | loadGraph past other => past.Placing allowed ∧ other.Placing allowed
  | loadSaved past saved => past.Placing allowed ∧ ∀ n ∈ saved.nodes, n.position.Finite
  | loadRecord past record => past.Placing allowed ∧ ∀ n ∈ record.metadata.nodes, n.position.Finite
  | reload past other _ => past.Placing allowed ∧ other.Placing allowed

theorem Placing.grounded (h : history.Placing allowed) (hallowed : ∀ d, allowed d → d.Slight) :
    history.canvas.Grounded := by
  induction history with
  | start registry settings => exact ⟨by rintro n ⟨⟩, hallowed _ h⟩
  | edit past e ih =>
    exact attempted_induction (P := Grounded) (ih h.1) fun c' hedit => (ih h.1).edited h.2 (edited_does hedit)
  | insertNode past n ih =>
    refine attempted_induction (P := Grounded) (ih h.1) fun c' hinsert => ?_
    obtain ⟨g, hg, rfl⟩ := map_eq_ok.mp hinsert
    exact ⟨(ih h.1).placed.insertNode h.2 hg, (ih h.1).slight⟩
  | insertEdge past e ih =>
    refine attempted_induction (P := Grounded) (ih h) fun c' hinsert => ?_
    obtain ⟨g, hg, rfl⟩ := map_eq_ok.mp hinsert
    exact ⟨(ih h).placed.insertEdge hg, (ih h).slight⟩
  | amendNode past id place data ih =>
    exact ⟨(ih h.1).placed.updateNode id fun n => h.2 n.position, (ih h.1).slight⟩
  | lightEdge past id active ih => exact ⟨(ih h).placed, (ih h).slight⟩
  | loadGraph past other ih ihother => exact ⟨(ihother h.2).placed, (ih h.1).slight⟩
  | loadSaved past saved ih =>
    exact attempted_induction (P := Grounded) (ih h.1) fun c' hload => (ih h.1).load h.2 hload
  | loadRecord past record ih =>
    refine attempted_induction (P := Grounded) (ih h.1) fun c' hload => ?_
    rw [loadRecord_eq_map] at hload
    exact (ih h.1).load h.2 hload
  | reload past other name ih ihother =>
    refine attempted_induction (P := Grounded) (ih h.1) fun c' hload => ?_
    rw [loadRecord_toRecord hload]
    exact ⟨(ihother h.2).placed.clear, (ih h.1).slight⟩

/-- A node that is put at a place, and a copy of it. -/
def copied (d p : Position) : History :=
  ((start crowded.registry { duplicateOffset := d }).edit (.addNode (fun _ => "0") "step" p)).edit
    (.duplicate (fun _ => "0") "node_1_0")

/-- A canvas with a node at a place. -/
def single (d p : Position) : Canvas where
  registry := crowded.registry
  settings := { duplicateOffset := d }
  graph := { nodes := [⟨"node_1_0", "step", p, { label := "Step" }⟩] }
  ids := ⟨1⟩

theorem addNode_eq_single (d p : Position) :
    Canvas.addNode { registry := crowded.registry, settings := { duplicateOffset := d } }
      (fun _ => "0") "step" p = .ok ("node_1_0", single d p) := by
  have hstep : crowded.registry.get? "step" =
      some { type := "step", label := "Step", category := "steps" } := rfl
  have hnext : freshId .empty (fun _ => "0") 0 {} = ("node_1_0", ⟨1⟩) := by decide +kernel
  rw [addNode, hstep]
  exact place_of_next hnext List.not_mem_nil

theorem duplicate_single (d p : Position) :
    ∃ c, (single d p).duplicate (fun _ => "0") "node_1_0" = .ok ("node_2_0", c) ∧
      c.graph.nodes.map (·.position) = [p, p.offset d] := by
  have hnode : (single d p).graph.node? "node_1_0" =
      some ⟨"node_1_0", "step", p, { label := "Step" }⟩ := by
    simp [single, Graph.node?]
  have htaken : (⟨1⟩ : IdSource).next "0" = ("node_2_0", ⟨2⟩) := by decide +kernel
  have hnext : freshId (single d p).graph (fun _ => "0") 1 ⟨1⟩ = ("node_2_0", ⟨2⟩) := by
    rw [freshId, htaken]
    rfl
  rw [duplicate, hnode]
  exact ⟨_, place_of_next hnext (by simp [single, Graph.nodeIds]), rfl⟩

theorem positions_copied (d p : Position) :
    (copied d p).canvas.graph.nodes.map (·.position) = [p, p.offset d] := by
  obtain ⟨c, hcopy, hpositions⟩ := duplicate_single d p
  simp only [copied, canvas, edited, addNode_eq_single, hcopy, Except.map, attempted, hpositions]

theorem finite_of_reopens_copied {d p : Position} {name : String}
    (h : (copied d p).canvas.Reopens name) : (p.offset d).Finite := by
  have hplaced := (reopens_iff_placed (copied d p).graph_wellFormed name).mp h
  have hmem : p.offset d ∈ (copied d p).canvas.graph.nodes.map (·.position) := by
    rw [positions_copied]
    simp
  obtain ⟨n, hn, hoffset⟩ := List.mem_map.mp hmem
  exact hoffset ▸ hplaced n hn

/-- What is made in editors can be opened again exactly if all its places are finite. They are, for
every history in which finite places are given, exactly if copies are offset by less than `2 ^ 970`
both ways, which is half of what lies between the two greatest numbers. -/
theorem reopens_iff (allowed : Position → Prop) :
    (∀ (history : History) (name : String),
      history.canvas.Reopens name ↔ ∀ n ∈ history.canvas.graph.nodes, n.position.Finite) ∧
    ((∀ history : History, history.Placing allowed → ∀ name, history.canvas.Reopens name) ↔
      ∀ d, allowed d → d.Slight) := by
  have hplaced (history : History) (name : String) :=
    reopens_iff_placed (c := history.canvas) history.graph_wellFormed name
  refine ⟨hplaced, fun h d hd => ?_, fun h history hplacing name => ?_⟩
  · rw [← Position.forall_finite_offset_iff]
    exact fun p hp => finite_of_reopens_copied (h (copied d p) ⟨⟨hd, hp⟩, trivial⟩ "copied")
  · exact (hplaced history name).mpr (hplacing.grounded h).placed

/-- The default offset is small. -/
theorem slight_duplicateOffset : ({} : CanvasSettings).duplicateOffset.Slight :=
  ⟨slight_forty, slight_forty⟩

/-- A place that is finite, but not twice as far away. -/
def far : Position := ⟨1e308, 0⟩

/-- Finite places and a finite offset are not enough. -/
theorem not_reopens_far : (copied far far).Placing Position.Finite ∧
    ¬ (copied far far).canvas.Reopens "far" := by
  have hfar : far.Finite := ⟨by decide +kernel, by decide +kernel⟩
  have hcopy : (far.offset far).x.isFinite = false := by decide +kernel
  refine ⟨⟨⟨hfar, hfar⟩, trivial⟩, fun h => ?_⟩
  have hfinite := (finite_of_reopens_copied h).x
  rw [hcopy] at hfinite
  cases hfinite

end History
end WorkflowCanvas
