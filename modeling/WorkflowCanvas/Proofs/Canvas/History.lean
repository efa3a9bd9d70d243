import WorkflowCanvas.Proofs.Canvas.Connect
import WorkflowCanvas.Proofs.Graph.Saving
import WorkflowCanvas.Proofs.Run.Shadow
import WorkflowCanvas.Proofs.Validation.Graph

/-! Histories of a canvas. Whatever an edit does, it comes to one of five changes of the graph. The
graphs that histories of such changes, of work on the graph and of loads lead to are those that are
well formed, all of them and no others. -/
namespace WorkflowCanvas

/-! ### Changes of a graph -/

namespace Graph
variable {g h : Graph} {r : Registry}

def type? (g : Graph) (id : String) : Option String := (g.node? id).map (·.type)

theorem type?_outline (g : Graph) (id : String) : g.outline.type? id = g.type? id := by
  simp [type?, node?, outline, Node.fresh, List.find?_map, Function.comp_def]

theorem type?_eq_some {id t : String} :
    g.type? id = some t ↔ ∃ n, g.node? id = some n ∧ n.type = t := by
  simp [type?]

/-- A connection between two different nodes with which the registry finds no fault. -/
def Admits (g : Graph) (r : Registry) (conn : Connection) : Prop :=
  conn.source ≠ conn.target ∧ ∃ s t, g.type? conn.source = some s ∧ g.type? conn.target = some t ∧
    r.connectionFault? s t conn.sourceHandle conn.targetHandle = none

/-- What an edit may come to. A new node is of a registered type, or of one that the graph has
already; a new edge is admitted, and no other makes its connection. -/
inductive Change (r : Registry) (g : Graph) : Graph → Prop where
  | kept {h : Graph} (same : h.outline = g.outline) : Change r g h
  | nodeIn {h : Graph} (n : Node) (inserted : g.insertNode n = .ok h)
      (known : r.contains n.type = true ∨ ∃ m ∈ g.nodes, m.type = n.type) : Change r g h
  | edgeIn {h : Graph} (e : Edge) (inserted : g.insertEdge e = .ok h)
      (admitted : g.Admits r e.connection)
      (unmade : ∀ f ∈ g.edges, f.connection ≠ e.connection) : Change r g h
  | nodeOut {id : String} {x : Removal} (removed : g.removeNode id = .ok x) : Change r g x.rest
  | edgeOut {id : String} {e : Edge} {h : Graph} (removed : g.removeEdge id = .ok (e, h)) : Change r g h

theorem Change.wellFormed (hchange : g.Change r h) (hg : g.WellFormed) : h.WellFormed := by
  cases hchange with
  | kept same => exact hg.of_outline same
  | nodeIn n inserted => exact hg.insertNode inserted
  | edgeIn e inserted => exact hg.insertEdge inserted
  | nodeOut removed => exact hg.removeNode removed
  | edgeOut removed => exact hg.removeEdge removed

theorem outline_marked (g : Graph) (m : Marks) : (g.marked m).outline = g.outline := by
  simp [outline, marked, Node.setRun, Edge.clear, Function.comp_def]

end Graph

theorem Simulation.run_outline {sim : Simulation} {g : Graph} {r : Run} (h : sim.run g = .ok r) :
    r.graph.outline = g.outline := by
  obtain ⟨m, hm⟩ := run_marked h
  rw [hm, Graph.outline_marked]

/-! ### Edits -/

/-- What can be done on a canvas in an editor. The clock is read for the ids of new nodes. -/
inductive Edit where
  | addNode (stamp : Nat → String) (type : String) (position : Position)
  | duplicate (stamp : Nat → String) (id : String)
  | move (id : String) (position : Position)
  | rename (id label : String)
  | setNotes (id notes : String)
  | setConfig (id key : String) (value : Json)
  | replaceConfig (id : String) (config : Config)
  | connect (conn : Connection)
  | removeNode (id : String)
  | removeEdge (id : String)
  | run (sim : Simulation)
  | reset

namespace Canvas
variable {c c' : Canvas}

theorem checkConnection_eq_ok_iff_admits {conn : Connection} :
    c.checkConnection conn = .ok () ↔ c.graph.Admits c.registry conn := by
  rw [checkConnection_eq_ok_iff]
  constructor
  · rintro ⟨s, t, hs, ht, hne, hfault⟩
    refine ⟨fun heq => hne ?_, s.type, t.type, ?_, ?_, hfault⟩
    · rw [(Graph.node?_eq_some hs).2, (Graph.node?_eq_some ht).2, heq]
    · exact Graph.type?_eq_some.mpr ⟨s, hs, rfl⟩
    · exact Graph.type?_eq_some.mpr ⟨t, ht, rfl⟩
  · rintro ⟨hne, _, _, hs, ht, hfault⟩
    obtain ⟨s, hsource, rfl⟩ := Graph.type?_eq_some.mp hs
    obtain ⟨t, htarget, rfl⟩ := Graph.type?_eq_some.mp ht
    refine ⟨s, t, hsource, htarget, ?_, hfault⟩
    rw [(Graph.node?_eq_some hsource).2, (Graph.node?_eq_some htarget).2]
    exact hne

/-- The canvas after an edit, if it succeeds. -/
def edited (c : Canvas) : Edit → Except WorkflowError Canvas
  | .addNode stamp type position => (c.addNode stamp type position).map (·.2)
  | .duplicate stamp id => (c.duplicate stamp id).map (·.2)
  | .move id position => c.move id position
  | .rename id label => c.rename id label
  | .setNotes id notes => c.setNotes id notes
  | .setConfig id key value => c.setConfig id key value
  | .replaceConfig id config => c.replaceConfig id config
  | .connect conn => (c.connect conn).map (·.2)
  | .removeNode id => (c.removeNode id).map (·.2)
  | .removeEdge id => (c.removeEdge id).map (·.2)
  | .run sim => (c.run sim).map (·.2)
  | .reset => .ok c.reset

/-- The registry stays, and the graph changes as an edit may change it. -/
def Changes (c c' : Canvas) : Prop :=
  c'.registry = c.registry ∧ c.graph.Change c.registry c'.graph

/-- What an edit that succeeds does: it puts in a new node or a copy, moves a node or revises its data,
makes a connection that is new or leaves one as it is, takes out a node or an edge, or runs. -/
inductive Does (c : Canvas) : Edit → Canvas → Prop where
  | added {stamp : Nat → String} {type : String} {position : Position} {d : Definition} {n : Node}
      {g : Graph} {ids : IdSource} (registered : c.registry.get? type = some d)
      (type_eq : n.type = type) (position_eq : n.position = position)
      (inserted : c.graph.insertNode n = .ok g) :
      Does c (.addNode stamp type position) { c with graph := g, ids }
  | copied {stamp : Nat → String} {id : String} {old n : Node} {g : Graph} {ids : IdSource}
      (found : c.graph.node? id = some old) (type_eq : n.type = old.type)
      (position_eq : n.position = old.position.offset c.settings.duplicateOffset)
      (inserted : c.graph.insertNode n = .ok g) :
      Does c (.duplicate stamp id) { c with graph := g, ids }
  | moved (id : String) (position : Position) :
      Does c (.move id position) { c with graph := c.graph.updateNode id ({ · with position }) }
  | revised (e : Edit) (id : String) (f : NodeData → NodeData) :
      Does c e { c with graph := c.graph.updateNode id fun n => { n with data := f n.data } }
  | linked (conn : Connection) : Does c (.connect conn) c
  | connected {conn : Connection} {g : Graph} (checked : c.checkConnection conn = .ok ())
      (unmade : c.graph.findEdge? conn = none)
      (inserted : c.graph.insertEdge (newEdge c.graph conn) = .ok g) :
      Does c (.connect conn) { c with graph := g }
  | nodeOut {id : String} {x : Graph.Removal} (removed : c.graph.removeNode id = .ok x) :
      Does c (.removeNode id) { c with graph := x.rest }
  | edgeOut {id : String} {e : Edge} {g : Graph} (removed : c.graph.removeEdge id = .ok (e, g)) :
      Does c (.removeEdge id) { c with graph := g }
  | ran {sim : Simulation} {r : Run} (run : sim.run c.graph = .ok r) :
      Does c (.run sim) { c with graph := r.graph }
  | cleared : Does c .reset { c with graph := c.graph.clear }

theorem place_ok {stamp : Nat → String} {make : String → Node} {id : String}
    (h : c.place stamp make = .ok (id, c')) :
    ∃ g ids, c.graph.insertNode (make id) = .ok g ∧ c' = { c with graph := g, ids } := by
  obtain ⟨g, hinsert, heq⟩ := bind_eq_ok.mp h
  obtain ⟨rfl, rfl⟩ := Prod.mk.inj (Except.ok.inj heq)
  exact ⟨g, _, hinsert, rfl⟩

theorem edit_ok {id : String} {f : Node → Node} (h : c.edit id f = .ok c') :
    c' = { c with graph := c.graph.updateNode id f } := by
  unfold edit at h
  split at h
  · exact (Except.ok.inj h).symm
  · cases h

theorem editData_does (e : Edit) {id : String} {f : NodeData → NodeData}
    (h : c.editData id f = .ok c') : c.Does e c' := by
  rw [edit_ok h]
  exact .revised e id f

theorem connect_does {conn : Connection} {i : String} (h : c.connect conn = .ok (i, c')) :
    c.Does (.connect conn) c' := by
  obtain ⟨_, hcheck, h⟩ := bind_eq_ok.mp h
  split at h
  · obtain ⟨_, rfl⟩ := Prod.mk.inj (Except.ok.inj h)
    exact .linked conn
  · next hfind =>
    obtain ⟨g, hinsert, heq⟩ := bind_eq_ok.mp h
    obtain ⟨_, rfl⟩ := Prod.mk.inj (Except.ok.inj heq)
    exact .connected hcheck hfind hinsert

theorem edited_does {e : Edit} (h : c.edited e = .ok c') : c.Does e c' := by
  cases e with
  | addNode stamp type position =>
    obtain ⟨⟨id, _⟩, hadd, rfl⟩ := map_eq_ok.mp h
    unfold addNode at hadd
    split at hadd
    · cases hadd
    · next d hd =>
      obtain ⟨g, ids, hinsert, rfl⟩ := place_ok hadd
      exact .added hd rfl rfl hinsert
  | duplicate stamp id =>
    obtain ⟨⟨copy, _⟩, hcopy, rfl⟩ := map_eq_ok.mp h
    unfold duplicate at hcopy
    split at hcopy
    · cases hcopy
    · next old hold =>
      obtain ⟨g, ids, hinsert, rfl⟩ := place_ok hcopy
      refine .copied hold ?_ ?_ hinsert
      · rfl
      · rfl
  | move id position =>
    rw [edit_ok h]
    exact .moved id position
  | rename id label => exact editData_does _ (show c.rename id label = .ok c' from h)
  | setNotes id notes => exact editData_does _ (show c.setNotes id notes = .ok c' from h)
  | setConfig id key value => exact editData_does _ (show c.setConfig id key value = .ok c' from h)
  | replaceConfig id config => exact editData_does _ (show c.replaceConfig id config = .ok c' from h)
  | connect conn =>
    obtain ⟨⟨i, _⟩, hconnect, rfl⟩ := map_eq_ok.mp h
    exact connect_does hconnect
  | removeNode id =>
    obtain ⟨⟨n, _⟩, hremove, rfl⟩ := map_eq_ok.mp h
    obtain ⟨x, hx, heq⟩ := bind_eq_ok.mp hremove
    obtain ⟨_, rfl⟩ := Prod.mk.inj (Except.ok.inj heq)
    exact .nodeOut hx
  | removeEdge id =>
    obtain ⟨⟨f, _⟩, hremove, rfl⟩ := map_eq_ok.mp h
    obtain ⟨⟨f, g⟩, hg, heq⟩ := bind_eq_ok.mp hremove
    obtain ⟨_, rfl⟩ := Prod.mk.inj (Except.ok.inj heq)
    exact .edgeOut hg
  | run sim =>
    obtain ⟨⟨r, _⟩, hrun, rfl⟩ := map_eq_ok.mp h
    obtain ⟨r, hr, heq⟩ := bind_eq_ok.mp hrun
    obtain ⟨_, rfl⟩ := Prod.mk.inj (Except.ok.inj heq)
    exact .ran hr
  | reset =>
    obtain rfl := Except.ok.inj h
    exact .cleared

/-- Whatever an edit does, it comes to a change of the graph. -/
theorem Does.changes {e : Edit} (h : c.Does e c') : c.Changes c' := by
  refine ⟨by cases h <;> rfl, ?_⟩
  cases h with
  | added registered type_eq _ inserted =>
    refine .nodeIn _ inserted (.inl ?_)
    rw [type_eq, ← Registry.get?_isSome_iff, registered]
    rfl
  | copied found type_eq _ inserted =>
    exact .nodeIn _ inserted (.inr ⟨_, (Graph.node?_eq_some found).1, type_eq.symm⟩)
  | moved id position => exact .kept (Graph.outline_updateNode c.graph id fun _ => ⟨rfl, rfl⟩)
  | revised e id f => exact .kept (Graph.outline_updateNode c.graph id fun _ => ⟨rfl, rfl⟩)
  | linked conn => exact .kept rfl
  | @connected conn g checked unmade inserted =>
    exact .edgeIn _ inserted (checkConnection_eq_ok_iff_admits.mp checked)
      ((findEdge?_eq_none_iff c.graph conn).mp unmade)
  | nodeOut removed => exact .nodeOut removed
  | edgeOut removed => exact .edgeOut removed
  | ran run => exact .kept (Simulation.run_outline run)
  | cleared => exact .kept (Graph.outline_clear c.graph)

/-- What is left of an attempt: the canvas that it leads to, or the old one if it fails. -/
def attempted (c : Canvas) (outcome : Except WorkflowError Canvas) : Canvas :=
  match outcome with
  | .ok c' => c'
  | .error _ => c

theorem attempted_induction {P : Canvas → Prop} {outcome : Except WorkflowError Canvas} (hc : P c)
    (hok : ∀ c', outcome = .ok c' → P c') : P (c.attempted outcome) := by
  cases outcome with
  | error e => exact hc
  | ok c' => exact hok c' rfl

theorem attempted_wellFormed {outcome : Except WorkflowError Canvas} (hc : c.graph.WellFormed)
    (hok : ∀ c', outcome = .ok c' → c'.graph.WellFormed) :
    (c.attempted outcome).graph.WellFormed :=
  attempted_induction (P := (·.graph.WellFormed)) hc hok

theorem loadRecord_eq_map (c : Canvas) (record : Record) : c.loadRecord record =
    (Graph.load ⟨record.metadata.nodes, record.metadata.edges⟩).map c.load := by
  unfold loadRecord Record.graph
  cases Graph.load ⟨record.metadata.nodes, record.metadata.edges⟩ with
  | error e => rfl
  | ok g => rfl

/-- What is loaded from the record of a canvas is its graph, without run state. -/
theorem loadRecord_toRecord {other : Canvas} {name : String}
    (h : c.loadRecord (other.toRecord name) = .ok c') : c' = c.load other.graph.clear := by
  rw [loadRecord_eq_map] at h
  obtain ⟨g, hg, rfl⟩ := map_eq_ok.mp h
  rw [Graph.load_save_ok hg]

theorem wellFormed_of_load {saved : SavedGraph} (h : (Graph.load saved).map c.load = .ok c') :
    c'.graph.WellFormed := by
  obtain ⟨g, hg, rfl⟩ := map_eq_ok.mp h
  exact (Graph.load_ok hg).2

end Canvas

/-! ### Histories -/

/-- How a canvas came to be: from an empty one, by edits, by work on its graph, and by loading.
What is loaded has a history of its own, or was saved by anyone. -/
inductive History where
  | start (registry : Registry) (settings : CanvasSettings)
  | edit (past : History) (e : Edit)
  | insertNode (past : History) (n : Node)
  | insertEdge (past : History) (e : Edge)
  | amendNode (past : History) (id : String) (place : Position → Position)
      (data : NodeData → NodeData)
  | lightEdge (past : History) (id : String) (active : Bool)
  | loadGraph (past other : History)
  | loadSaved (past : History) (saved : SavedGraph)
  | loadRecord (past : History) (record : Record)
  | reload (past other : History) (name : String)

namespace History
open Canvas

def canvas : History → Canvas
  | start registry settings => { registry, settings }
  | edit past e => past.canvas.attempted (past.canvas.edited e)
  | insertNode past n =>
    past.canvas.attempted <| (past.canvas.graph.insertNode n).map ({ past.canvas with graph := · })
  | insertEdge past e =>
    past.canvas.attempted <| (past.canvas.graph.insertEdge e).map ({ past.canvas with graph := · })
  | amendNode past id place data =>
    { past.canvas with graph := past.canvas.graph.updateNode id fun n =>
      { n with position := place n.position, data := data n.data } }
  | lightEdge past id active =>
    { past.canvas with graph := past.canvas.graph.updateEdge id ({ · with animated := active }) }
  | loadGraph past other => past.canvas.load other.canvas.graph
  | loadSaved past saved => past.canvas.attempted <| (Graph.load saved).map past.canvas.load
  | loadRecord past record => past.canvas.attempted (past.canvas.loadRecord record)
  | reload past other name =>
    past.canvas.attempted (past.canvas.loadRecord (other.canvas.toRecord name))

theorem graph_wellFormed (history : History) : history.canvas.graph.WellFormed := by
  induction history with
  | start registry settings => exact Graph.empty_wellFormed
  | edit past e ih =>
    exact attempted_wellFormed ih fun c' hedit => (edited_does hedit).changes.2.wellFormed ih
  | insertNode past n ih =>
    refine attempted_wellFormed ih fun c' hinsert => ?_
    obtain ⟨g, hg, rfl⟩ := map_eq_ok.mp hinsert
    exact ih.insertNode hg
  | insertEdge past e ih =>
    refine attempted_wellFormed ih fun c' hinsert => ?_
    obtain ⟨g, hg, rfl⟩ := map_eq_ok.mp hinsert
    exact ih.insertEdge hg
  | amendNode past id place data ih =>
    exact ih.of_outline (Graph.outline_updateNode _ id fun n => ⟨rfl, rfl⟩)
  | lightEdge past id active ih =>
    exact ih.of_outline (Graph.outline_updateEdge _ id fun e => rfl)
  | loadGraph past other _ ih => exact ih
  | loadSaved past saved ih => exact attempted_wellFormed ih fun c' hload => wellFormed_of_load hload
  | loadRecord past record ih =>
    refine attempted_wellFormed ih fun c' hload => ?_
    rw [loadRecord_eq_map] at hload
    exact wellFormed_of_load hload
  | reload past other name ih _ =>
    refine attempted_wellFormed ih fun c' hload => ?_
    rw [loadRecord_eq_map] at hload
    exact wellFormed_of_load hload

theorem notMem_of_nodup_map {α : Type} {key : α → String} {x : α} {before after : List α}
    (h : ((before ++ x :: after).map key).Nodup) : key x ∉ before.map key := by
  intro hmem
  rw [List.map_append, List.nodup_append] at h
  exact h.2.2 (key x) hmem (key x) (by simp) rfl

theorem graph_insertNodes (history : History) (nodes : List Node)
    (hids : ((history.canvas.graph.nodes ++ nodes).map (·.id)).Nodup) :
    (nodes.foldl insertNode history).canvas.graph =
      { history.canvas.graph with nodes := history.canvas.graph.nodes ++ nodes } := by
  induction nodes generalizing history with
  | nil => simp
  | cons n nodes ih =>
    have hnew : n.id ∉ history.canvas.graph.nodeIds := notMem_of_nodup_map hids
    have hinsert := Graph.insertNode_eq_ok_iff.mpr ⟨hnew, rfl⟩
    have hgraph : (history.insertNode n).canvas.graph =
        { history.canvas.graph with nodes := history.canvas.graph.nodes ++ [n] } := by
      rw [canvas, hinsert]
      rfl
    rw [List.foldl_cons, ih _ (by rw [hgraph]; simpa using hids), hgraph]
    simp

theorem graph_insertEdges (history : History) (edges : List Edge)
    (hids : ((history.canvas.graph.edges ++ edges).map (·.id)).Nodup)
    (hends : ∀ e ∈ edges, e.source ∈ history.canvas.graph.nodeIds ∧
      e.target ∈ history.canvas.graph.nodeIds) :
    (edges.foldl insertEdge history).canvas.graph =
      { history.canvas.graph with edges := history.canvas.graph.edges ++ edges } := by
  induction edges generalizing history with
  | nil => simp
  | cons e edges ih =>
    have hnew : e.id ∉ history.canvas.graph.edgeIds := notMem_of_nodup_map hids
    obtain ⟨hsource, htarget⟩ := hends e List.mem_cons_self
    have hinsert := Graph.insertEdge_eq_ok_iff.mpr ⟨hsource, htarget, hnew, rfl⟩
    have hgraph : (history.insertEdge e).canvas.graph =
        { history.canvas.graph with edges := history.canvas.graph.edges ++ [e] } := by
      rw [canvas, hinsert]
      rfl
    have hrest : ∀ f ∈ edges, f.source ∈ (history.insertEdge e).canvas.graph.nodeIds ∧
        f.target ∈ (history.insertEdge e).canvas.graph.nodeIds := by
      intro f hf
      rw [hgraph]
      exact hends f (List.mem_cons_of_mem e hf)
    rw [List.foldl_cons, ih _ (by rw [hgraph]; simpa using hids) hrest, hgraph]
    simp

/-- The graphs that a canvas can come to have are those without repeated ids and without an edge that
hangs in the air. No history leads to any other, and each of them can be built. -/
theorem reached_iff_wellFormed (g : Graph) :
    (∃ history : History, history.canvas.graph = g) ↔ g.WellFormed := by
  constructor
  · rintro ⟨history, rfl⟩
    exact history.graph_wellFormed
  · intro hg
    have hnodes := graph_insertNodes (start .empty {}) g.nodes hg.nodes_nodup
    refine ⟨g.edges.foldl insertEdge (g.nodes.foldl insertNode (start .empty {})), ?_⟩
    rw [graph_insertEdges, hnodes]
    · rfl
    · rw [hnodes]
      exact hg.edges_nodup
    · rw [hnodes]
      exact fun e he => ⟨hg.source_mem e he, hg.target_mem e he⟩

end History
end WorkflowCanvas
