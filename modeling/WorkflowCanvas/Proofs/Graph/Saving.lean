import WorkflowCanvas.Proofs.Graph.Editing

/-! Saving a graph and loading it. The saved forms that can be loaded are those of well-formed graphs,
and the first item that does not fit is the one that is reported. What is saved loads again as it
was, without what runs have left behind, and JSON keeps all of it but places that are not finite. -/
namespace WorkflowCanvas

/-! ### Loading -/

/-- Why an edge cannot be put between the given nodes, beside edges with the ids that are taken. -/
inductive Edge.Fault (nodes taken : List String) (e : Edge) : WorkflowError → Prop where
  | noSource (hsource : e.source ∉ nodes) : e.Fault nodes taken (.nodeNotFound e.source)
  | noTarget (hsource : e.source ∈ nodes) (htarget : e.target ∉ nodes) :
    e.Fault nodes taken (.nodeNotFound e.target)
  | idTaken (hsource : e.source ∈ nodes) (htarget : e.target ∈ nodes) (hid : e.id ∈ taken) :
    e.Fault nodes taken (.duplicateEdge e.id)

namespace SavedGraph

/-- Ids are not repeated, and edges run between the nodes. -/
structure Sound (p : SavedGraph) : Prop where
  nodes_nodup : (p.nodes.map (·.id)).Nodup
  edges_nodup : (p.edges.map (·.id)).Nodup
  ends_mem : ∀ e ∈ p.edges, e.source ∈ p.nodes.map (·.id) ∧ e.target ∈ p.nodes.map (·.id)

/-- The first item that does not fit: a node with the id of one before it, or else an edge. -/
inductive FirstFault (p : SavedGraph) : WorkflowError → Prop where
  | node {before after : List SavedNode} {n : SavedNode} (hsplit : p.nodes = before ++ n :: after)
    (hbefore : (before.map (·.id)).Nodup) (hid : n.id ∈ before.map (·.id)) :
    p.FirstFault (.duplicateNode n.id)
  | edge {before after : List SavedEdge} {e : SavedEdge} {error : WorkflowError}
    (hsplit : p.edges = before ++ e :: after) (hbefore : Sound ⟨p.nodes, before⟩)
    (hfault : e.toEdge.Fault (p.nodes.map (·.id)) (before.map (·.id)) error) : p.FirstFault error

/-- The graph with the saved nodes and edges. -/
def graph (p : SavedGraph) : Graph := ⟨p.nodes.map (·.toNode), p.edges.map (·.toEdge)⟩

theorem nodeIds_graph (p : SavedGraph) : p.graph.nodeIds = p.nodes.map (·.id) := by
  simp only [graph, Graph.nodeIds, List.map_map]
  rfl

theorem edgeIds_graph (p : SavedGraph) : p.graph.edgeIds = p.edges.map (·.id) := by
  simp only [graph, Graph.edgeIds, List.map_map]
  rfl

theorem save_graph (p : SavedGraph) : p.graph.save = p := by
  have hnode : SavedNode.ofNode ∘ SavedNode.toNode = id := rfl
  have hedge : SavedEdge.ofEdge ∘ SavedEdge.toEdge = id := rfl
  simp [graph, Graph.save, hnode, hedge]

theorem clear_graph (p : SavedGraph) : p.graph.clear = p.graph := by
  simp only [graph, Graph.clear, List.map_map]
  rfl

end SavedGraph

/-- Steps taken one after the other fail where the first of them fails. -/
theorem foldlM_eq_error_iff {ε α σ : Type} {step : σ → α → Except ε σ} {s : σ} {xs : List α} {e : ε} :
    xs.foldlM step s = .error e ↔
      ∃ before x after t, xs = before ++ x :: after ∧ before.foldlM step s = .ok t ∧
        step t x = .error e := by
  constructor
  · intro h
    induction xs generalizing s with
    | nil => cases h
    | cons x xs ih =>
      rw [List.foldlM_cons] at h
      cases hx : step s x with
      | error e' =>
        rw [hx] at h
        obtain rfl := Except.error.inj h
        exact ⟨[], x, xs, s, rfl, rfl, hx⟩
      | ok t =>
        rw [hx] at h
        obtain ⟨before, y, after, u, rfl, hbefore, hy⟩ := ih h
        refine ⟨x :: before, y, after, u, rfl, ?_, hy⟩
        rw [List.foldlM_cons, hx]
        exact hbefore
  · rintro ⟨before, x, after, t, rfl, hbefore, hx⟩
    rw [List.foldlM_append, hbefore]
    show (x :: after).foldlM step t = _
    rw [List.foldlM_cons, hx]
    rfl

namespace Graph
variable {g h : Graph} {p : SavedGraph} {e : WorkflowError}

theorem save_graph_eq_clear (g : Graph) : g.save.graph = g.clear := by
  simp only [save, SavedGraph.graph, clear, List.map_map]
  rfl

theorem insertNode_eq_error_iff {n : Node} :
    g.insertNode n = .error e ↔ n.id ∈ g.nodeIds ∧ e = .duplicateNode n.id := by
  rw [← contains_iff, insertNode]
  by_cases hn : g.contains n.id = true
  · simp [hn, eq_comm]
  · simp [hn]

theorem insertEdge_eq_error_iff {f : Edge} :
    g.insertEdge f = .error e ↔ f.Fault g.nodeIds g.edgeIds e := by
  have hnode : ∀ id, g.contains id = decide (id ∈ g.nodeIds) := fun id => by
    simp [← g.contains_iff id]
  have hedge : (g.edge? f.id).isSome = decide (f.id ∈ g.edgeIds) := by
    simp [← g.edge?_isSome_iff f.id]
  unfold insertEdge
  rw [hnode, hnode, hedge]
  constructor
  · intro h
    by_cases hs : f.source ∈ g.nodeIds
    · by_cases ht : f.target ∈ g.nodeIds
      · by_cases hi : f.id ∈ g.edgeIds
        · obtain rfl : WorkflowError.duplicateEdge f.id = e := by simpa [hs, ht, hi] using h
          exact .idTaken hs ht hi
        · simp [hs, ht, hi] at h
      · obtain rfl : WorkflowError.nodeNotFound f.target = e := by simpa [hs, ht] using h
        exact .noTarget hs ht
    · obtain rfl : WorkflowError.nodeNotFound f.source = e := by simpa [hs] using h
      exact .noSource hs
  · intro h
    cases h with
    | noSource hs => simp [hs]
    | noTarget hs ht => simp [hs, ht]
    | idTaken hs ht hi => simp [hs, ht, hi]

/-! ### All nodes, then all edges -/

theorem insertNodes_eq_ok_iff (hg : g.nodeIds.Nodup) (nodes : List SavedNode) :
    nodes.foldlM (fun g n => g.insertNode n.toNode) g = .ok h ↔
      (g.nodeIds ++ nodes.map (·.id)).Nodup ∧
      h = { g with nodes := g.nodes ++ nodes.map (·.toNode) } := by
  induction nodes generalizing g with
  | nil =>
    show Except.ok g = .ok h ↔ _
    simp [hg, eq_comm]
  | cons n nodes ih =>
    have hids : nodeIds { g with nodes := g.nodes ++ [n.toNode] } = g.nodeIds ++ [n.id] := by
      simp [nodeIds, SavedNode.toNode]
    rw [List.foldlM_cons, bind_eq_ok]
    constructor
    · rintro ⟨g', hn, hnodes⟩
      obtain ⟨hnew, rfl⟩ := insertNode_eq_ok_iff.mp hn
      have hg' : (g.nodeIds ++ [n.id]).Nodup := List.concat_eq_append ▸ hg.concat hnew
      rw [ih (hids ▸ hg'), hids] at hnodes
      simpa using hnodes
    · rintro ⟨hall, rfl⟩
      obtain ⟨hnew, hg', hall⟩ := nodup_append_cons hall
      refine ⟨_, insertNode_eq_ok_iff.mpr ⟨hnew, rfl⟩, ?_⟩
      rw [ih (hids ▸ hg'), hids]
      exact ⟨hall, by simp⟩

theorem insertSavedEdges_eq_ok_iff (hg : g.edgeIds.Nodup) (edges : List SavedEdge) :
    edges.foldlM (fun g e => g.insertEdge e.toEdge) g = .ok h ↔
      (∀ e ∈ edges, e.source ∈ g.nodeIds ∧ e.target ∈ g.nodeIds) ∧
      (g.edgeIds ++ edges.map (·.id)).Nodup ∧
      h = { g with edges := g.edges ++ edges.map (·.toEdge) } := by
  have hinsert := insertEdges_eq_ok_iff (h := h) hg (edges.map (·.toEdge))
  rw [List.foldlM_map, List.forall_mem_map, List.map_map] at hinsert
  exact hinsert

theorem loadNodes_eq_ok_iff {nodes : List SavedNode} :
    nodes.foldlM (fun g n => g.insertNode n.toNode) Graph.empty = .ok g ↔
      (nodes.map (·.id)).Nodup ∧ g = SavedGraph.graph ⟨nodes, []⟩ :=
  insertNodes_eq_ok_iff (g := .empty) List.nodup_nil nodes

theorem loadEdges_eq_ok_iff {nodes : List SavedNode} {edges : List SavedEdge} :
    edges.foldlM (fun g e => g.insertEdge e.toEdge) (SavedGraph.graph ⟨nodes, []⟩) = .ok g ↔
      (∀ e ∈ edges, e.source ∈ nodes.map (·.id) ∧ e.target ∈ nodes.map (·.id)) ∧
      (edges.map (·.id)).Nodup ∧ g = SavedGraph.graph ⟨nodes, edges⟩ := by
  rw [insertSavedEdges_eq_ok_iff (g := SavedGraph.graph ⟨nodes, []⟩) List.nodup_nil edges,
    SavedGraph.nodeIds_graph]
  rfl

/-- What can be loaded, and what it is loaded as. -/
theorem load_eq_ok_iff : load p = .ok g ↔ p.Sound ∧ g = p.graph := by
  rw [load, bind_eq_ok]
  constructor
  · rintro ⟨g', hnodes, hedges⟩
    obtain ⟨hids, rfl⟩ := loadNodes_eq_ok_iff.mp hnodes
    obtain ⟨hends, heids, rfl⟩ := loadEdges_eq_ok_iff.mp hedges
    exact ⟨⟨hids, heids, hends⟩, rfl⟩
  · rintro ⟨⟨hids, heids, hends⟩, rfl⟩
    exact ⟨_, loadNodes_eq_ok_iff.mpr ⟨hids, rfl⟩, loadEdges_eq_ok_iff.mpr ⟨hends, heids, rfl⟩⟩

theorem bind_eq_error {ε α β : Type} {x : Except ε α} {f : α → Except ε β} {e : ε} :
    (x >>= f) = .error e ↔ x = .error e ∨ ∃ a, x = .ok a ∧ f a = .error e := by
  cases x with
  | error e' => simp [bind, Except.bind]
  | ok a => simp [bind, Except.bind]

/-- What is reported of a saved graph that cannot be loaded. -/
theorem load_eq_error_iff : load p = .error e ↔ p.FirstFault e := by
  rw [load, bind_eq_error, foldlM_eq_error_iff]
  constructor
  · rintro (⟨before, n, after, g, hsplit, hbefore, hn⟩ | ⟨g, hnodes, hedges⟩)
    · obtain ⟨hids, rfl⟩ := loadNodes_eq_ok_iff.mp hbefore
      obtain ⟨htaken, rfl⟩ := insertNode_eq_error_iff.mp hn
      rw [SavedGraph.nodeIds_graph] at htaken
      exact .node hsplit hids htaken
    · obtain ⟨hids, rfl⟩ := loadNodes_eq_ok_iff.mp hnodes
      obtain ⟨before, f, after, g, hsplit, hbefore, hf⟩ := foldlM_eq_error_iff.mp hedges
      obtain ⟨hends, heids, rfl⟩ := loadEdges_eq_ok_iff.mp hbefore
      have hfault := insertEdge_eq_error_iff.mp hf
      rw [SavedGraph.nodeIds_graph, SavedGraph.edgeIds_graph] at hfault
      exact .edge hsplit ⟨hids, heids, hends⟩ hfault
  · intro h
    cases h with
    | node hsplit hids htaken =>
      refine .inl ⟨_, _, _, _, hsplit, loadNodes_eq_ok_iff.mpr ⟨hids, rfl⟩, ?_⟩
      rw [insertNode_eq_error_iff, SavedGraph.nodeIds_graph]
      exact ⟨htaken, rfl⟩
    | edge hsplit hbefore hfault =>
      refine .inr ⟨_, loadNodes_eq_ok_iff.mpr ⟨hbefore.nodes_nodup, rfl⟩, ?_⟩
      refine foldlM_eq_error_iff.mpr ⟨_, _, _, _, hsplit,
        loadEdges_eq_ok_iff.mpr ⟨hbefore.ends_mem, hbefore.edges_nodup, rfl⟩, ?_⟩
      rw [insertEdge_eq_error_iff, SavedGraph.nodeIds_graph, SavedGraph.edgeIds_graph]
      exact hfault

theorem sound_iff_graph_wellFormed : p.Sound ↔ p.graph.WellFormed := by
  have hnodes : p.graph.nodes.map (·.id) = p.nodes.map (·.id) := p.nodeIds_graph
  have hedges : p.graph.edges.map (·.id) = p.edges.map (·.id) := p.edgeIds_graph
  constructor
  · rintro ⟨hn, he, hends⟩
    rw [← hnodes] at hn hends
    refine ⟨hn, hedges ▸ he, fun e hmem => ?_, fun e hmem => ?_⟩
    · obtain ⟨f, hf, rfl⟩ := List.mem_map.mp hmem
      exact (hends f hf).1
    · obtain ⟨f, hf, rfl⟩ := List.mem_map.mp hmem
      exact (hends f hf).2
  · rintro ⟨hn, he, hsource, htarget⟩
    rw [hnodes] at hn hsource htarget
    refine ⟨hn, hedges ▸ he, fun e hmem => ?_⟩
    have hedge : e.toEdge ∈ p.graph.edges := List.mem_map_of_mem hmem
    exact ⟨hsource _ hedge, htarget _ hedge⟩

/-- A graph that can be loaded is well formed, and has the saved nodes and edges. -/
theorem load_ok (hload : load p = .ok g) : g = p.graph ∧ g.WellFormed := by
  obtain ⟨hp, rfl⟩ := load_eq_ok_iff.mp hload
  exact ⟨rfl, sound_iff_graph_wellFormed.mp hp⟩

theorem WellFormed.clear (hg : g.WellFormed) : g.clear.WellFormed := hg.of_outline (outline_clear g)

/-- What is saved loads again, without what runs have left behind. -/
theorem load_save (hg : g.WellFormed) : load g.save = .ok g.clear := by
  rw [load_eq_ok_iff, sound_iff_graph_wellFormed, save_graph_eq_clear]
  exact ⟨hg.clear, rfl⟩

theorem load_save_ok (hload : load g.save = .ok h) : h = g.clear := by
  rw [(load_ok hload).1, save_graph_eq_clear]

end Graph

/-! ### JSON -/

/-- A place that JSON can tell: its coordinates are numbers. -/
structure Position.Finite (p : Position) : Prop where
  x : p.x.isFinite = true
  y : p.y.isFinite = true

@[simp] theorem Reader.float_ofJson_float {x y : Float} :
    Reader.float.ofJson (.float x) = .ok y ↔ x.isFinite = true ∧ x = y := by
  by_cases hx : x.isFinite = true
  · simp [Json.float, hx, Reader.float, Number.toFloat]
  · simp [Json.float, hx, Reader.float]

/-- A place is read back as it was if JSON can tell it, and not at all if not. -/
theorem Position.reader_toJson {p q : Position} :
    reader.ofJson p.toJson = .ok q ↔ p.Finite ∧ p = q := by
  have hfinite : p.Finite ↔ p.x.isFinite = true ∧ p.y.isFinite = true :=
    ⟨fun h => ⟨h.x, h.y⟩, fun h => ⟨h.1, h.2⟩⟩
  simp [reader, toJson, KeyMap.get?_cons, hfinite, and_assoc]

@[simp] theorem SavedData.reader_toJson (d : SavedData) : reader.ofJson d.toJson = .ok d := by
  simp [reader, toJson, KeyMap.get?_cons, Reader.nullAs_ofJson]

theorem SavedNode.reader_toJson {n m : SavedNode} :
    reader.ofJson n.toJson = .ok m ↔ n.position.Finite ∧ n = m := by
  simp [reader, toJson, KeyMap.get?_cons, Position.reader_toJson]

@[simp] theorem SavedEdge.reader_toJson (e : SavedEdge) : reader.ofJson e.toJson = .ok e := by
  simp [reader, toJson, KeyMap.get?_cons]

theorem forall₂_map_eq_iff {α β : Type} {write : α → β} {Reads : β → α → Prop} {P : α → Prop}
    (h : ∀ x y, Reads (write x) y ↔ P x ∧ x = y) {xs ys : List α} :
    List.Forall₂ Reads (xs.map write) ys ↔ (∀ x ∈ xs, P x) ∧ xs = ys := by
  induction xs generalizing ys with
  | nil => simp [eq_comm]
  | cons x xs ih =>
    constructor
    · rintro (_ | ⟨hx, hxs⟩)
      obtain ⟨hfits, rfl⟩ := (h _ _).mp hx
      obtain ⟨hall, rfl⟩ := ih.mp hxs
      exact ⟨List.forall_mem_cons.mpr ⟨hfits, hall⟩, rfl⟩
    · rintro ⟨hall, rfl⟩
      obtain ⟨hfits, hall⟩ := List.forall_mem_cons.mp hall
      exact .cons ((h x x).mpr ⟨hfits, rfl⟩) (ih.mpr ⟨hall, rfl⟩)

namespace SavedGraph

theorem nodes_toJson {nodes nodes' : List SavedNode} :
    (listReader SavedNode.reader).ofJson (.arr (nodes.map (·.toJson))) = .ok nodes' ↔
      (∀ n ∈ nodes, n.position.Finite) ∧ nodes = nodes' := by
  rw [listReader, Reader.nullAs_ofJson (by simp), Reader.list_ofJson_arr]
  exact forall₂_map_eq_iff fun _ _ => SavedNode.reader_toJson

@[simp] theorem edges_toJson (edges : List SavedEdge) :
    (listReader SavedEdge.reader).ofJson (.arr (edges.map (·.toJson))) = .ok edges := by
  rw [listReader, Reader.nullAs_ofJson (by simp), Reader.list_ofJson_arr,
    forall₂_map_eq_iff (P := fun _ => True) (by simp)]
  simp

/-- A saved graph is read back as it was exactly if all its places are finite. -/
theorem reader_toJson {p q : SavedGraph} :
    reader.ofJson p.toJson = .ok q ↔ (∀ n ∈ p.nodes, n.position.Finite) ∧ p = q := by
  simp [reader, toJson, KeyMap.get?_cons, nodes_toJson, and_assoc]

end SavedGraph

namespace Graph

/-- A graph can be told in JSON if all places of its nodes can. -/
def Placed (g : Graph) : Prop := ∀ n ∈ g.nodes, n.position.Finite

theorem placed_save_iff (g : Graph) : (∀ n ∈ g.save.nodes, n.position.Finite) ↔ g.Placed := by
  simp [save, Placed, SavedNode.ofNode]

theorem ofJson_toJson {g : Graph} (hg : g.WellFormed) (hplaced : g.Placed) :
    ofJson g.toJson = .ok g.clear := by
  have hread : SavedGraph.reader.ofJson g.toJson = .ok g.save :=
    SavedGraph.reader_toJson.mpr ⟨g.placed_save_iff.mpr hplaced, rfl⟩
  rw [ofJson, hread]
  show (load g.save).mapError _ = _
  rw [load_save hg]
  rfl

/-- A saved graph can be loaded if its ids are not repeated and its edges run between its nodes, and
otherwise its first fault is reported, a fault of a node before that of an edge. What has been loaded
saves as it was and holds no run state; and a well-formed graph, saved or written as JSON, is loaded
again without its run state. -/
theorem load_outcome (p : SavedGraph) (g : Graph) :
    ((∃ g, load p = .ok g) ↔ p.Sound) ∧
    (∀ e, load p = .error e ↔ p.FirstFault e) ∧
    (load p = .ok g → g.save = p ∧ g.clear = g) ∧
    (g.WellFormed → load g.save = .ok g.clear ∧
      ((∀ n ∈ g.nodes, n.position.Finite) → ofJson g.toJson = .ok g.clear)) := by
  refine ⟨⟨?_, fun hp => ?_⟩, fun e => load_eq_error_iff, fun hload => ?_, fun hg => ?_⟩
  · rintro ⟨g, hload⟩
    exact (load_eq_ok_iff.mp hload).1
  · exact ⟨p.graph, load_eq_ok_iff.mpr ⟨hp, rfl⟩⟩
  · obtain ⟨-, rfl⟩ := load_eq_ok_iff.mp hload
    exact ⟨p.save_graph, p.clear_graph⟩
  · exact ⟨load_save hg, ofJson_toJson hg⟩

end Graph
end WorkflowCanvas
