import WorkflowCanvas.Proofs.Json.KeyMap
import WorkflowCanvas.Proofs.Json.Reading
import WorkflowCanvas.Proofs.Order.Walk
import WorkflowCanvas.Saved

/-! What the operations on a graph do when they succeed. Each of them keeps ids apart and edges
between nodes of the graph, and so does all that leaves the outline of a graph as it is. -/
namespace WorkflowCanvas

namespace Graph
variable {g h : Graph} {id : String}

theorem contains_iff (g : Graph) (id : String) : g.contains id = true ↔ id ∈ g.nodeIds := by
  simp [contains, nodeIds]

theorem edge?_isSome_iff (g : Graph) (id : String) : (g.edge? id).isSome = true ↔ id ∈ g.edgeIds := by
  simp [edge?, edgeIds]

theorem node?_eq_some {n : Node} (hn : g.node? id = some n) : n ∈ g.nodes ∧ n.id = id :=
  ⟨List.mem_of_find?_eq_some hn, by simpa using List.find?_some hn⟩

theorem WellFormed.node?_eq_some_iff (hg : g.WellFormed) {n : Node} :
    g.node? id = some n ↔ n ∈ g.nodes ∧ n.id = id :=
  KeyMap.find?_key_eq_some_iff hg.nodes_nodup

/-! ### Insertion -/

theorem insertNode_eq_ok_iff {n : Node} : g.insertNode n = .ok h ↔
    n.id ∉ g.nodeIds ∧ h = { g with nodes := g.nodes ++ [n] } := by
  rw [← contains_iff, insertNode]
  by_cases hn : g.contains n.id = true
  · simp [hn]
  · simp only [hn, Bool.false_eq_true, if_false, not_false_eq_true, true_and, Except.ok.injEq]
    exact eq_comm

theorem insertEdge_eq_ok_iff {e : Edge} : g.insertEdge e = .ok h ↔
    e.source ∈ g.nodeIds ∧ e.target ∈ g.nodeIds ∧ e.id ∉ g.edgeIds ∧
      h = { g with edges := g.edges ++ [e] } := by
  rw [← contains_iff, ← contains_iff, ← edge?_isSome_iff, insertEdge]
  by_cases hs : g.contains e.source = true
  · by_cases ht : g.contains e.target = true
    · by_cases he : (g.edge? e.id).isSome = true
      · simp [hs, ht, he]
      · simp only [hs, ht, he, Bool.not_true, Bool.false_eq_true, if_false, not_false_eq_true,
          true_and, Except.ok.injEq]
        exact eq_comm
    · simp [hs, ht]
  · simp [hs]

theorem nodup_append_cons {id : String} {ids rest : List String} (h : (ids ++ id :: rest).Nodup) :
    id ∉ ids ∧ (ids ++ [id]).Nodup ∧ (ids ++ [id] ++ rest).Nodup := by
  rw [List.append_cons] at h
  have hfirst := (List.nodup_append.mp h).1
  exact ⟨fun hmem => (List.nodup_append.mp hfirst).2.2 id hmem id (by simp) rfl, hfirst, h⟩

/-- Insertions succeed if the ends of all edges are there and no id is used twice. -/
theorem insertEdges_eq_ok_iff (hg : g.edgeIds.Nodup) (edges : List Edge) :
    edges.foldlM insertEdge g = .ok h ↔
      (∀ e ∈ edges, e.source ∈ g.nodeIds ∧ e.target ∈ g.nodeIds) ∧
      (g.edgeIds ++ edges.map (·.id)).Nodup ∧
      h = { g with edges := g.edges ++ edges } := by
  induction edges generalizing g with
  | nil =>
    show Except.ok g = .ok h ↔ _
    simp [hg, eq_comm]
  | cons e edges ih =>
    have hids : edgeIds { g with edges := g.edges ++ [e] } = g.edgeIds ++ [e.id] := by
      simp [edgeIds]
    rw [List.foldlM_cons, bind_eq_ok, List.forall_mem_cons]
    constructor
    · rintro ⟨g', he, hedges⟩
      obtain ⟨hsource, htarget, hnew, rfl⟩ := insertEdge_eq_ok_iff.mp he
      have hg' : (g.edgeIds ++ [e.id]).Nodup := List.concat_eq_append ▸ hg.concat hnew
      rw [ih (hids ▸ hg'), hids] at hedges
      obtain ⟨hends, hall, rfl⟩ := hedges
      exact ⟨⟨⟨hsource, htarget⟩, hends⟩, by simpa using hall, by simp⟩
    · rintro ⟨⟨⟨hsource, htarget⟩, hends⟩, hall, rfl⟩
      obtain ⟨hnew, hg', hall⟩ := nodup_append_cons hall
      refine ⟨_, insertEdge_eq_ok_iff.mpr ⟨hsource, htarget, hnew, rfl⟩, ?_⟩
      rw [ih (hids ▸ hg'), hids]
      exact ⟨hends, hall, by simp⟩

theorem empty_wellFormed : Graph.empty.WellFormed :=
  ⟨List.nodup_nil, List.nodup_nil, by simp [empty], by simp [empty]⟩

theorem WellFormed.insertNode (hg : g.WellFormed) {n : Node} (hn : g.insertNode n = .ok h) :
    h.WellFormed := by
  obtain ⟨hnew, rfl⟩ := insertNode_eq_ok_iff.mp hn
  have hsub : g.nodeIds ⊆ (g.nodes ++ [n]).map (·.id) := by
    rw [List.map_append]
    exact List.subset_append_left _ _
  refine ⟨?_, hg.edges_nodup, fun e he => hsub (hg.source_mem e he),
    fun e he => hsub (hg.target_mem e he)⟩
  rw [List.map_append, List.map_singleton, ← List.concat_eq_append]
  exact hg.nodes_nodup.concat hnew

theorem WellFormed.insertEdge (hg : g.WellFormed) {e : Edge} (he : g.insertEdge e = .ok h) :
    h.WellFormed := by
  obtain ⟨hsource, htarget, hnew, rfl⟩ := insertEdge_eq_ok_iff.mp he
  refine ⟨hg.nodes_nodup, ?_, fun f hf => ?_, fun f hf => ?_⟩
  · rw [List.map_append, List.map_singleton, ← List.concat_eq_append]
    exact hg.edges_nodup.concat hnew
  · obtain hf | hf := List.mem_append.mp hf
    · exact hg.source_mem f hf
    · obtain rfl := List.mem_singleton.mp hf
      exact hsource
  · obtain hf | hf := List.mem_append.mp hf
    · exact hg.target_mem f hf
    · obtain rfl := List.mem_singleton.mp hf
      exact htarget

/-! ### Removal -/

theorem removeNode_rest {x : Removal} (hx : g.removeNode id = .ok x) :
    x.rest = ⟨g.nodes.eraseP (·.id == id), g.edges.filter (!·.touches id)⟩ := by
  unfold removeNode at hx
  split at hx
  · cases hx
  · cases hx
    rfl

theorem removeEdge_rest {e : Edge} (he : g.removeEdge id = .ok (e, h)) :
    h = { g with edges := g.edges.eraseP (·.id == id) } := by
  unfold removeEdge at he
  split at he
  · cases he
  · cases he
    rfl

theorem map_id_eraseP (nodes : List Node) (id : String) :
    (nodes.eraseP (·.id == id)).map (·.id) = (nodes.map (·.id)).erase id := by
  rw [List.erase_eq_eraseP, List.eraseP_map]
  congr 2
  funext n
  exact Bool.beq_comm

theorem WellFormed.removeNode (hg : g.WellFormed) {x : Removal} (hx : g.removeNode id = .ok x) :
    x.rest.WellFormed := by
  rw [removeNode_rest hx]
  have hends : ∀ e ∈ g.edges.filter (!·.touches id), e ∈ g.edges ∧ e.source ≠ id ∧ e.target ≠ id := by
    intro e he
    simpa [Edge.touches] using he
  refine ⟨?_, ?_, fun e he => ?_, fun e he => ?_⟩
  · rw [map_id_eraseP]
    exact hg.nodes_nodup.erase id
  · exact (List.filter_sublist.map _).nodup hg.edges_nodup
  · obtain ⟨hedge, hsource, -⟩ := hends e he
    rw [map_id_eraseP]
    exact (List.mem_erase_of_ne hsource).mpr (hg.source_mem e hedge)
  · obtain ⟨hedge, -, htarget⟩ := hends e he
    rw [map_id_eraseP]
    exact (List.mem_erase_of_ne htarget).mpr (hg.target_mem e hedge)

theorem WellFormed.removeEdge (hg : g.WellFormed) {e : Edge} (he : g.removeEdge id = .ok (e, h)) :
    h.WellFormed := by
  rw [removeEdge_rest he]
  have hsub : (g.edges.eraseP (·.id == id)).Sublist g.edges := List.eraseP_sublist
  exact ⟨hg.nodes_nodup, (hsub.map _).nodup hg.edges_nodup,
    fun f hf => hg.source_mem f (hsub.subset hf), fun f hf => hg.target_mem f (hsub.subset hf)⟩

/-! ### Outlines -/

/-- The graph without all that may change while its nodes and edges stay: only the ids and types of
the nodes are left, and the ids and ends of the edges. -/
def outline (g : Graph) : Graph := ⟨g.nodes.map fun n => .fresh n.id n.type, g.edges.map (·.clear)⟩

theorem nodeIds_outline (g : Graph) : g.outline.nodeIds = g.nodeIds := by
  simp [nodeIds, outline, Node.fresh, Function.comp_def]

theorem edgeIds_outline (g : Graph) : g.outline.edgeIds = g.edgeIds := by
  simp [edgeIds, outline, Edge.clear, Function.comp_def]

theorem outline_wellFormed_iff (g : Graph) : g.outline.WellFormed ↔ g.WellFormed := by
  have hnodes : g.outline.nodes.map (·.id) = g.nodes.map (·.id) := nodeIds_outline g
  have hedges : g.outline.edges.map (·.id) = g.edges.map (·.id) := edgeIds_outline g
  constructor
  · rintro ⟨hn, he, hs, ht⟩
    rw [hnodes] at hn hs ht
    exact ⟨hn, hedges ▸ he, fun e hmem => hs e.clear (List.mem_map_of_mem hmem),
      fun e hmem => ht e.clear (List.mem_map_of_mem hmem)⟩
  · rintro ⟨hn, he, hs, ht⟩
    refine ⟨hnodes ▸ hn, hedges ▸ he, fun e hmem => ?_, fun e hmem => ?_⟩
    · obtain ⟨f, hf, rfl⟩ := List.mem_map.mp hmem
      exact hnodes ▸ hs f hf
    · obtain ⟨f, hf, rfl⟩ := List.mem_map.mp hmem
      exact hnodes ▸ ht f hf

theorem WellFormed.of_outline (hg : g.WellFormed) (heq : h.outline = g.outline) : h.WellFormed := by
  rw [← outline_wellFormed_iff, heq, outline_wellFormed_iff]
  exact hg

theorem outline_clear (g : Graph) : g.clear.outline = g.outline := by
  simp [outline, clear, Node.clear, Edge.clear, Function.comp_def]

theorem outline_updateNode (g : Graph) (id : String) {f : Node → Node}
    (hf : ∀ n, (f n).id = n.id ∧ (f n).type = n.type) : (g.updateNode id f).outline = g.outline := by
  simp only [outline, updateNode, List.map_map, Graph.mk.injEq, and_true]
  refine List.map_congr_left fun n _ => ?_
  by_cases hid : n.id = id
  · simp [hid, hf]
  · simp [hid]

theorem outline_updateEdge (g : Graph) (id : String) {f : Edge → Edge}
    (hf : ∀ e, (f e).clear = e.clear) : (g.updateEdge id f).outline = g.outline := by
  simp only [outline, updateEdge, List.map_map, Graph.mk.injEq, true_and]
  refine List.map_congr_left fun e _ => ?_
  by_cases hid : e.id = id
  · simp [hid, hf]
  · simp [hid]

end Graph
end WorkflowCanvas
