import WorkflowCanvas.Proofs.Graph.Editing
import WorkflowCanvas.Proofs.Run.Marks

/-! Removing nodes. A node takes every edge that touches it along, so that of two nodes the one that is
removed first takes the edges between them; what is left does not depend on which that is. -/
namespace WorkflowCanvas.Graph
variable {g : Graph} {id a b : String} {n : Node} {es : List Edge}

/-- The graph without the node under an id and the edges that touch it. -/
def without (g : Graph) (id : String) : Graph :=
  ⟨g.nodes.filter (·.id != id), g.edges.filter (!·.touches id)⟩

theorem eraseP_eq_filter {nodes : List Node} (hnodup : (nodes.map (·.id)).Nodup) (id : String) :
    nodes.eraseP (·.id == id) = nodes.filter (·.id != id) := by
  induction nodes with
  | nil => rfl
  | cons n nodes ih =>
    rw [List.map_cons, List.nodup_cons] at hnodup
    by_cases hn : n.id = id
    · have hothers : ∀ m ∈ nodes, (m.id != id) = true := by
        intro m hm
        have hne : m.id ≠ id := fun heq => hnodup.1 (hn ▸ heq ▸ List.mem_map_of_mem hm)
        simpa using hne
      rw [List.eraseP_cons_of_pos (by simpa using hn), List.filter_cons_of_neg (by simpa using hn),
        List.filter_eq_self.mpr hothers]
    · rw [List.eraseP_cons_of_neg (by simpa using hn), List.filter_cons_of_pos (by simpa using hn),
        ih hnodup.2]

theorem WellFormed.removeNode_eq (hg : g.WellFormed) (hn : g.node? id = some n) :
    g.removeNode id = .ok ⟨n, g.edges.filter (·.touches id), g.without id⟩ := by
  rw [Graph.removeNode, hn, eraseP_eq_filter hg.nodes_nodup]
  rfl

theorem WellFormed.without (hg : g.WellFormed) (hn : g.node? id = some n) :
    (g.without id).WellFormed :=
  hg.removeNode (hg.removeNode_eq hn)

theorem node?_without (g : Graph) (hne : a ≠ b) : (g.without a).node? b = g.node? b := by
  rw [node?, without, List.find?_filter, node?]
  congr 1
  funext n
  by_cases hn : n.id = b
  · simp [hn, hne.symm]
  · simp [hn]

theorem without_without (g : Graph) (a b : String) : (g.without a).without b =
    ⟨g.nodes.filter fun n => n.id != a && n.id != b,
      g.edges.filter fun e => !e.touches a && !e.touches b⟩ := by
  simp only [without, List.filter_filter, Bool.and_comm]

theorem without_comm (g : Graph) (a b : String) :
    (g.without a).without b = (g.without b).without a := by
  rw [without_without, without_without]
  simp only [Bool.and_comm]

/-- Two removals return the edges that touch either node, each of them once. -/
theorem removed_perm (g : Graph) (a b : String) :
    (g.edges.filter (·.touches a) ++ (g.without a).edges.filter (·.touches b)).Perm
      (g.edges.filter fun e => e.touches a || e.touches b) := by
  have hfirst : (g.edges.filter fun e => e.touches a || e.touches b).filter (·.touches a) =
      g.edges.filter (·.touches a) := by
    rw [List.filter_filter]
    refine List.filter_congr fun e _ => ?_
    cases e.touches a <;> simp
  have hsecond : (g.edges.filter fun e => e.touches a || e.touches b).filter (!·.touches a) =
      (g.without a).edges.filter (·.touches b) := by
    rw [without, List.filter_filter, List.filter_filter]
    refine List.filter_congr fun e _ => ?_
    cases e.touches a <;> simp
  rw [← hfirst, ← hsecond]
  exact List.filter_append_perm _ _

/-! ### A node that was not there -/

theorem WellFormed.touches_eq_false (hg : g.WellFormed) (hid : id ∉ g.nodeIds) :
    ∀ e ∈ g.edges, e.touches id = false := by
  intro e he
  have hsource : e.source ≠ id := fun heq => hid (heq ▸ hg.source_mem e he)
  have htarget : e.target ≠ id := fun heq => hid (heq ▸ hg.target_mem e he)
  simp [Edge.touches, hsource, htarget]

/-- A node that was added with edges goes together with them, and nothing else does. -/
theorem WellFormed.removeNode_added (hg : g.WellFormed) (hnew : n.id ∉ g.nodeIds)
    (htouch : ∀ e ∈ es, e.touches n.id = true) :
    Graph.removeNode ⟨g.nodes ++ [n], g.edges ++ es⟩ n.id = .ok ⟨n, es, g⟩ := by
  have hother : ∀ m ∈ g.nodes, ¬(m.id == n.id) = true := by
    intro m hm heq
    exact hnew (List.mem_map.mpr ⟨m, hm, by simpa using heq⟩)
  have hfind : node? ⟨g.nodes ++ [n], g.edges ++ es⟩ n.id = some n := by
    rw [node?, List.find?_append, List.find?_eq_none.mpr hother]
    simp
  have hold := hg.touches_eq_false hnew
  have hgone : g.edges.filter (·.touches n.id) = [] :=
    List.filter_eq_nil_iff.mpr fun e he => by simp [hold e he]
  have hstay : g.edges.filter (!·.touches n.id) = g.edges :=
    List.filter_eq_self.mpr fun e he => by simp [hold e he]
  have hgoing : es.filter (!·.touches n.id) = [] :=
    List.filter_eq_nil_iff.mpr fun e he => by simp [htouch e he]
  rw [Graph.removeNode, hfind]
  dsimp only
  rw [List.filter_append, List.filter_append, hgone, hstay, List.filter_eq_self.mpr htouch, hgoing,
    List.eraseP_append_right _ hother, List.eraseP_cons_of_pos (by simp)]
  simp

/-- Of two nodes that are removed it does not matter which is the first: the same is left, all other
nodes and all edges between them in their order, and the two removals return the nodes and, each once,
the edges that touched one of them. A removal undoes the insertion of a node and of edges that touch it,
and returns just these, in the order of their insertion. -/
theorem removal_outcome (hg : g.WellFormed) :
    (∀ a ∈ g.nodeIds, ∀ b ∈ g.nodeIds, a ≠ b → ∃ x y x' y' : Removal,
      g.removeNode a = .ok x ∧ x.rest.removeNode b = .ok y ∧
      g.removeNode b = .ok x' ∧ x'.rest.removeNode a = .ok y' ∧
      g.node? a = some x.node ∧ g.node? b = some y.node ∧ y'.node = x.node ∧ x'.node = y.node ∧
      y.rest = y'.rest ∧
      y.rest.nodes = g.nodes.filter (fun n => n.id != a && n.id != b) ∧
      y.rest.edges = g.edges.filter (fun e => !e.touches a && !e.touches b) ∧
      (x.edges ++ y.edges).Perm (g.edges.filter fun e => e.touches a || e.touches b) ∧
      (x'.edges ++ y'.edges).Perm (g.edges.filter fun e => e.touches a || e.touches b)) ∧
    ∀ (n : Node) (es : List Edge), n.id ∉ g.nodeIds → (∀ e ∈ es, e.touches n.id = true) →
      ∃ h, g.insertNode n = .ok h ∧
        ((∃ h', es.foldlM insertEdge h = .ok h') ↔
          (∀ e ∈ es, e.source ∈ n.id :: g.nodeIds ∧ e.target ∈ n.id :: g.nodeIds) ∧
          (g.edgeIds ++ es.map (·.id)).Nodup) ∧
        ∀ h', es.foldlM insertEdge h = .ok h' → h'.removeNode n.id = .ok ⟨n, es, g⟩ := by
  refine ⟨fun a ha b hb hne => ?_, fun n es hnew htouch => ?_⟩
  · obtain ⟨n, hn, -⟩ := g.node?_isSome ha
    obtain ⟨m, hm, -⟩ := g.node?_isSome hb
    have hrest := (hg.without hn).removeNode_eq ((g.node?_without hne).trans hm)
    have hrest' := (hg.without hm).removeNode_eq ((g.node?_without hne.symm).trans hn)
    have hswapped : (g.edges.filter fun e => e.touches b || e.touches a) =
        g.edges.filter fun e => e.touches a || e.touches b := by simp only [Bool.or_comm]
    refine ⟨_, _, _, _, hg.removeNode_eq hn, hrest, hg.removeNode_eq hm, hrest', hn, hm, rfl, rfl,
      g.without_comm a b, ?_, ?_, g.removed_perm a b, hswapped ▸ g.removed_perm b a⟩
    · exact congrArg Graph.nodes (g.without_without a b)
    · exact congrArg Graph.edges (g.without_without a b)
  · have hinsert := insertNode_eq_ok_iff.mpr ⟨hnew, rfl⟩
    have hends : ∀ id, id ∈ nodeIds { g with nodes := g.nodes ++ [n] } ↔ id ∈ n.id :: g.nodeIds := by
      intro id
      simp [nodeIds, or_comm]
    have hedges := fun h' => insertEdges_eq_ok_iff (g := { g with nodes := g.nodes ++ [n] })
      (h := h') hg.edges_nodup es
    refine ⟨_, hinsert, ?_, fun h' hh' => ?_⟩
    · simp only [hedges, hends, exists_and_left, exists_eq, and_true]
      rfl
    · obtain ⟨-, -, rfl⟩ := (hedges h').mp hh'
      exact hg.removeNode_added hnew htouch

/-- Two nodes joined by edges both ways, one of them twice, and a loop at each node. -/
def mesh : Graph where
  nodes := [.fresh "a" "agent", .fresh "b" "agent", .fresh "c" "output"]
  edges := [⟨"aa", "a", "a", none, none, false⟩, ⟨"ab", "a", "b", none, none, false⟩,
    ⟨"ba", "b", "a", none, none, true⟩, ⟨"ab2", "a", "b", some "out", none, false⟩,
    ⟨"bc", "b", "c", none, none, false⟩, ⟨"cc", "c", "c", none, none, false⟩]

/-- Edges that touch a node which is not there yet. -/
def strands : List Edge :=
  [⟨"da", "d", "a", none, none, false⟩, ⟨"dd", "d", "d", none, none, false⟩,
    ⟨"cd", "c", "d", none, some "in", true⟩]

theorem removal_outcome_mesh : mesh.WellFormed ∧ "a" ∈ mesh.nodeIds ∧ "b" ∈ mesh.nodeIds ∧
    (∃ x y x' y' : Removal, mesh.removeNode "a" = .ok x ∧ x.rest.removeNode "b" = .ok y ∧
      mesh.removeNode "b" = .ok x' ∧ x'.rest.removeNode "a" = .ok y' ∧ y.rest = y'.rest ∧
      y.rest.edges = [⟨"cc", "c", "c", none, none, false⟩] ∧
      (x.edges ++ y.edges).Perm (mesh.edges.take 5) ∧
      (x'.edges ++ y'.edges).Perm (mesh.edges.take 5)) ∧
    "d" ∉ mesh.nodeIds ∧ (∀ e ∈ strands, e.touches "d" = true) ∧
    ∃ h h', mesh.insertNode (.fresh "d" "agent") = .ok h ∧ strands.foldlM insertEdge h = .ok h' ∧
      h'.removeNode "d" = .ok ⟨.fresh "d" "agent", strands, mesh⟩ := by
  have hmesh : mesh.WellFormed := ⟨by decide, by decide, by decide, by decide⟩
  have hnew : "d" ∉ mesh.nodeIds := by decide
  have htouch : ∀ e ∈ strands, e.touches "d" = true := by decide
  obtain ⟨htwo, hadded⟩ := removal_outcome hmesh
  obtain ⟨x, y, x', y', hx, hy, hx', hy', -, -, -, -, hrest, -, hedges, hperm, hperm'⟩ :=
    htwo "a" (by decide) "b" (by decide) (by decide)
  obtain ⟨h, hinsert, hok, hremove⟩ := hadded (.fresh "d" "agent") strands hnew htouch
  obtain ⟨h', hh'⟩ := hok.mpr ⟨by decide, by decide⟩
  exact ⟨hmesh, by decide, by decide, ⟨x, y, x', y', hx, hy, hx', hy', hrest, hedges, hperm, hperm'⟩,
    hnew, htouch, h, h', hinsert, hh', hremove h' hh'⟩

end WorkflowCanvas.Graph
