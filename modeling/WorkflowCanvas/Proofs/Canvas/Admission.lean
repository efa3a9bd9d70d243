import WorkflowCanvas.Proofs.Canvas.History
import WorkflowCanvas.Proofs.Validation.Connection

/-! What is made in an editor passes its own check. The connections of such a graph are admitted when
they are made, and nothing that can be done afterwards makes one of them inadmissible, so that the
validation of the graph has nothing to say of its types, its connections and its handles. -/
namespace WorkflowCanvas

namespace Graph
variable {g h : Graph} {r : Registry} {conn : Connection}

def types (g : Graph) : List String := g.nodes.map (·.type)

def connections (g : Graph) : List Connection := g.edges.map (·.connection)

theorem types_outline (g : Graph) : g.outline.types = g.types := by
  simp [types, outline, Node.fresh, Function.comp_def]

theorem connections_outline (g : Graph) : g.outline.connections = g.connections := by
  simp [connections, outline, Edge.clear, Edge.connection, Function.comp_def]

theorem Admits.mono (hadmits : g.Admits r conn) (htype : ∀ id, id = conn.source ∨ id = conn.target →
    ∀ t, g.type? id = some t → h.type? id = some t) : h.Admits r conn := by
  obtain ⟨hne, s, t, hs, ht, hfault⟩ := hadmits
  exact ⟨hne, s, t, htype _ (.inl rfl) s hs, htype _ (.inr rfl) t ht, hfault⟩

theorem type?_insertNode {n : Node} {id t : String} (hn : g.insertNode n = .ok h)
    (ht : g.type? id = some t) : h.type? id = some t := by
  obtain ⟨-, rfl⟩ := insertNode_eq_ok_iff.mp hn
  obtain ⟨m, hm, rfl⟩ := type?_eq_some.mp ht
  refine type?_eq_some.mpr ⟨m, ?_, rfl⟩
  unfold node? at hm ⊢
  rw [List.find?_append, hm, Option.some_or]

theorem find?_eraseP_of_ne {id other : String} (hne : other ≠ id) (nodes : List Node) :
    (nodes.eraseP (·.id == id)).find? (·.id == other) = nodes.find? (·.id == other) := by
  induction nodes with
  | nil => rfl
  | cons n nodes ih =>
    by_cases hid : n.id = id
    · simp [hid, Ne.symm hne]
    · simp [hid, List.find?_cons, ih]

theorem type?_removeNode {id other : String} {x : Removal} (hx : g.removeNode id = .ok x)
    (hne : other ≠ id) : x.rest.type? other = g.type? other := by
  rw [removeNode_rest hx]
  exact congrArg (Option.map (·.type)) (find?_eraseP_of_ne hne g.nodes)

theorem Admits.ends {e : Edge} (hadmits : g.Admits r e.connection) : e.source ≠ e.target ∧
    ∃ s t, g.node? e.source = some s ∧ g.node? e.target = some t ∧
      r.canConnect s.type t.type = true ∧ ∃ ds dt, r.get? s.type = some ds ∧ r.get? t.type = some dt ∧
        (∀ handle, e.sourceHandle = some handle → ds.hasOutput handle = true) ∧
        ∀ handle, e.targetHandle = some handle → dt.hasInput handle = true := by
  obtain ⟨hne, _, _, hs, ht, hfault⟩ := hadmits
  obtain ⟨s, hsource, rfl⟩ := type?_eq_some.mp hs
  obtain ⟨t, htarget, rfl⟩ := type?_eq_some.mp ht
  obtain ⟨hallowed, ds, dt, hds, hdt, -, -, hdeclared⟩ :=
    Registry.connectionFault?_eq_none_iff.mp hfault
  exact ⟨hne, s, t, hsource, htarget, hallowed, ds, dt, hds, hdt, hdeclared⟩

/-- What the registry could say of a graph is in order: the types are registered, and all connections
are different and admitted. -/
structure Vetted (g : Graph) (r : Registry) : Prop where
  registered : ∀ t ∈ g.types, r.contains t = true
  admitted : ∀ conn ∈ g.connections, g.Admits r conn
  distinct : g.connections.Nodup

theorem empty_vetted (r : Registry) : Graph.empty.Vetted r :=
  ⟨by simp [types, empty], by simp [connections, empty], List.nodup_nil⟩

theorem Vetted.of_outline (hg : g.Vetted r) (heq : h.outline = g.outline) : h.Vetted r := by
  have htypes : h.types = g.types := by rw [← types_outline, heq, types_outline]
  have hconns : h.connections = g.connections := by
    rw [← connections_outline, heq, connections_outline]
  have htype : ∀ id, h.type? id = g.type? id := by
    intro id
    rw [← type?_outline, heq, type?_outline]
  refine ⟨htypes ▸ hg.registered, fun conn hconn => ?_, hconns ▸ hg.distinct⟩
  rw [hconns] at hconn
  exact (hg.admitted conn hconn).mono fun id _ t ht => (htype id).trans ht

theorem Vetted.insertNode (hg : g.Vetted r) {n : Node} (hn : g.insertNode n = .ok h)
    (hknown : r.contains n.type = true) : h.Vetted r := by
  have hkeeps : ∀ id t, g.type? id = some t → h.type? id = some t := fun id t =>
    type?_insertNode hn
  obtain ⟨-, rfl⟩ := insertNode_eq_ok_iff.mp hn
  refine ⟨fun t ht => ?_, fun conn hconn => ?_, hg.distinct⟩
  · obtain ⟨m, hm, rfl⟩ := List.mem_map.mp ht
    obtain hm | hm := List.mem_append.mp hm
    · exact hg.registered _ (List.mem_map_of_mem hm)
    · obtain rfl := List.mem_singleton.mp hm
      exact hknown
  · exact (hg.admitted conn hconn).mono fun id _ => hkeeps id

theorem Vetted.insertEdge (hg : g.Vetted r) {e : Edge} (he : g.insertEdge e = .ok h)
    (hadmits : g.Admits r e.connection) (hunmade : ∀ f ∈ g.edges, f.connection ≠ e.connection) :
    h.Vetted r := by
  obtain ⟨-, -, -, rfl⟩ := insertEdge_eq_ok_iff.mp he
  have hconns : connections { g with edges := g.edges ++ [e] } = g.connections.concat e.connection := by
    simp [connections]
  refine ⟨hg.registered, fun conn hconn => ?_, ?_⟩
  · rw [hconns, List.concat_eq_append] at hconn
    obtain hconn | hconn := List.mem_append.mp hconn
    · exact hg.admitted conn hconn
    · obtain rfl := List.mem_singleton.mp hconn
      exact hadmits
  · rw [hconns]
    refine hg.distinct.concat fun hmem => ?_
    obtain ⟨f, hf, heq⟩ := List.mem_map.mp hmem
    exact hunmade f hf heq

theorem Vetted.removeNode (hg : g.Vetted r) {id : String} {x : Removal}
    (hx : g.removeNode id = .ok x) : x.rest.Vetted r := by
  have htype : ∀ other, other ≠ id → x.rest.type? other = g.type? other := fun other =>
    type?_removeNode hx
  rw [removeNode_rest hx] at htype ⊢
  have hedges : (g.edges.filter (!·.touches id)).Sublist g.edges := List.filter_sublist
  refine ⟨fun t ht => ?_, fun conn hconn => ?_, (hedges.map _).nodup hg.distinct⟩
  · have hsub : (g.nodes.eraseP (·.id == id)).Sublist g.nodes := List.eraseP_sublist
    exact hg.registered t ((hsub.map _).subset ht)
  · obtain ⟨e, he, rfl⟩ := List.mem_map.mp hconn
    obtain ⟨hedge, hsource, htarget⟩ : e ∈ g.edges ∧ e.source ≠ id ∧ e.target ≠ id := by
      simpa [Edge.touches] using he
    -- Neither end of an edge that is left is the node taken out.
    refine (hg.admitted _ (List.mem_map_of_mem hedge)).mono fun other hother t ht => ?_
    obtain rfl | rfl := hother
    · exact (htype _ hsource).trans ht
    · exact (htype _ htarget).trans ht

theorem Vetted.removeEdge (hg : g.Vetted r) {id : String} {e : Edge}
    (he : g.removeEdge id = .ok (e, h)) : h.Vetted r := by
  rw [removeEdge_rest he]
  have hsub : (g.edges.eraseP (·.id == id)).Sublist g.edges := List.eraseP_sublist
  exact ⟨hg.registered, fun conn hconn => hg.admitted conn ((hsub.map _).subset hconn),
    (hsub.map _).nodup hg.distinct⟩

theorem Change.vetted (hchange : g.Change r h) (hg : g.Vetted r) : h.Vetted r := by
  cases hchange with
  | kept same => exact hg.of_outline same
  | nodeIn n inserted known =>
    refine hg.insertNode inserted ?_
    obtain hknown | ⟨m, hm, htype⟩ := known
    · exact hknown
    · exact htype ▸ hg.registered _ (List.mem_map_of_mem hm)
  | edgeIn e inserted admitted unmade => exact hg.insertEdge inserted admitted unmade
  | nodeOut removed => exact hg.removeNode removed
  | edgeOut removed => exact hg.removeEdge removed

end Graph

/-! ### Validation -/

namespace Registry
variable {r : Registry} {g : Graph}

theorem edgeIssuesIn_eq_nil {e : Edge} (h : g.Admits r e.connection) :
    r.edgeIssuesIn g e = [] := by
  obtain ⟨-, _, _, hs, ht, hfault⟩ := h
  obtain ⟨n, hn, rfl⟩ := Graph.type?_eq_some.mp hs
  obtain ⟨m, hm, rfl⟩ := Graph.type?_eq_some.mp ht
  obtain ⟨-, s, t, hs, ht, -⟩ := connectionFault?_eq_none_iff.mp hfault
  rw [edgeIssuesIn_eq hn hm]
  exact ((connectionFault?_eq_none_iff_edgeIssues hs ht).mp hfault).1

/-- All that a validation finds in the structure of a vetted graph is how it runs. -/
theorem issues_validate (hg : g.Vetted r) : (r.validate g).issues = orderIssues g := by
  have htypes : g.nodes.filterMap r.typeIssue? = [] := by
    rw [List.filterMap_eq_nil_iff]
    intro n hn
    rw [typeIssue?, if_pos (hg.registered _ (List.mem_map_of_mem hn))]
  have hedges : g.edges.flatMap (r.edgeIssuesIn g) = [] := by
    rw [List.flatMap_eq_nil_iff]
    intro e he
    exact edgeIssuesIn_eq_nil (hg.admitted _ (List.mem_map_of_mem he))
  simp only [validate_eq, htypes, hedges, List.nil_append]

theorem mem_orderIssues {issue : GraphIssue} (h : issue ∈ orderIssues g) :
    issue = .noEntryPoint ∨ ∃ ids, issue = .blocked ids := by
  obtain ⟨-, ⟨-, h⟩ | ⟨-, h⟩⟩ := mem_orderIssues_iff.mp h
  · exact .inl h
  · exact .inr ⟨_, h⟩

end Registry

/-! ### Editors -/

namespace History
open Canvas
variable {registry : Registry} {history : History}

/-- A history in an editor with the given registry: all is made there, and what is loaded was saved
there. -/
def InEditor (registry : Registry) : History → Prop
  | start own _ => own = registry
  | edit past _ => past.InEditor registry
  | reload past other _ => past.InEditor registry ∧ other.InEditor registry
  | _ => False

theorem InEditor.registry_eq (h : history.InEditor registry) :
    history.canvas.registry = registry := by
  induction history with
  | start own settings => exact h
  | edit past e ih =>
    refine attempted_induction (P := (·.registry = registry)) (ih h) fun c' hedit => ?_
    exact (edited_does hedit).changes.1.trans (ih h)
  | reload past other name ih _ =>
    refine attempted_induction (P := (·.registry = registry)) (ih h.1) fun c' hload => ?_
    rw [loadRecord_toRecord hload]
    exact ih h.1
  | _ => cases h

theorem InEditor.vetted (h : history.InEditor registry) : history.canvas.graph.Vetted registry := by
  induction history with
  | start own settings => exact Graph.empty_vetted registry
  | edit past e ih =>
    refine attempted_induction (P := (·.graph.Vetted registry)) (ih h) fun c' hedit => ?_
    have hpast : past.InEditor registry := h
    have hchange := (edited_does hedit).changes.2
    rw [hpast.registry_eq] at hchange
    exact hchange.vetted (ih hpast)
  | reload past other name ih ihother =>
    refine attempted_induction (P := (·.graph.Vetted registry)) (ih h.1) fun c' hload => ?_
    rw [loadRecord_toRecord hload]
    exact (ihother h.2).of_outline (Graph.outline_clear _)
  | _ => cases h

/-- In an editor all nodes are of registered types and all edges are allowed between two nodes, at
handles that there are. No connection is made twice, each would be accepted again, and validation
finds nothing in the structure but a missing entry point and nodes that a cycle holds back. -/
theorem inEditor_admitted (h : history.InEditor registry) :
    history.canvas.registry = registry ∧
    (∀ n ∈ history.canvas.graph.nodes, registry.contains n.type = true) ∧
    (∀ e ∈ history.canvas.graph.edges, e.source ≠ e.target ∧
      ∃ s t, history.canvas.graph.node? e.source = some s ∧
        history.canvas.graph.node? e.target = some t ∧ registry.canConnect s.type t.type = true ∧
        ∃ ds dt, registry.get? s.type = some ds ∧ registry.get? t.type = some dt ∧
          (∀ handle, e.sourceHandle = some handle → ds.hasOutput handle = true) ∧
          ∀ handle, e.targetHandle = some handle → dt.hasInput handle = true) ∧
    (history.canvas.graph.edges.map (·.connection)).Nodup ∧
    (∀ e ∈ history.canvas.graph.edges, history.canvas.checkConnection e.connection = .ok ()) ∧
    ∀ issue ∈ history.canvas.validate.issues,
      issue = .noEntryPoint ∨ ∃ ids, issue = .blocked ids := by
  have hvetted := h.vetted
  have hregistry := h.registry_eq
  refine ⟨hregistry, fun n hn => hvetted.registered _ (List.mem_map_of_mem hn), fun e he => ?_,
    hvetted.distinct, fun e he => ?_, fun issue hissue => ?_⟩
  · exact (hvetted.admitted _ (List.mem_map_of_mem he)).ends
  · rw [checkConnection_eq_ok_iff_admits, hregistry]
    exact hvetted.admitted _ (List.mem_map_of_mem he)
  · rw [validate, hregistry, Registry.issues_validate hvetted] at hissue
    exact Registry.mem_orderIssues hissue

/-- Two nodes that are connected and run, with a copy of one of them, saved and loaded again. -/
def draft : History :=
  let nodes := ((start crowded.registry {}).edit (.addNode (fun _ => "0") "step" .origin)).edit
    (.addNode (fun _ => "0") "step" .origin)
  let made := (nodes.edit (.connect { source := "node_1_0", target := "node_2_0" })).edit
    (.run { registry := crowded.registry, executor := Mock.execute {}, settings := {}, input := .null })
  (start crowded.registry {}).reload (made.edit (.duplicate (fun _ => "0") "node_2_0")) "draft"

theorem inEditor_admitted_draft : draft.InEditor crowded.registry ∧
    draft.canvas.graph.nodeIds = ["node_1_0", "node_2_0", "node_3_0"] ∧
    draft.canvas.graph.edgeIds = ["edge-node_1_0-node_2_0"] ∧
    draft.canvas.registry = crowded.registry ∧
    (∀ n ∈ draft.canvas.graph.nodes, crowded.registry.contains n.type = true) ∧
    (∀ e ∈ draft.canvas.graph.edges, e.source ≠ e.target ∧
      ∃ s t, draft.canvas.graph.node? e.source = some s ∧
        draft.canvas.graph.node? e.target = some t ∧
        crowded.registry.canConnect s.type t.type = true ∧
        ∃ ds dt, crowded.registry.get? s.type = some ds ∧ crowded.registry.get? t.type = some dt ∧
          (∀ handle, e.sourceHandle = some handle → ds.hasOutput handle = true) ∧
          ∀ handle, e.targetHandle = some handle → dt.hasInput handle = true) ∧
    (draft.canvas.graph.edges.map (·.connection)).Nodup ∧
    (∀ e ∈ draft.canvas.graph.edges, draft.canvas.checkConnection e.connection = .ok ()) ∧
    ∀ issue ∈ draft.canvas.validate.issues, issue = .noEntryPoint ∨ ∃ ids, issue = .blocked ids :=
  ⟨⟨rfl, rfl⟩, by decide +kernel, by decide +kernel, inEditor_admitted ⟨rfl, rfl⟩⟩

end History
end WorkflowCanvas
