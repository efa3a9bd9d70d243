import WorkflowCanvas.Proofs.Graph.Editing
import WorkflowCanvas.Canvas

/-! Connecting two nodes. A connection is made when it would be accepted: an edge that is there
already is found again, and a new one gets an id that no edge has. -/
namespace WorkflowCanvas

/-! ### Free ids -/

namespace Graph
variable (g : Graph) (base : String)

/-- The base itself if no edge has it, or else the base with the first number that is free. The
number is found among as many as there are edges. -/
def FirstFree (id : String) : Prop :=
  id ∉ g.edgeIds ∧ (id = base ∨ base ∈ g.edgeIds ∧ ∃ n, 1 ≤ n ∧ n ≤ g.edges.length ∧
    id = s!"{base}-{n}" ∧ ∀ m, 1 ≤ m → m < n → s!"{base}-{m}" ∈ g.edgeIds)

end Graph

namespace Canvas
variable {g : Graph} {base : String}

theorem numbered_injective (base : String) {m n : Nat} (h : s!"{base}-{m}" = s!"{base}-{n}") :
    m = n := by
  have hrepr : m.repr = n.repr := (String.append_right_inj (base ++ "-")).mp h
  have hdigits : Nat.toDigits 10 m = Nat.toDigits 10 n := by
    simpa only [Nat.toList_repr] using congrArg String.toList hrepr
  simpa using congrArg (Nat.ofDigitChars 10 · 0) hdigits

theorem base_ne_numbered (base : String) (n : Nat) : base ≠ s!"{base}-{n}" := by
  intro h
  have hlength : base.length = (base ++ "-" ++ toString n).length := congrArg String.length h
  rw [String.length_append, String.length_append] at hlength
  have hdash : "-".length = 1 := rfl
  omega

/-- The base and the numbers up to that of edges are more ids than there are edges. -/
theorem exists_free_number (hbase : base ∈ g.edgeIds) :
    ∃ n, 1 ≤ n ∧ n ≤ g.edges.length ∧ s!"{base}-{n}" ∉ g.edgeIds := by
  by_contra hnone
  have htaken : ∀ n, 1 ≤ n → n ≤ g.edges.length → s!"{base}-{n}" ∈ g.edgeIds := by
    intro n hlow hhigh
    by_contra hfree
    exact hnone ⟨n, hlow, hhigh, hfree⟩
  let ids := base :: (List.range' 1 g.edges.length).map fun n => s!"{base}-{n}"
  have hnodup : ids.Nodup := by
    refine List.nodup_cons.mpr ⟨?_, ?_⟩
    · intro hmem
      obtain ⟨n, _, hn⟩ := List.mem_map.mp hmem
      exact base_ne_numbered base n hn.symm
    · exact List.Nodup.map_on (fun m _ n _ h => numbered_injective base h) List.nodup_range'
  have hsub : ids ⊆ g.edgeIds := by
    intro id hid
    obtain rfl | hid := List.mem_cons.mp hid
    · exact hbase
    · obtain ⟨n, hn, rfl⟩ := List.mem_map.mp hid
      rw [List.mem_range'_1] at hn
      exact htaken n hn.1 (by omega)
  have hle := (List.subperm_of_subset hnodup hsub).length_le
  simp only [ids, List.length_cons, List.length_map, List.length_range', Graph.edgeIds] at hle
  omega

/-- The search stops at the first number that is free, if there is one within its reach. -/
theorem freeEdgeId_first (fuel n : Nat) (h : ∃ k, n ≤ k ∧ k ≤ n + fuel ∧ s!"{base}-{k}" ∉ g.edgeIds) :
    ∃ k, n ≤ k ∧ k ≤ n + fuel ∧ freeEdgeId g base fuel n = s!"{base}-{k}" ∧
      s!"{base}-{k}" ∉ g.edgeIds ∧ ∀ m, n ≤ m → m < k → s!"{base}-{m}" ∈ g.edgeIds := by
  induction fuel generalizing n with
  | zero =>
    obtain ⟨k, hlow, hhigh, hfree⟩ := h
    obtain rfl : k = n := by omega
    exact ⟨k, hlow, hhigh, rfl, hfree, fun m hm hlt => by omega⟩
  | succ fuel ih =>
    rw [freeEdgeId]
    by_cases htaken : (g.edge? s!"{base}-{n}").isSome = true
    · have hmem := (g.edge?_isSome_iff _).mp htaken
      obtain ⟨k, hlow, hhigh, hfree⟩ := h
      have hne : k ≠ n := fun heq => hfree (heq ▸ hmem)
      obtain ⟨j, hj, hjle, heq, hjfree, hbelow⟩ := ih (n + 1) ⟨k, by omega, by omega, hfree⟩
      rw [if_pos htaken]
      refine ⟨j, by omega, by omega, heq, hjfree, fun m hm hlt => ?_⟩
      obtain rfl | hlater := Nat.eq_or_lt_of_le hm
      · exact hmem
      · exact hbelow m hlater hlt
    · have hfree : s!"{base}-{n}" ∉ g.edgeIds := fun hmem =>
        htaken ((g.edge?_isSome_iff _).mpr hmem)
      rw [if_neg htaken]
      exact ⟨n, Nat.le_refl n, by omega, rfl, hfree, fun m hm hlt => by omega⟩

theorem newEdgeId_firstFree (g : Graph) (conn : Connection) :
    g.FirstFree conn.edgeId (newEdgeId g conn) := by
  unfold newEdgeId
  by_cases hbase : (g.edge? conn.edgeId).isSome = true
  · have hmem := (g.edge?_isSome_iff _).mp hbase
    obtain ⟨n, hlow, hhigh, hfree⟩ := exists_free_number hmem
    obtain ⟨k, hk, -, heq, hkfree, hbelow⟩ :=
      freeEdgeId_first g.edges.length 1 ⟨n, hlow, by omega, hfree⟩
    have hkn : k ≤ n := by
      by_contra hlt
      exact hfree (hbelow n hlow (by omega))
    rw [if_pos hbase, heq]
    exact ⟨hkfree, .inr ⟨hmem, k, hk, by omega, rfl, hbelow⟩⟩
  · rw [if_neg hbase]
    exact ⟨fun hmem => hbase ((g.edge?_isSome_iff _).mpr hmem), .inl rfl⟩

/-! ### Connections -/

variable {c : Canvas} {conn : Connection}

theorem checkConnection_eq_ok_iff : c.checkConnection conn = .ok () ↔
    ∃ s t, c.graph.node? conn.source = some s ∧ c.graph.node? conn.target = some t ∧ s.id ≠ t.id ∧
      c.registry.connectionFault? s.type t.type conn.sourceHandle conn.targetHandle = none := by
  unfold checkConnection
  constructor
  · intro h
    split at h
    · cases h
    · cases h
    · next s t hs ht =>
      split at h
      · cases h
      · next hne =>
        split at h
        · cases h
        · next hfault => exact ⟨s, t, hs, ht, hne, hfault⟩
  · rintro ⟨s, t, hs, ht, hne, hfault⟩
    simp [hs, ht, hne, hfault]

theorem checkConnection_ne_duplicateEdge (c : Canvas) (conn : Connection) (id : String) :
    c.checkConnection conn ≠ .error (.duplicateEdge id) := by
  unfold checkConnection
  repeat' split
  all_goals simp

/-- The edge of a connection that is not there yet. -/
def newEdge (g : Graph) (conn : Connection) : Edge :=
  { Edge.ofConnection conn with id := newEdgeId g conn }

/-- The canvas with one more edge. -/
def addEdge (c : Canvas) (e : Edge) : Canvas :=
  { c with graph := { c.graph with edges := c.graph.edges ++ [e] } }

theorem connect_of_error {e : WorkflowError} (h : c.checkConnection conn = .error e) :
    c.connect conn = .error e := by
  unfold connect
  rw [h]
  rfl

theorem connect_of_found {e : Edge} (h : c.checkConnection conn = .ok ())
    (he : c.graph.findEdge? conn = some e) : c.connect conn = .ok (e.id, c) := by
  unfold connect
  rw [h, he]
  rfl

theorem insertEdge_newEdge (h : c.checkConnection conn = .ok ()) :
    c.graph.insertEdge (newEdge c.graph conn) =
      .ok { c.graph with edges := c.graph.edges ++ [newEdge c.graph conn] } := by
  obtain ⟨s, t, hs, ht, -⟩ := checkConnection_eq_ok_iff.mp h
  have hsource : conn.source ∈ c.graph.nodeIds :=
    List.mem_map.mpr ⟨s, Graph.node?_eq_some hs⟩
  have htarget : conn.target ∈ c.graph.nodeIds :=
    List.mem_map.mpr ⟨t, Graph.node?_eq_some ht⟩
  exact Graph.insertEdge_eq_ok_iff.mpr
    ⟨hsource, htarget, (newEdgeId_firstFree c.graph conn).1, rfl⟩

theorem connect_of_new (h : c.checkConnection conn = .ok ())
    (hnone : c.graph.findEdge? conn = none) :
    c.connect conn = .ok ((newEdge c.graph conn).id, c.addEdge (newEdge c.graph conn)) := by
  have hinsert := insertEdge_newEdge h
  unfold connect
  rw [h, hnone]
  unfold newEdge at hinsert ⊢
  simp only [bind, Except.bind, hinsert]
  rfl

theorem removeEdge_addEdge {e : Edge} (hnew : e.id ∉ c.graph.edgeIds) :
    (c.addEdge e).removeEdge e.id = .ok (e, c) := by
  have hnone : ∀ d ∈ c.graph.edges, ¬(d.id == e.id) = true := by
    intro d hd heq
    exact hnew (List.mem_map.mpr ⟨d, hd, by simpa using heq⟩)
  have hedge : (c.addEdge e).graph.edge? e.id = some e := by
    simp only [addEdge, Graph.edge?, List.find?_append, List.find?_eq_none.mpr hnone]
    simp
  have hrest : (c.addEdge e).graph.edges.eraseP (·.id == e.id) = c.graph.edges := by
    simp only [addEdge]
    rw [List.eraseP_append_right _ hnone]
    simp
  simp only [removeEdge, Graph.removeEdge, hedge, hrest]
  rfl

theorem findEdge?_eq_none_iff (g : Graph) (conn : Connection) :
    g.findEdge? conn = none ↔ ∀ e ∈ g.edges, e.connection ≠ conn := by
  simp [Graph.findEdge?]

theorem findEdge?_addEdge {e : Edge} (hnone : c.graph.findEdge? conn = none)
    (he : e.connection = conn) : (c.addEdge e).graph.findEdge? conn = some e := by
  unfold Graph.findEdge? at hnone ⊢
  rw [addEdge, List.find?_append, hnone, Option.none_or, List.find?_cons_of_pos (by simpa using he)]

/-- Connecting succeeds when the check does, and fails as the check fails. The first edge that makes
the connection is returned and nothing changes, or one edge is appended, under the first free id. To
connect again changes nothing, and to remove a new edge gives back the canvas as it was. -/
theorem connect_outcome (c : Canvas) (conn : Connection) :
    (c.connect conn).map (fun _ => ()) = c.checkConnection conn ∧
    (∀ id, c.connect conn ≠ .error (.duplicateEdge id)) ∧
    ∀ i c', c.connect conn = .ok (i, c') →
      ((∃ before e after, c.graph.edges = before ++ e :: after ∧ e.connection = conn ∧
          (∀ d ∈ before, d.connection ≠ conn) ∧ i = e.id ∧ c' = c) ∨
        (∀ e ∈ c.graph.edges, e.connection ≠ conn) ∧ c.graph.FirstFree conn.edgeId i ∧
          ∃ e : Edge, e.id = i ∧ e.connection = conn ∧ e.animated = false ∧
            c' = { c with graph := { c.graph with edges := c.graph.edges ++ [e] } } ∧
            c'.removeEdge i = .ok (e, c)) ∧
      c'.connect conn = .ok (i, c') := by
  cases hcheck : c.checkConnection conn with
  | error e =>
    have hconnect := connect_of_error hcheck
    refine ⟨by rw [hconnect]; rfl, fun id hid => ?_, fun i c' h => ?_⟩
    · obtain rfl := Except.error.inj (hconnect.symm.trans hid)
      exact checkConnection_ne_duplicateEdge c conn id hcheck
    · rw [hconnect] at h
      cases h
  | ok =>
    cases hfind : c.graph.findEdge? conn with
    | some e =>
      have hconnect := connect_of_found hcheck hfind
      refine ⟨by rw [hconnect]; rfl, by simp [hconnect], fun i c' h => ?_⟩
      obtain ⟨rfl, rfl⟩ : e.id = i ∧ c = c' := by simpa [hconnect] using h
      obtain ⟨hconn, before, after, hsplit, hbefore⟩ := List.find?_eq_some_iff_append.mp hfind
      refine ⟨.inl ⟨before, e, after, hsplit, by simpa using hconn, ?_, rfl, rfl⟩, hconnect⟩
      intro d hd
      simpa using hbefore d hd
    | none =>
      have hconnect := connect_of_new hcheck hfind
      refine ⟨by rw [hconnect]; rfl, by simp [hconnect], fun i c' h => ?_⟩
      rw [hconnect] at h
      obtain ⟨rfl, rfl⟩ := Prod.mk.inj (Except.ok.inj h)
      have hfree := newEdgeId_firstFree c.graph conn
      have hnone := (findEdge?_eq_none_iff c.graph conn).mp hfind
      refine ⟨.inr ⟨hnone, hfree, _, rfl, rfl, rfl, rfl, ?_⟩, ?_⟩
      · exact removeEdge_addEdge hfree.1
      · have hsame : (c.addEdge (newEdge c.graph conn)).checkConnection conn = .ok () := hcheck
        exact connect_of_found hsame (findEdge?_addEdge hfind rfl)

/-- Two nodes, with the id of their connection and its first number on edges the other way. -/
def crowded : Canvas where
  registry :=
    { definitions := [{ type := "step", label := "Step", category := "steps" }]
      allowed := [("step", "step")] }
  graph :=
    { nodes := [.fresh "a" "step", .fresh "b" "step"]
      edges := [⟨"edge-a-b", "b", "a", none, none, false⟩,
        ⟨"edge-a-b-1", "b", "a", some "out", none, false⟩] }

example : ((crowded.connect { source := "a", target := "b" }).map (·.1)).toOption =
    some "edge-a-b-2" := by decide +kernel

end Canvas
end WorkflowCanvas
