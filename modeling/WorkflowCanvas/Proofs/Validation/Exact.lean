import WorkflowCanvas.Proofs.Canvas.History
import WorkflowCanvas.Proofs.Order.Cycles

/-! The report on a graph says all that is wrong with the graph, each thing once, and nothing else. -/
namespace WorkflowCanvas
open Relation

/-! ### The ends of an edge -/

/-- One of the two ends of an edge. -/
inductive Edge.Side where
  | source | target
  deriving DecidableEq, Repr

def Edge.Side.all : List Edge.Side := [.source, .target]

/-- The node at an end. -/
def Edge.node (e : Edge) : Edge.Side → String
  | .source => e.source
  | .target => e.target

/-- The handle at an end, if one is given. -/
def Edge.handle (e : Edge) : Edge.Side → Option String
  | .source => e.sourceHandle
  | .target => e.targetHandle

/-- Whether edges may have an end of the given kind at a handle. -/
def Definition.has (d : Definition) (handle : String) : Edge.Side → Bool
  | .source => d.hasOutput handle
  | .target => d.hasInput handle

/-- The end names a handle, and the type of its node is registered but does not have it. -/
def Registry.Undeclared (r : Registry) (g : Graph) (e : Edge) (name : String) (side : Edge.Side) :
    Prop :=
  e.handle side = some name ∧
    ∃ n d, g.node? (e.node side) = some n ∧ r.get? n.type = some d ∧ d.has name side = false

instance (r : Registry) (g : Graph) (e : Edge) (name : String) (side : Edge.Side) :
    Decidable (r.Undeclared g e name side) :=
  decidable_of_iff (e.handle side = some name ∧
      ((g.node? (e.node side)).bind (r.get? ·.type)).any (!·.has name side) = true) <| by
    simp only [Registry.Undeclared, Option.any_eq_true, Option.bind_eq_some_iff, Bool.not_eq_true']
    refine and_congr_right fun _ => ⟨?_, ?_⟩
    · rintro ⟨d, ⟨n, hn, hd⟩, hhas⟩
      exact ⟨n, d, hn, hd, hhas⟩
    · rintro ⟨n, d, hn, hd, hhas⟩
      exact ⟨d, ⟨n, hn, hd⟩, hhas⟩

/-! ### Exact reports -/

/-- Whether an issue is about a type that is not registered. -/
def GraphIssue.isUnknownType : GraphIssue → Bool
  | .unknownNodeType _ _ => true
  | _ => false

/-- A report that says all that is wrong with a graph, and nothing else. -/
structure GraphReport.Exact (report : GraphReport) (r : Registry) (g : Graph) : Prop where
  /-- A node has an entry for its settings exactly if its type is registered. -/
  entries : report.nodes.keys.Perm ((g.nodes.filter (r.contains ·.type)).map (·.id))
  /-- The entry of a node is the report on its own settings. -/
  entry : ∀ n ∈ g.nodes, r.contains n.type = true → ∃ found,
    r.validateConfig n.type n.data.config = .ok found ∧ report.nodes.get? n.id = some found
  /-- Each of the other nodes gives an issue, in the order of the nodes. -/
  unknownTypes : report.issues.filter (·.isUnknownType) =
    (g.nodes.filter (!r.contains ·.type)).map fun n => .unknownNodeType n.id n.type
  noEntryPoint : .noEntryPoint ∈ report.issues ↔
    g.nodes ≠ [] ∧ ∀ n ∈ g.nodes, ∃ e ∈ g.edges, e.target = n.id
  /-- The nodes that are held back are those on a cycle and behind one, in the order of the nodes. -/
  blocked : ∀ ids, .blocked ids ∈ report.issues ↔ (∃ c, g.OnCycle c) ∧ ids.Sublist g.nodeIds ∧
    ∀ id, id ∈ ids ↔ ∃ c, g.OnCycle c ∧ ReflTransGen g.Leads c id
  disallowed : ∀ e ∈ g.edges, ∀ s t, .disallowedConnection e.id s t ∈ report.issues ↔
    g.type? e.source = some s ∧ g.type? e.target = some t ∧
      r.contains s = true ∧ r.contains t = true ∧ (s, t) ∉ r.allowed
  /-- A handle is found unknown once for each end at which it is. -/
  unknownHandle : ∀ e ∈ g.edges, ∀ name,
    report.issues.count (.unknownHandle e.id name) = Edge.Side.all.countP (r.Undeclared g e name ·)
  /-- Nothing is said of edges that the graph does not have. -/
  edges : ∀ issue ∈ report.issues, ∀ id, issue.edge? = some id → id ∈ g.edgeIds
  /-- Nothing else is said twice. -/
  once : ∀ issue, (∀ edge name, issue ≠ .unknownHandle edge name) → report.issues.count issue ≤ 1

namespace Registry
variable {r : Registry} {g : Graph} {e : Edge} {issue : GraphIssue}

/-! ### Nodes -/

theorem configReport?_isSome_iff (n : Node) :
    (r.configReport? n).isSome = true ↔ r.contains n.type = true := by
  rw [configReport?, Option.isSome_map, get?_isSome_iff]

theorem validateConfig_eq_ok_iff {n : Node} {found : ConfigReport} :
    r.validateConfig n.type n.data.config = .ok found ↔ r.configReport? n = some found := by
  unfold validateConfig configReport?
  cases r.get? n.type <;> simp

theorem get?_nodes (hg : g.WellFormed) (r : Registry) (id : String) :
    (r.validate g).nodes.get? id = (g.node? id).bind r.configReport? := by
  have hsame : ∀ n ∈ g.nodes, ∀ m ∈ g.nodes, n.id = m.id → r.configReport? n = r.configReport? m :=
    fun n hn m hm h => congrArg _ (List.inj_on_of_nodup_map hg.nodes_nodup hn hm h)
  rw [validate_eq]
  refine (KeyMap.get?_foldl_put Node.id hsame [] id).trans ?_
  rw [KeyMap.get?_nil, Option.or_none]
  rfl

theorem sorted_nodes (r : Registry) (g : Graph) : KeyMap.Sorted (r.validate g).nodes := by
  rw [validate_eq]
  exact KeyMap.Sorted.foldl_put List.Pairwise.nil Node.id r.configReport? g.nodes

theorem keys_nodes (hg : g.WellFormed) (r : Registry) :
    (r.validate g).nodes.keys.Perm ((g.nodes.filter (r.contains ·.type)).map (·.id)) := by
  have hids : ((g.nodes.filter (r.contains ·.type)).map (·.id)).Nodup :=
    (List.filter_sublist.map _).nodup hg.nodes_nodup
  have hkeys : (r.validate g).nodes.keys.Nodup := (sorted_nodes r g).nodup
  refine (List.perm_ext_iff_of_nodup hkeys hids).mpr fun id => ?_
  rw [KeyMap.mem_keys_iff, get?_nodes hg, Option.isSome_bind]
  simp only [List.mem_map, List.mem_filter, Option.any_eq_true, configReport?_isSome_iff,
    hg.node?_eq_some_iff]
  constructor
  · rintro ⟨n, ⟨hn, hid⟩, hknown⟩
    exact ⟨n, ⟨hn, hknown⟩, hid⟩
  · rintro ⟨n, ⟨hn, hknown⟩, hid⟩
    exact ⟨n, ⟨hn, hid⟩, hknown⟩

theorem typeIssues_eq (r : Registry) (nodes : List Node) : nodes.filterMap r.typeIssue? =
    (nodes.filter (!r.contains ·.type)).map fun n => .unknownNodeType n.id n.type := by
  induction nodes with
  | nil => rfl
  | cons n nodes ih =>
    rw [List.filterMap_cons, List.filter_cons, typeIssue?, ih]
    cases r.contains n.type <;> rfl

theorem isUnknownType_of_mem_typeIssues {nodes : List Node}
    (h : issue ∈ nodes.filterMap r.typeIssue?) : issue.isUnknownType = true := by
  obtain ⟨n, -, -, rfl⟩ := mem_typeIssues_iff.mp h
  rfl

theorem isUnknownType_of_mem_orderIssues (h : issue ∈ orderIssues g) :
    issue.isUnknownType = false := by
  obtain ⟨-, ⟨-, rfl⟩ | ⟨-, rfl⟩⟩ := mem_orderIssues_iff.mp h
  · rfl
  · rfl

theorem isUnknownType_of_edge? {id : String} (h : issue.edge? = some id) :
    issue.isUnknownType = false := by
  cases issue <;> first | rfl | cases h

theorem filter_isUnknownType (r : Registry) (g : Graph) :
    (r.validate g).issues.filter (·.isUnknownType) =
      (g.nodes.filter (!r.contains ·.type)).map fun n => .unknownNodeType n.id n.type := by
  have htypes : (g.nodes.filterMap r.typeIssue?).filter (·.isUnknownType) =
      g.nodes.filterMap r.typeIssue? :=
    List.filter_eq_self.mpr fun _ => isUnknownType_of_mem_typeIssues
  have hedges : (g.edges.flatMap (r.edgeIssuesIn g)).filter (·.isUnknownType) = [] := by
    refine List.filter_eq_nil_iff.mpr fun issue hissue => ?_
    obtain ⟨e, -, he⟩ := List.mem_flatMap.mp hissue
    simp [isUnknownType_of_edge? (edge?_of_mem_edgeIssuesIn he)]
  have horder : (orderIssues g).filter (·.isUnknownType) = [] :=
    List.filter_eq_nil_iff.mpr fun issue hissue => by
      simp [isUnknownType_of_mem_orderIssues hissue]
  rw [validate_eq, List.filter_append, List.filter_append, htypes, hedges, horder, typeIssues_eq,
    List.append_nil, List.append_nil]

/-! ### Edges -/

theorem disallowed_mem_validate_iff (hg : g.WellFormed) (he : e ∈ g.edges) (s t : String) :
    .disallowedConnection e.id s t ∈ (r.validate g).issues ↔
      g.type? e.source = some s ∧ g.type? e.target = some t ∧
        r.contains s = true ∧ r.contains t = true ∧ (s, t) ∉ r.allowed := by
  obtain ⟨n, m, hn, hm⟩ := node?_ends hg he
  have hsource : g.type? e.source = some n.type := Graph.type?_eq_some.mpr ⟨n, hn, rfl⟩
  have htarget : g.type? e.target = some m.type := Graph.type?_eq_some.mpr ⟨m, hm, rfl⟩
  rw [mem_issues_iff hg he rfl, edgeIssuesIn_eq hn hm, disallowed_mem_edgeIssues_iff, hsource,
    htarget]
  constructor
  · rintro ⟨rfl, rfl, hs, ht, hallowed⟩
    exact ⟨rfl, rfl, hs, ht, by simpa [canConnect, hs, ht] using hallowed⟩
  · rintro ⟨hs, ht, hsource, htarget, hallowed⟩
    obtain rfl := Option.some.inj hs
    obtain rfl := Option.some.inj ht
    exact ⟨rfl, rfl, hsource, htarget, by simpa [canConnect] using fun _ _ => hallowed⟩

theorem handleIssue_nodup (r : Registry) (edge type : String) (handle : Option String)
    (has : Definition → String → Bool) : (r.handleIssue edge type handle has).Nodup := by
  unfold handleIssue
  split
  · split <;> simp
  · exact List.nodup_nil

theorem undeclared_iff {side : Edge.Side} {n : Node} (hn : g.node? (e.node side) = some n)
    (name : String) : r.Undeclared g e name side ↔
      ∃ d, e.handle side = some name ∧ r.get? n.type = some d ∧ d.has name side = false := by
  constructor
  · rintro ⟨hname, m, d, hm, hd, hhas⟩
    obtain rfl := Option.some.inj (hn.symm.trans hm)
    exact ⟨d, hname, hd, hhas⟩
  · rintro ⟨d, hname, hd, hhas⟩
    exact ⟨hname, n, d, hn, hd, hhas⟩

/-- An end gives one issue if the handle that it names is not declared, or else none. -/
theorem count_handleIssue (r : Registry) (side : Edge.Side) {n : Node}
    (hn : g.node? (e.node side) = some n) (name : String) :
    (r.handleIssue e.id n.type (e.handle side) (Definition.has · · side)).count
      (.unknownHandle e.id name) = if r.Undeclared g e name side then 1 else 0 := by
  have hmem : .unknownHandle e.id name ∈
      r.handleIssue e.id n.type (e.handle side) (Definition.has · · side) ↔
        r.Undeclared g e name side := by
    rw [unknownHandle_mem_handleIssue_iff, undeclared_iff hn]
  by_cases h : r.Undeclared g e name side
  · rw [if_pos h]
    exact List.count_eq_one_of_mem (handleIssue_nodup ..) (hmem.mpr h)
  · rw [if_neg h]
    exact List.count_eq_zero.mpr (hmem.not.mpr h)

theorem count_unknownHandle (hg : g.WellFormed) (he : e ∈ g.edges) (name : String) :
    (r.validate g).issues.count (.unknownHandle e.id name) =
      Edge.Side.all.countP (r.Undeclared g e name ·) := by
  obtain ⟨n, m, hn, hm⟩ := node?_ends hg he
  have hsource : (r.handleIssue e.id n.type e.sourceHandle Definition.hasOutput).count
      (.unknownHandle e.id name) = if r.Undeclared g e name .source then 1 else 0 :=
    count_handleIssue r .source hn name
  have htarget : (r.handleIssue e.id m.type e.targetHandle Definition.hasInput).count
      (.unknownHandle e.id name) = if r.Undeclared g e name .target then 1 else 0 :=
    count_handleIssue r .target hm name
  have hdisallowed : ∀ s t, (if r.contains s && r.contains t && !r.canConnect s t
      then [GraphIssue.disallowedConnection e.id s t] else []).count (.unknownHandle e.id name) = 0 := by
    intro s t
    split <;> simp
  rw [count_issues hg he rfl, edgeIssuesIn_eq hn hm, edgeIssues, List.count_append,
    List.count_append, hdisallowed, hsource, htarget]
  simp only [Edge.Side.all, List.countP_cons, List.countP_nil, decide_eq_true_eq]
  omega

theorem mem_edgeIds_of_issue (h : issue ∈ (r.validate g).issues) {id : String}
    (hid : issue.edge? = some id) : id ∈ g.edgeIds := by
  rw [validate_eq, List.mem_append, List.mem_append] at h
  obtain (h | h) | h := h
  · cases (edge?_of_mem_typeIssues h).symm.trans hid
  · obtain ⟨f, hf, hissue⟩ := List.mem_flatMap.mp h
    obtain rfl := Option.some.inj ((edge?_of_mem_edgeIssuesIn hissue).symm.trans hid)
    exact List.mem_map_of_mem hf
  · cases (edge?_of_mem_orderIssues h).symm.trans hid

/-! ### The order -/

theorem blocked_exact (hg : g.Linked) (r : Registry) (ids : List String) :
    .blocked ids ∈ (r.validate g).issues ↔ (∃ c, g.OnCycle c) ∧ ids.Sublist g.nodeIds ∧
      ∀ id, id ∈ ids ↔ ∃ c, g.OnCycle c ∧ ReflTransGen g.Leads c id := by
  have hsublist : g.plan.blocked.Sublist g.nodeIds := by
    rw [Graph.plan_blocked hg]
    exact List.filter_sublist
  rw [blocked_mem_validate_iff r hg]
  constructor
  · rintro ⟨hids, rfl⟩
    refine ⟨?_, hsublist, Graph.mem_plan_blocked_iff hg⟩
    rw [ne_eq, Graph.plan_blocked_eq_nil_iff hg] at hids
    simpa using hids
  · rintro ⟨⟨c, hc⟩, hids, hmem⟩
    have hblocked : g.plan.blocked = ids :=
      hg.eq_of_sublist hsublist hids fun id => (Graph.mem_plan_blocked_iff hg id).trans (hmem id).symm
    exact ⟨List.ne_nil_of_mem ((hmem c).mpr ⟨c, hc, .refl⟩), hblocked⟩

/-! ### The whole report -/

theorem orderIssues_nodup (g : Graph) : (orderIssues g).Nodup := by
  simp only [orderIssues]
  split
  · exact List.nodup_nil
  · split <;> split <;> simp

theorem typeIssues_nodup (hg : g.WellFormed) (r : Registry) :
    (g.nodes.filterMap r.typeIssue?).Nodup := by
  rw [typeIssues_eq]
  refine List.Nodup.map_on (fun n hn m hm heq => ?_) (hg.nodes_nodup.of_map.filter _)
  exact List.inj_on_of_nodup_map hg.nodes_nodup (List.mem_of_mem_filter hn)
    (List.mem_of_mem_filter hm) (GraphIssue.unknownNodeType.inj heq).1

theorem count_disallowed_le (r : Registry) (g : Graph) (e : Edge) (s t : String) :
    (r.edgeIssuesIn g e).count (.disallowedConnection e.id s t) ≤ 1 := by
  have hhandle : ∀ type handle has,
      (r.handleIssue e.id type handle has).count (.disallowedConnection e.id s t) = 0 := by
    intro type handle has
    rw [List.count_eq_zero, mem_handleIssue_iff]
    rintro ⟨_, _, -, -, -, heq⟩
    cases heq
  unfold edgeIssuesIn
  split
  · rw [edgeIssues, List.count_append, List.count_append, hhandle, hhandle]
    split
    · exact List.count_le_length
    · exact Nat.zero_le 1
  · exact Nat.zero_le 1

/-- An issue is not repeated if it is about no handle. -/
theorem count_issues_le (hg : g.WellFormed) (r : Registry)
    (hissue : ∀ edge name, issue ≠ .unknownHandle edge name) :
    (r.validate g).issues.count issue ≤ 1 := by
  cases hid : issue.edge? with
  | some id =>
    cases issue with
    | disallowedConnection edge s t =>
      obtain rfl := Option.some.inj hid
      by_cases hedge : edge ∈ g.edgeIds
      · obtain ⟨e, he, rfl⟩ := List.mem_map.mp hedge
        rw [count_issues hg he rfl]
        exact r.count_disallowed_le g e s t
      · rw [List.count_eq_zero.mpr fun h => hedge (mem_edgeIds_of_issue h rfl)]
        exact Nat.zero_le 1
    | unknownHandle edge name => exact absurd rfl (hissue edge name)
    | unknownNodeType | noEntryPoint | blocked => cases hid
  | none =>
    have hedges : (g.edges.flatMap (r.edgeIssuesIn g)).count issue = 0 := by
      refine List.count_eq_zero.mpr fun hmem => ?_
      obtain ⟨e, -, he⟩ := List.mem_flatMap.mp hmem
      cases hid.symm.trans (edge?_of_mem_edgeIssuesIn he)
    have htypes := List.nodup_iff_count_le_one.mp (typeIssues_nodup hg r) issue
    have horder := List.nodup_iff_count_le_one.mp (orderIssues_nodup g) issue
    rw [validate_eq, List.count_append, List.count_append, hedges]
    -- an issue is about a type or about the order
    by_cases htype : issue.isUnknownType = true
    · have hnone : (orderIssues g).count issue = 0 := List.count_eq_zero.mpr fun h => by
        simp [isUnknownType_of_mem_orderIssues h] at htype
      omega
    · have hnone : (g.nodes.filterMap r.typeIssue?).count issue = 0 :=
        List.count_eq_zero.mpr fun h => htype (isUnknownType_of_mem_typeIssues h)
      omega

theorem validate_exact (hg : g.WellFormed) (r : Registry) : (r.validate g).Exact r g where
  entries := keys_nodes hg r
  entry n hn hknown := by
    obtain ⟨found, hfound⟩ := Option.isSome_iff_exists.mp ((configReport?_isSome_iff n).mpr hknown)
    refine ⟨found, validateConfig_eq_ok_iff.mpr hfound, ?_⟩
    rw [get?_nodes hg, hg.node?_eq_some_iff.mpr ⟨hn, rfl⟩]
    exact hfound
  unknownTypes := filter_isUnknownType r g
  noEntryPoint := noEntryPoint_mem_validate_iff hg.linked
  blocked := blocked_exact hg.linked r
  disallowed _ he := disallowed_mem_validate_iff hg he
  unknownHandle _ he := count_unknownHandle hg he
  edges _ h _ hid := mem_edgeIds_of_issue h hid
  once _ hissue := count_issues_le hg r hissue

end Registry
end WorkflowCanvas
