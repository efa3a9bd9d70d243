import WorkflowCanvas.Proofs.Graph.Editing
import WorkflowCanvas.Proofs.Order.Plan
import WorkflowCanvas.Validation.Graph

/-! The report on a graph. Its issues are those of the nodes, of the edges and of the order, one after
the other. Those of an edge can be told by its id and come from its ends; those of the order come from
what the plan leaves out. -/
namespace WorkflowCanvas

theorem Registry.get?_isSome_iff (r : Registry) (type : String) :
    (r.get? type).isSome = true ↔ r.contains type = true := by
  simp [get?, contains]

/-! ### The issues of an edge -/

/-- The edge that an issue is about. -/
def GraphIssue.edge? : GraphIssue → Option String
  | .disallowedConnection edge _ _ => some edge
  | .unknownHandle edge _ => some edge
  | _ => none

namespace Registry
variable {r : Registry} {g : Graph} {e : Edge} {issue : GraphIssue} {s t : String}

theorem mem_handleIssue_iff {edge type : String} {handle : Option String}
    {has : Definition → String → Bool} : issue ∈ r.handleIssue edge type handle has ↔
      ∃ name d, handle = some name ∧ r.get? type = some d ∧ has d name = false ∧
        issue = .unknownHandle edge name := by
  unfold handleIssue
  cases handle with
  | none => simp
  | some name =>
    cases r.get? type with
    | none => simp
    | some d => cases hhas : has d name <;> simp [hhas]

theorem mem_edgeIssues_iff : issue ∈ r.edgeIssues e s t ↔
    (r.contains s = true ∧ r.contains t = true ∧ r.canConnect s t = false ∧
      issue = .disallowedConnection e.id s t) ∨
    issue ∈ r.handleIssue e.id s e.sourceHandle Definition.hasOutput ∨
    issue ∈ r.handleIssue e.id t e.targetHandle Definition.hasInput := by
  rw [edgeIssues, List.mem_append, List.mem_append, or_assoc]
  refine or_congr_left ?_
  cases r.contains s <;> cases r.contains t <;> cases r.canConnect s t <;> simp

theorem edge?_of_mem_edgeIssuesIn (h : issue ∈ r.edgeIssuesIn g e) : issue.edge? = some e.id := by
  unfold edgeIssuesIn at h
  split at h
  · obtain ⟨-, -, -, rfl⟩ | h | h := mem_edgeIssues_iff.mp h
    · rfl
    · obtain ⟨_, _, -, -, -, rfl⟩ := mem_handleIssue_iff.mp h
      rfl
    · obtain ⟨_, _, -, -, -, rfl⟩ := mem_handleIssue_iff.mp h
      rfl
  · cases h

/-! ### The issues of a graph -/

/-- The issue of a node whose type is not registered. -/
def typeIssue? (r : Registry) (n : Node) : Option GraphIssue :=
  if r.contains n.type then none else some (.unknownNodeType n.id n.type)

/-- The report on the settings of a node, if its type is registered. -/
def configReport? (r : Registry) (n : Node) : Option ConfigReport :=
  (r.get? n.type).map (·.validate n.data.config)

theorem nodeReports_eq (r : Registry) (nodes : List Node) (report : GraphReport) :
    nodes.foldl r.nodeReport report =
      ⟨nodes.foldl (fun m n => m.put n.id (r.configReport? n)) report.nodes,
        report.issues ++ nodes.filterMap r.typeIssue?⟩ := by
  induction nodes generalizing report with
  | nil => simp
  | cons n nodes ih =>
    have hcontains := r.get?_isSome_iff n.type
    rw [List.foldl_cons, ih, List.foldl_cons, List.filterMap_cons, nodeReport, validateConfig,
      configReport?, typeIssue?]
    cases hd : r.get? n.type with
    | none =>
      have hunknown : ¬r.contains n.type = true := by simp [← hcontains, hd]
      rw [if_neg hunknown]
      simp [KeyMap.put]
    | some d =>
      have hknown : r.contains n.type = true := by simp [← hcontains, hd]
      rw [if_pos hknown]
      rfl

theorem validate_eq (r : Registry) (g : Graph) : r.validate g =
    ⟨g.nodes.foldl (fun m n => m.put n.id (r.configReport? n)) [],
      g.nodes.filterMap r.typeIssue? ++ g.edges.flatMap (r.edgeIssuesIn g) ++ orderIssues g⟩ := by
  rw [validate, nodeReports_eq]
  rfl

theorem mem_typeIssues_iff {nodes : List Node} : issue ∈ nodes.filterMap r.typeIssue? ↔
    ∃ n ∈ nodes, r.contains n.type = false ∧ issue = .unknownNodeType n.id n.type := by
  rw [List.mem_filterMap]
  refine exists_congr fun n => and_congr_right fun _ => ?_
  unfold typeIssue?
  cases r.contains n.type with
  | true => simp
  | false => simpa using eq_comm

theorem edge?_of_mem_typeIssues {nodes : List Node} (h : issue ∈ nodes.filterMap r.typeIssue?) :
    issue.edge? = none := by
  obtain ⟨n, -, -, rfl⟩ := mem_typeIssues_iff.mp h
  rfl

/-- A graph with nodes may lack a node to start from, and may have nodes that are held back. -/
theorem mem_orderIssues_iff : issue ∈ orderIssues g ↔ g.nodes ≠ [] ∧
    (g.plan.order = [] ∧ issue = .noEntryPoint ∨
      g.plan.blocked ≠ [] ∧ issue = .blocked g.plan.blocked) := by
  unfold orderIssues
  by_cases hnodes : g.nodes = []
  · simp [Graph.isEmpty, hnodes]
  · by_cases horder : g.plan.order = [] <;> by_cases hblocked : g.plan.blocked = [] <;>
      simp [Graph.isEmpty, hnodes, horder, hblocked]

theorem edge?_of_mem_orderIssues (h : issue ∈ orderIssues g) : issue.edge? = none := by
  obtain ⟨-, ⟨-, rfl⟩ | ⟨-, rfl⟩⟩ := mem_orderIssues_iff.mp h
  · rfl
  · rfl

theorem filter_edge?_eq_nil {issues : List GraphIssue} {id : String}
    (h : ∀ issue ∈ issues, issue.edge? ≠ some id) : issues.filter (·.edge? == some id) = [] :=
  List.filter_eq_nil_iff.mpr fun issue hissue => by simpa using h issue hissue

theorem filter_edgeIssues {edges : List Edge} (hedges : (edges.map (·.id)).Nodup) (he : e ∈ edges) :
    (edges.flatMap (r.edgeIssuesIn g)).filter (·.edge? == some e.id) = r.edgeIssuesIn g e := by
  induction edges with
  | nil => cases he
  | cons f edges ih =>
    obtain ⟨hnew, hnodup⟩ := List.nodup_cons.mp hedges
    rw [List.flatMap_cons, List.filter_append]
    cases List.mem_cons.mp he with
    | inl heq =>
      have hown : (r.edgeIssuesIn g e).filter (·.edge? == some e.id) = r.edgeIssuesIn g e :=
        List.filter_eq_self.mpr fun issue hissue => by simp [edge?_of_mem_edgeIssuesIn hissue]
      rw [← heq, hown, filter_edge?_eq_nil, List.append_nil]
      intro issue hissue hid
      obtain ⟨other, hother, hissue⟩ := List.mem_flatMap.mp hissue
      rw [edge?_of_mem_edgeIssuesIn hissue, heq] at hid
      exact hnew (List.mem_map.mpr ⟨other, hother, Option.some.inj hid⟩)
    | inr hmem =>
      rw [ih hnodup hmem, filter_edge?_eq_nil, List.nil_append]
      intro issue hissue hid
      rw [edge?_of_mem_edgeIssuesIn hissue] at hid
      exact hnew (List.mem_map.mpr ⟨e, hmem, (Option.some.inj hid).symm⟩)

/-- The issues that have the id of an edge are those of the edge. -/
theorem filter_issues (hg : g.WellFormed) (he : e ∈ g.edges) :
    (r.validate g).issues.filter (·.edge? == some e.id) = r.edgeIssuesIn g e := by
  have htypes : (g.nodes.filterMap r.typeIssue?).filter (·.edge? == some e.id) = [] :=
    filter_edge?_eq_nil fun issue hissue => by simp [edge?_of_mem_typeIssues hissue]
  have horder : (orderIssues g).filter (·.edge? == some e.id) = [] :=
    filter_edge?_eq_nil fun issue hissue => by simp [edge?_of_mem_orderIssues hissue]
  rw [validate_eq, List.filter_append, List.filter_append, htypes, horder,
    filter_edgeIssues hg.edges_nodup he, List.nil_append, List.append_nil]

theorem mem_issues_iff (hg : g.WellFormed) (he : e ∈ g.edges) (hissue : issue.edge? = some e.id) :
    issue ∈ (r.validate g).issues ↔ issue ∈ r.edgeIssuesIn g e := by
  rw [← filter_issues hg he, List.mem_filter, hissue]
  simp

theorem count_issues (hg : g.WellFormed) (he : e ∈ g.edges) (hissue : issue.edge? = some e.id) :
    (r.validate g).issues.count issue = (r.edgeIssuesIn g e).count issue := by
  rw [← filter_issues hg he, List.count_filter (by simp [hissue])]

/-! ### The two ends -/

theorem node?_ends (hg : g.WellFormed) (he : e ∈ g.edges) :
    ∃ n m, g.node? e.source = some n ∧ g.node? e.target = some m := by
  obtain ⟨n, hn, hsource⟩ := List.mem_map.mp (hg.source_mem e he)
  obtain ⟨m, hm, htarget⟩ := List.mem_map.mp (hg.target_mem e he)
  exact ⟨n, m, hg.node?_eq_some_iff.mpr ⟨hn, hsource⟩, hg.node?_eq_some_iff.mpr ⟨hm, htarget⟩⟩

theorem edgeIssuesIn_eq {n m : Node} (hn : g.node? e.source = some n)
    (hm : g.node? e.target = some m) : r.edgeIssuesIn g e = r.edgeIssues e n.type m.type := by
  simp only [edgeIssuesIn, hn, hm]

theorem disallowed_mem_edgeIssues_iff {source target : String} :
    .disallowedConnection e.id source target ∈ r.edgeIssues e s t ↔ source = s ∧ target = t ∧
      r.contains s = true ∧ r.contains t = true ∧ r.canConnect s t = false := by
  simp only [mem_edgeIssues_iff, mem_handleIssue_iff, GraphIssue.disallowedConnection.injEq,
    reduceCtorEq, and_false, exists_false, or_false, true_and]
  constructor
  · rintro ⟨hs, ht, hallowed, rfl, rfl⟩
    exact ⟨rfl, rfl, hs, ht, hallowed⟩
  · rintro ⟨rfl, rfl, hs, ht, hallowed⟩
    exact ⟨hs, ht, hallowed, rfl, rfl⟩

theorem unknownHandle_mem_handleIssue_iff {edge type name : String} {handle : Option String}
    {has : Definition → String → Bool} :
    .unknownHandle edge name ∈ r.handleIssue edge type handle has ↔
      ∃ d, handle = some name ∧ r.get? type = some d ∧ has d name = false := by
  rw [mem_handleIssue_iff]
  constructor
  · rintro ⟨_, d, hname, hd, hhas, heq⟩
    obtain ⟨-, rfl⟩ := GraphIssue.unknownHandle.inj heq
    exact ⟨d, hname, hd, hhas⟩
  · rintro ⟨d, hname, hd, hhas⟩
    exact ⟨name, d, hname, hd, hhas, rfl⟩

/-! ### The order -/

/-- What belongs neither to a node nor to an edge belongs to the order. -/
theorem mem_issues_iff_order (hissue : issue = .noEntryPoint ∨ ∃ ids, issue = .blocked ids) :
    issue ∈ (r.validate g).issues ↔ issue ∈ orderIssues g := by
  have htypes : issue ∉ g.nodes.filterMap r.typeIssue? := by
    intro hmem
    obtain ⟨n, -, -, rfl⟩ := mem_typeIssues_iff.mp hmem
    simp at hissue
  have hedges : issue ∉ g.edges.flatMap (r.edgeIssuesIn g) := by
    intro hmem
    obtain ⟨e, -, he⟩ := List.mem_flatMap.mp hmem
    have hid := edge?_of_mem_edgeIssuesIn he
    obtain rfl | ⟨ids, rfl⟩ := hissue <;> cases hid
  simp [validate_eq, htypes, hedges]

theorem noEntryPoint_mem_validate_iff (hg : g.Linked) :
    .noEntryPoint ∈ (r.validate g).issues ↔
      g.nodes ≠ [] ∧ ∀ n ∈ g.nodes, ∃ e ∈ g.edges, e.target = n.id := by
  rw [mem_issues_iff_order (.inl rfl), mem_orderIssues_iff, ← Graph.plan_order_eq_nil_iff hg]
  simp

/-- Validation reports the blocked nodes, if there are any, and no others. -/
theorem blocked_mem_validate_iff (r : Registry) (hg : g.Linked) {ids : List String} :
    .blocked ids ∈ (r.validate g).issues ↔ ids ≠ [] ∧ g.plan.blocked = ids := by
  have hempty : g.plan.blocked ≠ [] → g.nodes ≠ [] := by
    intro hblocked hnodes
    refine hblocked (List.eq_nil_iff_forall_not_mem.mpr fun id hid => ?_)
    have hmem := (Graph.plan_perm hg).subset (List.mem_append_right _ hid)
    simp [Graph.nodeIds, hnodes] at hmem
  rw [mem_issues_iff_order (.inr ⟨ids, rfl⟩), mem_orderIssues_iff]
  simp only [reduceCtorEq, and_false, false_or, GraphIssue.blocked.injEq]
  constructor
  · rintro ⟨-, hblocked, rfl⟩
    exact ⟨hblocked, rfl⟩
  · rintro ⟨hblocked, rfl⟩
    exact ⟨hempty hblocked, hblocked, rfl⟩

end Registry
end WorkflowCanvas
