import WorkflowCanvas.Proofs.Canvas.Connect
import WorkflowCanvas.Proofs.Validation.Graph

/-! Connections are judged twice: before they are made, and in the report on the graph that they are
part of. The two agree but for loops, for types that are not registered, and for types without
outputs or inputs, of which the report says nothing. -/
namespace WorkflowCanvas

namespace Registry
variable {r : Registry} {source target : String} {sh th : Option String}

theorem filter_eq_none_iff {has : String → Bool} :
    sh.filter (!has ·) = none ↔ ∀ handle, sh = some handle → has handle = true := by
  cases sh <;> simp

/-- Types between which there is no fault are registered and may be connected, have outputs and inputs,
and have the handles that are named. -/
theorem connectionFault?_eq_none_iff : r.connectionFault? source target sh th = none ↔
    r.canConnect source target = true ∧ ∃ s t, r.get? source = some s ∧ r.get? target = some t ∧
      s.outputs ≠ [] ∧ t.inputs ≠ [] ∧ (∀ handle, sh = some handle → s.hasOutput handle = true) ∧
      ∀ handle, th = some handle → t.hasInput handle = true := by
  unfold connectionFault?
  cases r.canConnect source target with
  | false => simp
  | true =>
  cases r.get? source with
  | none => simp
  | some s =>
  cases r.get? target with
  | none => simp
  | some t =>
    simp only [List.isEmpty_iff, Option.some.injEq, exists_and_left, exists_eq_left', true_and,
      ← filter_eq_none_iff]
    generalize sh.filter (!s.hasOutput ·) = unknownOutput
    generalize th.filter (!t.hasInput ·) = unknownInput
    by_cases houtputs : s.outputs = []
    · simp [houtputs]
    · by_cases hinputs : t.inputs = []
      · simp [houtputs, hinputs]
      · cases unknownOutput <;> cases unknownInput <;> simp [houtputs, hinputs]

/-! ### Edges without issues -/

variable {g : Graph} {e : Edge}

theorem handleIssue_eq_nil_iff {edge type : String} {handle : Option String}
    {has : Definition → String → Bool} {d : Definition} (hd : r.get? type = some d) :
    r.handleIssue edge type handle has = [] ↔ ∀ name, handle = some name → has d name = true := by
  cases handle with
  | none => simp [handleIssue]
  | some name => cases hhas : has d name <;> simp [handleIssue, hd, hhas]

/-- Between registered types there is no fault exactly if the edge has no issue, something can leave
the one and something can enter the other. -/
theorem connectionFault?_eq_none_iff_edgeIssues {s t : Definition} (hs : r.get? source = some s)
    (ht : r.get? target = some t) :
    r.connectionFault? source target e.sourceHandle e.targetHandle = none ↔
      r.edgeIssues e source target = [] ∧ s.outputs ≠ [] ∧ t.inputs ≠ [] := by
  have hsource : r.contains source = true := (r.get?_isSome_iff source).mp (hs ▸ rfl)
  have htarget : r.contains target = true := (r.get?_isSome_iff target).mp (ht ▸ rfl)
  have hallowed : (if r.contains source && r.contains target && !r.canConnect source target
      then [GraphIssue.disallowedConnection e.id source target] else []) = [] ↔
        r.canConnect source target = true := by
    cases r.canConnect source target <;> simp [hsource, htarget]
  rw [edgeIssues, List.append_eq_nil_iff, List.append_eq_nil_iff, hallowed,
    handleIssue_eq_nil_iff hs, handleIssue_eq_nil_iff ht, connectionFault?_eq_none_iff, hs, ht]
  simp only [Option.some.injEq, exists_and_left, exists_eq_left']
  tauto

theorem edgeIssuesIn_eq_nil_iff (hg : g.WellFormed) (he : e ∈ g.edges) : r.edgeIssuesIn g e = [] ↔
    (∀ s t, .disallowedConnection e.id s t ∉ (r.validate g).issues) ∧
      ∀ name, .unknownHandle e.id name ∉ (r.validate g).issues := by
  constructor
  · intro hnil
    refine ⟨fun s t hmem => ?_, fun name hmem => ?_⟩
    · exact List.not_mem_nil (hnil ▸ (mem_issues_iff hg he rfl).mp hmem)
    · exact List.not_mem_nil (hnil ▸ (mem_issues_iff hg he rfl).mp hmem)
  · rintro ⟨hdisallowed, hunknown⟩
    refine List.eq_nil_iff_forall_not_mem.mpr fun issue hissue => ?_
    have hid := edge?_of_mem_edgeIssuesIn hissue
    have hmem := (mem_issues_iff hg he hid).mpr hissue
    cases issue with
    | disallowedConnection edge s t =>
      obtain rfl := Option.some.inj hid
      exact hdisallowed s t hmem
    | unknownHandle edge name =>
      obtain rfl := Option.some.inj hid
      exact hunknown name hmem
    | unknownNodeType | noEntryPoint | blocked => cases hid

end Registry

/-- An edge would be accepted as a connection exactly if it is no loop, the types of its ends are
registered, the report on the graph says neither that it is not allowed nor that a handle of it is
unknown, the type of its source has outputs and that of its target has inputs. -/
theorem Canvas.checkConnection_ok_iff_report {c : Canvas} (hc : c.graph.WellFormed) {e : Edge}
    (he : e ∈ c.graph.edges) : c.checkConnection e.connection = .ok () ↔
      e.source ≠ e.target ∧
      (∀ s t, .disallowedConnection e.id s t ∉ c.validate.issues) ∧
      (∀ name, .unknownHandle e.id name ∉ c.validate.issues) ∧
      ∃ n m s t, c.graph.node? e.source = some n ∧ c.graph.node? e.target = some m ∧
        c.registry.get? n.type = some s ∧ c.registry.get? m.type = some t ∧
        s.outputs ≠ [] ∧ t.inputs ≠ [] := by
  obtain ⟨n, m, hn, hm⟩ := Registry.node?_ends hc he
  have hissues := Registry.edgeIssuesIn_eq_nil_iff (r := c.registry) hc he
  rw [Registry.edgeIssuesIn_eq hn hm] at hissues
  have hids : n.id ≠ m.id ↔ e.source ≠ e.target := by
    rw [(Graph.node?_eq_some hn).2, (Graph.node?_eq_some hm).2]
  rw [checkConnection_eq_ok_iff]
  constructor
  · rintro ⟨n', m', hn', hm', hne, hfault⟩
    obtain rfl := Option.some.inj (hn.symm.trans hn')
    obtain rfl := Option.some.inj (hm.symm.trans hm')
    obtain ⟨-, s, t, hs, ht, -⟩ := Registry.connectionFault?_eq_none_iff.mp hfault
    obtain ⟨hnil, hends⟩ := (Registry.connectionFault?_eq_none_iff_edgeIssues hs ht).mp hfault
    obtain ⟨hdisallowed, hunknown⟩ := hissues.mp hnil
    exact ⟨hids.mp hne, hdisallowed, hunknown, n, m, s, t, hn, hm, hs, ht, hends⟩
  · rintro ⟨hne, hdisallowed, hunknown, n', m', s, t, hn', hm', hs, ht, hends⟩
    obtain rfl := Option.some.inj (hn.symm.trans hn')
    obtain rfl := Option.some.inj (hm.symm.trans hm')
    have hnil := hissues.mpr ⟨hdisallowed, hunknown⟩
    exact ⟨n, m, hn, hm, hids.mpr hne,
      (Registry.connectionFault?_eq_none_iff_edgeIssues hs ht).mpr ⟨hnil, hends⟩⟩

/-- An edge that is allowed, one that leads back to its source, and one into a type without inputs. -/
def sealed : Canvas where
  registry :=
    { definitions :=
        [{ type := "step", label := "Step", category := "steps" },
          { type := "start", label := "Start", category := "steps", inputs := [] }]
      allowed := [("step", "step"), ("step", "start")] }
  graph :=
    { nodes := [.fresh "a" "step", .fresh "b" "step", .fresh "c" "start"]
      edges := [⟨"on", "a", "b", some "out", some "in", false⟩, ⟨"round", "b", "b", none, none, false⟩,
        ⟨"back", "a", "c", none, none, false⟩] }

theorem Canvas.checkConnection_ok_iff_report_sealed : sealed.graph.WellFormed ∧
    sealed.validate.issues = [.blocked ["b"]] ∧
    sealed.checkConnection ⟨"a", "b", some "out", some "in"⟩ = .ok () ∧
    sealed.checkConnection ⟨"b", "b", none, none⟩ ≠ .ok () ∧
    sealed.checkConnection ⟨"a", "c", none, none⟩ ≠ .ok () := by
  have hg : sealed.graph.WellFormed := ⟨by decide, by decide, by decide, by decide⟩
  have hissues : sealed.validate.issues = [.blocked ["b"]] := by decide +kernel
  have hon : ⟨"on", "a", "b", some "out", some "in", false⟩ ∈ sealed.graph.edges := by decide
  have hround : ⟨"round", "b", "b", none, none, false⟩ ∈ sealed.graph.edges := by decide
  have hback : ⟨"back", "a", "c", none, none, false⟩ ∈ sealed.graph.edges := by decide
  refine ⟨hg, hissues, ?_, ?_, ?_⟩
  · refine (checkConnection_ok_iff_report hg hon).mpr
      ⟨by decide, by simp [hissues], by simp [hissues], ?_⟩
    exact ⟨_, _, _, _, rfl, rfl, rfl, rfl, by decide, by decide⟩
  · intro hok
    obtain ⟨hloop, -⟩ := (checkConnection_ok_iff_report hg hround).mp hok
    exact hloop rfl
  · intro hok
    obtain ⟨-, -, -, _, _, _, _, -, hm, -, ht, -, hinputs⟩ :=
      (checkConnection_ok_iff_report hg hback).mp hok
    obtain rfl := Option.some.inj hm
    obtain rfl := Option.some.inj ht
    exact hinputs rfl

end WorkflowCanvas
