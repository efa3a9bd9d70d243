import WorkflowCanvas.Proofs.Order.Walk
import Mathlib.Data.Fintype.Card
import Mathlib.Data.Set.Finite.List
import Mathlib.Logic.Relation

/-! A plan lists every node once: those that no cycle holds back, each after all that lead to it,
and the others in insertion order. -/
namespace WorkflowCanvas.Graph
open Relation
variable {g : Graph} {order : List String}

/-- Some path of at least one edge leads from the node back to it. -/
def OnCycle (g : Graph) (id : String) : Prop := TransGen g.Leads id id

theorem Linked.mem_of_leads (hg : g.Linked) {a b : String} (h : g.Leads a b) :
    a ∈ g.nodeIds ∧ b ∈ g.nodeIds := by
  obtain ⟨e, he, rfl, rfl⟩ := h
  exact ⟨hg.source_mem e he, hg.target_mem e he⟩

theorem Linked.mem_of_onCycle (hg : g.Linked) {id : String} (h : g.OnCycle id) :
    id ∈ g.nodeIds := by
  obtain ⟨_, hlead, _⟩ := TransGen.head'_iff.mp h
  exact (hg.mem_of_leads hlead).1

theorem Linked.mem_of_reaches (hg : g.Linked) {a b : String} (h : ReflTransGen g.Leads a b)
    (ha : a ∈ g.nodeIds) : b ∈ g.nodeIds := by
  induction h with
  | refl => exact ha
  | tail _ hlead _ => exact (hg.mem_of_leads hlead).2

/-! ### Orders and cycles -/

theorem Ordered.idxOf_lt (ho : g.Ordered order) (hnd : order.Nodup) {a b : String}
    (hb : b ∈ order) (h : g.Leads a b) : a ∈ order ∧ order.idxOf a < order.idxOf b := by
  obtain ⟨before, after, rfl⟩ := List.append_of_mem hb
  have ha : a ∈ before := ho before b after rfl a h
  have hnew : b ∉ before := fun hmem => (List.nodup_append.mp hnd).2.2 b hmem b (by simp) rfl
  refine ⟨List.mem_append_left _ ha, ?_⟩
  have hlt : before.idxOf a < before.length := List.idxOf_lt_length_of_mem ha
  simpa [List.idxOf_append_of_mem ha, List.idxOf_append_of_notMem hnew] using hlt

theorem Ordered.idxOf_lt_of_path (ho : g.Ordered order) (hnd : order.Nodup) {a b : String}
    (h : TransGen g.Leads a b) (hb : b ∈ order) : a ∈ order ∧ order.idxOf a < order.idxOf b := by
  induction h with
  | single hlead => exact ho.idxOf_lt hnd hb hlead
  | tail _ hlead ih =>
    obtain ⟨hmem, hlt⟩ := ho.idxOf_lt hnd hb hlead
    exact ⟨(ih hmem).1, (ih hmem).2.trans hlt⟩

/-- No node of an order lies behind a cycle. -/
theorem Ordered.not_mem_of_cycle (ho : g.Ordered order) (hnd : order.Nodup) {c id : String}
    (hc : g.OnCycle c) (h : ReflTransGen g.Leads c id) : id ∉ order := by
  intro hid
  have hmem : c ∈ order := by
    obtain rfl | hpath := reflTransGen_iff_eq_or_transGen.mp h
    · exact hid
    · exact (ho.idxOf_lt_of_path hnd hpath hid).1
  exact Nat.lt_irrefl _ (ho.idxOf_lt_of_path hnd hc hmem).2

/-- Where no cycle lies behind a node, one can go back from it only so many times. -/
theorem Linked.upstream_wellFounded {id : String}
    (h : ∀ c, ReflTransGen g.Leads c id → ¬g.OnCycle c) :
    WellFounded fun a b : { x // x ∈ g.nodeIds ∧ ReflTransGen g.Leads x id } =>
      TransGen g.Leads a.1 b.1 := by
  have : Finite { x // x ∈ g.nodeIds ∧ ReflTransGen g.Leads x id } :=
    (g.nodeIds.finite_toSet.subset fun _ hx => hx.1).to_subtype
  have : IsTrans { x // x ∈ g.nodeIds ∧ ReflTransGen g.Leads x id }
      fun a b => TransGen g.Leads a.1 b.1 := ⟨fun _ _ _ => TransGen.trans⟩
  have : Std.Irrefl fun a b : { x // x ∈ g.nodeIds ∧ ReflTransGen g.Leads x id } =>
      TransGen g.Leads a.1 b.1 := ⟨fun a => h a.1 a.2.2⟩
  exact Finite.wellFounded_of_trans_of_irrefl _

/-! ### The plan -/

theorem plan_order_nodup (hg : g.Linked) : g.plan.order.Nodup :=
  (List.nodup_append.mp (Walk.after_sound hg g.nodes.length).nodup).1

theorem plan_ordered (hg : g.Linked) : g.Ordered g.plan.order :=
  Walk.after_ordered hg g.nodes.length

/-- A node is in the order if no edge into it comes from outside. -/
theorem mem_plan_order_iff (hg : g.Linked) (id : String) :
    id ∈ g.plan.order ↔ id ∈ g.nodeIds ∧ ∀ other, g.Leads other id → other ∈ g.plan.order := by
  have h := (Walk.after_sound hg g.nodes.length).released id
  rw [show (Walk.after g g.nodes.length).queue = [] from Walk.finish_queue hg, List.append_nil] at h
  rw [show g.plan.order = (Walk.after g g.nodes.length).order from rfl, h]
  refine and_congr_right fun _ => ⟨?_, ?_⟩
  · rintro hfree other ⟨e, he, rfl, htarget⟩
    by_contra hother
    exact hfree e (by simp [Walk.ahead, he, hother]) htarget
  · rintro hall e he htarget
    simp only [Walk.ahead, List.mem_filter, decide_eq_true_eq] at he
    exact he.2 (hall e.source ⟨e, he.1, rfl, htarget⟩)

/-- The order is empty exactly if every node is entered by some edge. -/
theorem plan_order_eq_nil_iff (hg : g.Linked) :
    g.plan.order = [] ↔ ∀ n ∈ g.nodes, ∃ e ∈ g.edges, e.target = n.id := by
  constructor
  · intro hnil n hn
    by_contra hnone
    have hmem : n.id ∈ g.plan.order := by
      refine (mem_plan_order_iff hg n.id).mpr ⟨List.mem_map_of_mem hn, fun other hlead => ?_⟩
      obtain ⟨e, he, -, htarget⟩ := hlead
      exact absurd ⟨e, he, htarget⟩ hnone
    simp [hnil] at hmem
  · intro hall
    cases horder : g.plan.order with
    | nil => rfl
    | cons id order =>
      have hid : id ∈ g.plan.order := by simp [horder]
      obtain ⟨n, hn, rfl⟩ := List.mem_map.mp ((mem_plan_order_iff hg id).mp hid).1
      obtain ⟨e, he, htarget⟩ := hall n hn
      cases plan_ordered hg [] n.id order horder e.source ⟨e, he, rfl, htarget⟩

/-- The blocked nodes are those that the order leaves out. -/
theorem plan_blocked (hg : g.Linked) :
    g.plan.blocked = g.nodeIds.filter (· ∉ g.plan.order) := by
  have h := Walk.after_sound hg g.nodes.length
  have hq : (Walk.after g g.nodes.length).queue = [] := Walk.finish_queue hg
  have hblocked : g.plan.blocked =
      ((Walk.after g g.nodes.length).waiting.filter (·.2 > 0)).map (·.1) := rfl
  have hcount : ∀ id ∈ g.nodeIds,
      (0 < ((Walk.after g g.nodes.length).ahead g).countP (·.target == id) ↔
        id ∉ g.plan.order) := by
    intro id hid
    have hmem := h.released id
    rw [hq, List.append_nil] at hmem
    rw [show g.plan.order = (Walk.after g g.nodes.length).order from rfl, hmem]
    simp [hid, List.countP_pos_iff]
  rw [hblocked, h.waiting, List.filter_map, List.map_map]
  simp only [Function.comp_def, List.map_id']
  refine List.filter_congr fun id hid => ?_
  simp [hcount id hid]

theorem mem_plan_blocked_iff (hg : g.Linked) (id : String) :
    id ∈ g.plan.blocked ↔ ∃ c, g.OnCycle c ∧ ReflTransGen g.Leads c id := by
  rw [plan_blocked hg, List.mem_filter, decide_eq_true_eq]
  constructor
  · rintro ⟨hid, hout⟩
    by_contra hnone
    have hfree : ∀ c, ReflTransGen g.Leads c id → ¬g.OnCycle c :=
      fun c hreach hc => hnone ⟨c, hc, hreach⟩
    -- Going back from the node, every node upstream is in the order, and so is the node itself.
    have hall : ∀ x : { x // x ∈ g.nodeIds ∧ ReflTransGen g.Leads x id }, x.1 ∈ g.plan.order := by
      intro x
      induction x using (Linked.upstream_wellFounded hfree).induction with
      | _ x ih =>
        refine (mem_plan_order_iff hg x.1).mpr ⟨x.2.1, fun other hlead => ?_⟩
        exact ih ⟨other, (hg.mem_of_leads hlead).1, .head hlead x.2.2⟩ (.single hlead)
    exact hout (hall ⟨id, hid, .refl⟩)
  · rintro ⟨c, hc, hreach⟩
    exact ⟨hg.mem_of_reaches hreach (hg.mem_of_onCycle hc),
      (plan_ordered hg).not_mem_of_cycle (plan_order_nodup hg) hc hreach⟩

theorem plan_perm (hg : g.Linked) : (g.plan.order ++ g.plan.blocked).Perm g.nodeIds := by
  have hsub : g.plan.order ⊆ g.nodeIds := fun id hid => ((mem_plan_order_iff hg id).mp hid).1
  rw [plan_blocked hg]
  refine (List.perm_ext_iff_of_nodup ?_ hg.nodes_nodup).mpr fun id => ?_
  · refine List.nodup_append.mpr ⟨plan_order_nodup hg, hg.nodes_nodup.filter _, ?_⟩
    rintro a ha b hb rfl
    simp [ha] at hb
  · by_cases hid : id ∈ g.plan.order
    · simp [hid, hsub hid]
    · simp [hid]

theorem plan_blocked_eq_nil_iff (hg : g.Linked) : g.plan.blocked = [] ↔ ∀ c, ¬g.OnCycle c := by
  rw [List.eq_nil_iff_forall_not_mem]
  constructor
  · intro h c hc
    exact h c ((mem_plan_blocked_iff hg c).mpr ⟨c, hc, .refl⟩)
  · intro h id hid
    obtain ⟨c, hc, _⟩ := (mem_plan_blocked_iff hg id).mp hid
    exact h c hc

/-- Order and blocked nodes are all nodes, each once. The blocked ones, in insertion order, are
those on a cycle or behind one; every other node comes after all that lead to it. Without cycles
the order holds all nodes. -/
theorem plan_order_and_blocked (hg : g.Linked) :
    (g.plan.order ++ g.plan.blocked).Perm g.nodeIds ∧
    (∀ id, id ∈ g.plan.blocked ↔ ∃ c, g.OnCycle c ∧ ReflTransGen g.Leads c id) ∧
    g.Ordered g.plan.order ∧
    ((∀ c, ¬g.OnCycle c) → g.plan.blocked = [] ∧ g.plan.order.Perm g.nodeIds) ∧
    g.plan.blocked.Sublist g.nodeIds := by
  refine ⟨plan_perm hg, mem_plan_blocked_iff hg, plan_ordered hg, fun hacyclic => ?_, ?_⟩
  · have hnil := (plan_blocked_eq_nil_iff hg).mpr hacyclic
    exact ⟨hnil, by simpa [hnil] using plan_perm hg⟩
  · rw [plan_blocked hg]
    exact List.filter_sublist

/-- A node placed before its source, two edges side by side, and a loop with a node behind it. -/
def tangled : Graph where
  nodes := [.fresh "late" "action", .fresh "root" "trigger", .fresh "loop" "action",
    .fresh "behind" "action"]
  edges := [⟨"a", "root", "late", none, none, false⟩, ⟨"b", "root", "late", none, none, false⟩,
    ⟨"c", "loop", "loop", none, none, false⟩, ⟨"d", "loop", "behind", none, none, false⟩,
    ⟨"e", "root", "behind", none, none, false⟩]

theorem plan_order_and_blocked_tangled :
    tangled.Linked ∧
    tangled.plan.order = ["root", "late"] ∧ tangled.plan.blocked = ["loop", "behind"] ∧
    (tangled.plan.order ++ tangled.plan.blocked).Perm tangled.nodeIds ∧
    (∀ id, id ∈ tangled.plan.blocked ↔
      ∃ c, tangled.OnCycle c ∧ ReflTransGen tangled.Leads c id) ∧
    tangled.Ordered tangled.plan.order ∧
    ((∀ c, ¬tangled.OnCycle c) →
      tangled.plan.blocked = [] ∧ tangled.plan.order.Perm tangled.nodeIds) ∧
    tangled.plan.blocked.Sublist tangled.nodeIds :=
  ⟨⟨by decide, by decide, by decide⟩, by decide, by decide,
    plan_order_and_blocked ⟨by decide, by decide, by decide⟩⟩

end WorkflowCanvas.Graph
