import WorkflowCanvas.Proofs.Order.Plan
import Mathlib.Data.Prod.Lex

/-! The order of a plan follows from the order of insertion. First come the nodes that no edge
enters. Every other node is released by the last edge into it that the walk passes: edges are passed
in the order of their sources, and those with one source in the order of the edges. -/
namespace WorkflowCanvas

namespace Graph
variable {g : Graph}

/-- The nodes that no edge enters, in insertion order. -/
def roots (g : Graph) : List String := g.nodeIds.filter fun id => (g.incoming id).isEmpty

/-- The place in the order of the last of the nodes that lead to a node. -/
def lastPlace (g : Graph) (id : String) : Nat :=
  ((g.incoming id).map fun e => g.plan.order.idxOf e.source).max?.getD 0

/-- When a node is released: the place of the last node that leads to it, and the place among the
edges of the last edge from there. -/
def release (g : Graph) (id : String) : Nat ×ₗ Nat :=
  let last := (g.incoming id).filter fun e => g.plan.order.idxOf e.source = g.lastPlace id
  toLex (g.lastPlace id, (last.map g.edges.idxOf).max?.getD 0)

/-- When a walk in the order of the plan passes an edge. -/
def passing (g : Graph) (e : Edge) : Nat ×ₗ Nat :=
  toLex (g.plan.order.idxOf e.source, g.edges.idxOf e)

/-- The edges of a list after which no other edge into the same node comes, neither in the list nor
in `todo`. -/
def closing (todo : List Edge) : List Edge → List Edge
  | [] => []
  | e :: edges =>
    if ∀ f ∈ edges ++ todo, f.target ≠ e.target then e :: closing todo edges
    else closing todo edges

theorem closing_append (todo edges later : List Edge) :
    closing todo (edges ++ later) = closing (later ++ todo) edges ++ closing todo later := by
  induction edges with
  | nil => rfl
  | cons e edges ih =>
    simp only [List.cons_append, closing, ih, List.append_assoc]
    split <;> rfl

theorem closing_congr {todo todo' : List Edge} (h : ∀ e, e ∈ todo ↔ e ∈ todo') (edges : List Edge) :
    closing todo edges = closing todo' edges := by
  induction edges with
  | nil => rfl
  | cons e edges ih =>
    have hfree : (∀ f ∈ edges ++ todo, f.target ≠ e.target) ↔
        ∀ f ∈ edges ++ todo', f.target ≠ e.target := by simp only [List.mem_append, h]
    simp only [closing, ih, hfree]

theorem closing_sublist (todo edges : List Edge) : (closing todo edges).Sublist edges := by
  induction edges with
  | nil => exact .slnil
  | cons e edges ih =>
    rw [closing]
    split
    · exact ih.cons_cons e
    · exact ih.cons e

/-- An edge that closes its target comes after all other edges into it. -/
theorem closing_last {todo edges : List Edge} {e : Edge} (h : e ∈ closing todo edges) :
    ∃ before after, edges = before ++ e :: after ∧ ∀ f ∈ after, f.target ≠ e.target := by
  induction edges with
  | nil => cases h
  | cons x edges ih =>
    by_cases hx : e ∈ closing todo edges
    · obtain ⟨before, after, rfl, hafter⟩ := ih hx
      exact ⟨x :: before, after, rfl, hafter⟩
    · rw [closing] at h
      split at h
      · next hfree =>
        obtain rfl := (List.mem_cons.mp h).resolve_right hx
        exact ⟨[], edges, rfl, fun f hf => hfree f (List.mem_append_left todo hf)⟩
      · exact absurd h hx

end Graph

namespace Walk
open WorkflowCanvas.Graph
variable {g : Graph} {w : Walk} {todo : List Edge}

/-- Passing edges releases the targets of those that are the last ones into them. -/
theorem Sound.passAll_queue {passed : List Edge} (h : Sound g (passed ++ todo) w)
    (ht : ∀ e ∈ passed, e.target ∈ g.nodeIds) :
    (passed.foldl (fun w e => w.pass e.target) w).queue =
      w.queue ++ (closing todo passed).map (·.target) := by
  induction passed generalizing w with
  | nil => simp [closing]
  | cons e passed ih =>
    have he : e.target ∈ g.nodeIds := ht e List.mem_cons_self
    have h : Sound g (e :: (passed ++ todo)) w := h
    have hqueue := pass_queue h he
    rw [List.foldl_cons, ih (h.pass he) fun f hf => ht f (List.mem_cons_of_mem e hf), closing, hqueue]
    by_cases hlast : ∀ f ∈ passed ++ todo, f.target ≠ e.target
    · rw [if_pos hlast, if_pos hlast]
      simp
    · rw [if_neg hlast, if_neg hlast]

theorem start_queue (g : Graph) : (start g).queue = g.roots := by
  simp only [start, roots, List.filter_map, List.map_map]
  refine (List.map_id' _).trans (List.filter_congr fun id _ => ?_)
  cases h : g.incoming id <;> simp [h]

/-- What has been released after some visits: the nodes that no edge enters, and the targets of the
edges that closed them, in the order in which the edges have been passed. -/
theorem after_released (hg : g.Linked) (count : Nat) :
    (after g count).order ++ (after g count).queue = g.roots ++
      (closing ((after g count).ahead g) ((after g count).order.flatMap g.outgoing)).map
        (·.target) := by
  induction count with
  | zero =>
    have hqueue : (after g 0).queue = g.roots := start_queue g
    have horder : (after g 0).order = [] := rfl
    simp [hqueue, horder, closing]
  | succ count ih =>
    have hsound := after_sound hg count
    rw [after]
    generalize after g count = w at ih hsound ⊢
    cases hq : w.queue with
    | nil => rwa [step_of_queue_nil hq]
    | cons id queue =>
      have htarget : ∀ e ∈ g.outgoing id, e.target ∈ g.nodeIds := fun e he =>
        hg.target_mem e (List.mem_filter.mp he).1
      have hqueue : (w.step g).queue = queue ++
          (closing ((w.step g).ahead g) (g.outgoing id)).map (·.target) := by
        rw [ahead, step_order hq]
        simpa only [Walk.step, hq] using (hsound.visit hq).passAll_queue htarget
      have hahead : ∀ e, e ∈ g.outgoing id ++ (w.step g).ahead g ↔ e ∈ w.ahead g := by
        intro e
        rw [(ahead_perm (hsound.next_notMem hq)).mem_iff, ahead, step_order hq]
      -- The edges out of the visited node are passed now. Those that have closed their targets before
      -- still do: what was ahead of them is ahead of them, passed now or later.
      calc (w.step g).order ++ (w.step g).queue
          = w.order ++ w.queue ++
              (closing ((w.step g).ahead g) (g.outgoing id)).map (·.target) := by
            rw [step_order hq, hqueue, hq]
            simp
        _ = g.roots ++ (closing ((w.step g).ahead g)
              ((w.step g).order.flatMap g.outgoing)).map (·.target) := by
            rw [ih, step_order hq, List.flatMap_append, List.flatMap_singleton, closing_append,
              closing_congr hahead, List.map_append, List.append_assoc]

end Walk

namespace Graph
variable {g : Graph}

theorem plan_order_released (hg : g.Linked) : ∃ todo, g.plan.order = g.roots ++
    (closing todo (g.plan.order.flatMap g.outgoing)).map (·.target) := by
  have h := Walk.after_released hg g.nodes.length
  have hqueue : (Walk.after g g.nodes.length).queue = [] := Walk.finish_queue hg
  rw [hqueue, List.append_nil] at h
  exact ⟨_, h⟩

theorem pairwise_idxOf {α : Type} [BEq α] [LawfulBEq α] {xs : List α} (h : xs.Nodup) :
    xs.Pairwise fun a b => xs.idxOf a < xs.idxOf b := by
  rw [List.pairwise_iff_getElem]
  intro i j hi hj hij
  rwa [h.idxOf_getElem, h.idxOf_getElem]

/-- Edges are passed in the order of their sources, and those with one source in the order of the
edges. -/
theorem pairwise_passing (hg : g.WellFormed) :
    (g.plan.order.flatMap g.outgoing).Pairwise fun e f => g.passing e < g.passing f := by
  have hedges : g.edges.Nodup := hg.edges_nodup.of_map _
  have hsource : ∀ {id e}, e ∈ g.outgoing id → e.source = id := by
    intro id e he
    simpa using (List.mem_filter.mp he).2
  rw [List.pairwise_flatMap]
  constructor
  · intro id _
    refine ((pairwise_idxOf hedges).sublist List.filter_sublist).imp_of_mem ?_
    intro e f he hf hlt
    rw [passing, passing, hsource he, hsource hf]
    exact Prod.Lex.toLex_lt_toLex.mpr (.inr ⟨rfl, hlt⟩)
  · refine (pairwise_idxOf (plan_order_nodup hg.linked)).imp ?_
    intro a b hlt e he f hf
    rw [passing, passing, hsource he, hsource hf]
    exact Prod.Lex.toLex_lt_toLex.mpr (.inl hlt)

/-- The last edge into a node that is passed tells when the node is released. -/
theorem release_eq_passing {e : Edge} (he : e ∈ g.edges)
    (hlast : ∀ f ∈ g.incoming e.target, g.passing f ≤ g.passing e) :
    g.release e.target = g.passing e := by
  have hmem : e ∈ g.incoming e.target := List.mem_filter.mpr ⟨he, by simp⟩
  have hplace : g.lastPlace e.target = g.plan.order.idxOf e.source := by
    have hmax : ((g.incoming e.target).map fun f => g.plan.order.idxOf f.source).max? =
        some (g.plan.order.idxOf e.source) := by
      refine List.max?_eq_some_iff.mpr ⟨List.mem_map_of_mem hmem, fun k hk => ?_⟩
      obtain ⟨f, hf, rfl⟩ := List.mem_map.mp hk
      obtain hlt | ⟨heq, _⟩ := Prod.Lex.toLex_le_toLex.mp (hlast f hf)
      · exact hlt.le
      · exact heq.le
    rw [lastPlace, hmax]
    rfl
  have hindex : (((g.incoming e.target).filter fun f =>
      g.plan.order.idxOf f.source = g.lastPlace e.target).map g.edges.idxOf).max? =
        some (g.edges.idxOf e) := by
    refine List.max?_eq_some_iff.mpr ⟨?_, fun k hk => ?_⟩
    · exact List.mem_map_of_mem (List.mem_filter.mpr ⟨hmem, by simp [hplace]⟩)
    · obtain ⟨f, hf, rfl⟩ := List.mem_map.mp hk
      obtain ⟨hf, hsame⟩ := List.mem_filter.mp hf
      rw [decide_eq_true_eq, hplace] at hsame
      obtain hlt | ⟨_, hle⟩ := Prod.Lex.toLex_le_toLex.mp (hlast f hf)
      · exact absurd hsame hlt.ne
      · exact hle
  rw [release, hindex, hplace]
  rfl

/-- An edge that closes a node of the order is passed after all others into the node. -/
theorem release_of_closing (hg : g.WellFormed) {todo : List Edge} {e : Edge}
    (he : e ∈ closing todo (g.plan.order.flatMap g.outgoing)) (horder : e.target ∈ g.plan.order) :
    g.release e.target = g.passing e := by
  obtain ⟨before, after, hsplit, hafter⟩ := closing_last he
  have hsorted := pairwise_passing hg
  obtain ⟨source, _, hout⟩ := List.mem_flatMap.mp ((closing_sublist _ _).subset he)
  refine release_eq_passing (List.mem_filter.mp hout).1 fun f hf => ?_
  -- All edges into a node of the order are passed, since their sources are in the order as well.
  obtain ⟨hedge, htarget⟩ := List.mem_filter.mp hf
  rw [beq_iff_eq] at htarget
  have hsource : f.source ∈ g.plan.order :=
    ((mem_plan_order_iff hg.linked e.target).mp horder).2 f.source ⟨f, hedge, rfl, htarget⟩
  have hpassed : f ∈ g.plan.order.flatMap g.outgoing :=
    List.mem_flatMap.mpr ⟨f.source, hsource, List.mem_filter.mpr ⟨hedge, by simp⟩⟩
  rw [hsplit] at hpassed hsorted
  obtain hbefore | hrest := List.mem_append.mp hpassed
  · exact ((List.pairwise_append.mp hsorted).2.2 f hbefore e List.mem_cons_self).le
  · obtain rfl | hin := List.mem_cons.mp hrest
    · exact le_rfl
    · exact absurd htarget (hafter f hin)

/-- The order starts with the nodes that no edge enters. The others follow in the order in which they
are released. -/
theorem plan_order_sorted (hg : g.WellFormed) : ∃ rest, g.plan.order = g.roots ++ rest ∧
    (∀ id ∈ rest, id ∉ g.roots) ∧ rest.Pairwise fun v w => g.release v < g.release w := by
  obtain ⟨todo, horder⟩ := plan_order_released hg.linked
  refine ⟨_, horder, fun id hid hroot => ?_, ?_⟩
  · have hnd := plan_order_nodup hg.linked
    rw [horder] at hnd
    exact (List.nodup_append.mp hnd).2.2 id hroot id hid rfl
  · rw [List.pairwise_map]
    refine ((pairwise_passing hg).sublist (closing_sublist todo _)).imp_of_mem ?_
    intro e f he hf hlt
    have hmem : ∀ x ∈ closing todo (g.plan.order.flatMap g.outgoing), x.target ∈ g.plan.order := by
      intro x hx
      rw [horder]
      exact List.mem_append_right _ (List.mem_map_of_mem hx)
    rwa [release_of_closing hg he (hmem e he), release_of_closing hg hf (hmem f hf)]

theorem idxOf_lt_iff {β : Type} [LinearOrder β] {xs : List String} {key : String → β}
    (h : xs.Pairwise fun a b => key a < key b) {a b : String} (ha : a ∈ xs) (hb : b ∈ xs) :
    (xs.idxOf a < xs.idxOf b ↔ key a < key b) ∧ (key a = key b → a = b) := by
  have hbefore : ∀ {c d}, c ∈ xs → d ∈ xs → xs.idxOf c < xs.idxOf d → key c < key d := by
    intro c d hc hd hlt
    have hpair := List.pairwise_iff_getElem.mp h _ _ (List.idxOf_lt_length_of_mem hc)
      (List.idxOf_lt_length_of_mem hd) hlt
    simpa using hpair
  obtain hlt | heq | hgt := Nat.lt_trichotomy (xs.idxOf a) (xs.idxOf b)
  · have hkey := hbefore ha hb hlt
    exact ⟨iff_of_true hlt hkey, fun hsame => absurd hsame hkey.ne⟩
  · obtain rfl := (List.idxOf_inj ha).mp heq
    exact ⟨iff_of_false (lt_irrefl _) (lt_irrefl _), fun _ => rfl⟩
  · have hkey := hbefore hb ha hgt
    exact ⟨iff_of_false hgt.not_gt hkey.not_gt, fun hsame => absurd hsame hkey.ne'⟩

/-- The order is determined by the order of insertion. It starts with the nodes that no edge enters,
in insertion order. Any two of the others come in the order of the pairs that tell when they are
released, and no two of them have the same pair. -/
theorem plan_order_by_insertion (hg : g.WellFormed) :
    g.plan.order = g.roots ++ g.plan.order.filter (· ∉ g.roots) ∧
    (g.plan.order.filter (· ∉ g.roots)).Pairwise (fun v w => g.release v < g.release w) ∧
    ∀ v ∈ g.plan.order, ∀ w ∈ g.plan.order, v ∉ g.roots → w ∉ g.roots →
      (g.plan.order.idxOf v < g.plan.order.idxOf w ↔ g.release v < g.release w) ∧
      (g.release v = g.release w → v = w) := by
  obtain ⟨rest, horder, hrest, hsorted⟩ := plan_order_sorted hg
  have hfilter : g.plan.order.filter (· ∉ g.roots) = rest := by
    have hnone : g.roots.filter (· ∉ g.roots) = [] := by simp
    have hall : rest.filter (· ∉ g.roots) = rest := by simpa using hrest
    rw [horder, List.filter_append, hnone, hall, List.nil_append]
  rw [hfilter]
  refine ⟨horder, hsorted, fun v hv w hw hvroot hwroot => ?_⟩
  have hplace : ∀ id, id ∉ g.roots → g.plan.order.idxOf id = rest.idxOf id + g.roots.length := by
    intro id hid
    rw [horder, List.idxOf_append_of_notMem hid, Nat.add_comm]
  have hmem : ∀ id ∈ g.plan.order, id ∉ g.roots → id ∈ rest := by
    intro id hid hroot
    rw [← hfilter]
    exact List.mem_filter.mpr ⟨hid, by simpa using hroot⟩
  rw [hplace v hvroot, hplace w hwroot, Nat.add_lt_add_iff_right]
  exact idxOf_lt_iff hsorted (hmem v hv hvroot) (hmem w hw hwroot)

/-- Two nodes that wait for the same two roots, and one that two edges side by side lead to. -/
def braided : Graph where
  nodes := [.fresh "z" "action", .fresh "x" "action", .fresh "a" "trigger", .fresh "b" "trigger",
    .fresh "y" "action", .fresh "w" "action"]
  edges := [⟨"0", "b", "x", none, none, false⟩, ⟨"1", "a", "y", none, none, false⟩,
    ⟨"2", "a", "x", none, none, false⟩, ⟨"3", "b", "y", none, none, false⟩,
    ⟨"4", "a", "y", none, none, false⟩, ⟨"5", "a", "z", none, none, false⟩,
    ⟨"6", "a", "w", none, none, false⟩, ⟨"7", "a", "z", none, none, false⟩]

theorem plan_order_by_insertion_braided : braided.WellFormed ∧
    braided.roots = ["a", "b"] ∧ braided.plan.order = ["a", "b", "w", "z", "x", "y"] ∧
    (["w", "z", "x", "y"].map fun id => ofLex (braided.release id)) =
      [(0, 6), (0, 7), (1, 0), (1, 3)] ∧
    braided.plan.order = braided.roots ++ braided.plan.order.filter (· ∉ braided.roots) ∧
    (braided.plan.order.filter (· ∉ braided.roots)).Pairwise
      (fun v w => braided.release v < braided.release w) ∧
    ∀ v ∈ braided.plan.order, ∀ w ∈ braided.plan.order, v ∉ braided.roots → w ∉ braided.roots →
      (braided.plan.order.idxOf v < braided.plan.order.idxOf w ↔
        braided.release v < braided.release w) ∧
      (braided.release v = braided.release w → v = w) :=
  ⟨⟨by decide, by decide, by decide, by decide⟩, by decide, by decide, by decide,
    plan_order_by_insertion ⟨by decide, by decide, by decide, by decide⟩⟩

end Graph
end WorkflowCanvas
