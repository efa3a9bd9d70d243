import WorkflowCanvas.Proofs.Order.Plan

/-! The counts of a walk. After any number of visits they are the numbers of edges into the nodes that
come from nodes not yet visited, no count is ever taken below zero, and there are no more visits than
nodes. -/
namespace WorkflowCanvas.Walk
open WorkflowCanvas.Graph
variable {g : Graph} {w : Walk} {todo : List Edge}

/-- Pass an edge into a node. This fails where the count of the node is used up, or there is none. -/
def pass? (w : Walk) (target : String) : Option Walk :=
  match w.waiting.lookup target with
  | some (_ + 1) => some (w.pass target)
  | _ => none

/-- A visit in which no count may be taken below zero. -/
def step? (g : Graph) (w : Walk) : Option Walk :=
  match w.queue with
  | [] => some w
  | id :: queue =>
    (g.outgoing id).foldlM (fun w e => w.pass? e.target) { w with queue, order := w.order ++ [id] }

/-- Counts and queue tell how the walk stands: the count of a node is the number of edges into it from
nodes not yet visited, and the queue holds the nodes not yet visited whose count is zero. No node stands
twice in the queue or among the nodes visited. -/
structure Exact (g : Graph) (w : Walk) : Prop where
  waiting : w.waiting = g.nodeIds.map fun id =>
    (id, g.edges.countP fun e => e.target = id ∧ e.source ∉ w.order)
  mem_queue_iff : ∀ id, id ∈ w.queue ↔ id ∈ g.nodeIds ∧ id ∉ w.order ∧ w.waiting.lookup id = some 0
  queue_nodup : w.queue.Nodup
  order_nodup : w.order.Nodup

theorem countP_ahead (g : Graph) (w : Walk) (id : String) :
    (w.ahead g).countP (·.target == id) =
      g.edges.countP fun e => e.target = id ∧ e.source ∉ w.order := by
  rw [ahead, List.countP_filter]
  refine List.countP_congr fun e _ => ?_
  simp

theorem Sound.exact (h : Sound g (w.ahead g) w) : Exact g w := by
  obtain ⟨horder, hqueue, hdisjoint⟩ := List.nodup_append.mp h.nodup
  refine ⟨by simp only [h.waiting, countP_ahead], fun id => ?_, hqueue, horder⟩
  have hzero : id ∈ g.nodeIds →
      (w.waiting.lookup id = some 0 ↔ ∀ e ∈ w.ahead g, e.target ≠ id) := by
    intro hid
    rw [h.waiting, lookup_map_mk _ _ _ hid]
    simp [List.countP_eq_zero]
  have hreleased := h.released id
  rw [List.mem_append] at hreleased
  constructor
  · intro hid
    obtain ⟨hnode, hfree⟩ := hreleased.mp (.inr hid)
    exact ⟨hnode, fun hvisited => hdisjoint id hvisited id hid rfl, (hzero hnode).mpr hfree⟩
  · rintro ⟨hnode, hnew, hcount⟩
    exact (hreleased.mpr ⟨hnode, (hzero hnode).mp hcount⟩).resolve_left hnew

/-- As long as an edge is to be passed, its target has a count left. -/
theorem Sound.pass?_eq {e : Edge} (h : Sound g (e :: todo) w) (ht : e.target ∈ g.nodeIds) :
    w.pass? e.target = some (w.pass e.target) := by
  have hcount : w.waiting.lookup e.target = some (todo.countP (·.target == e.target) + 1) := by
    simp [h.waiting, lookup_map_mk _ _ _ ht]
  simp only [pass?, hcount]

theorem Sound.passAll?_eq {passed : List Edge} (h : Sound g (passed ++ todo) w)
    (ht : ∀ e ∈ passed, e.target ∈ g.nodeIds) :
    passed.foldlM (fun w e => w.pass? e.target) w =
      some (passed.foldl (fun w e => w.pass e.target) w) := by
  induction passed generalizing w with
  | nil => rfl
  | cons e passed ih =>
    have he : e.target ∈ g.nodeIds := ht e List.mem_cons_self
    have h : Sound g (e :: (passed ++ todo)) w := h
    rw [List.foldlM_cons, h.pass?_eq he]
    exact ih (h.pass he) fun f hf => ht f (List.mem_cons_of_mem e hf)

theorem Sound.step?_eq (hg : g.Linked) (h : Sound g (w.ahead g) w) :
    w.step? g = some (w.step g) := by
  cases hq : w.queue with
  | nil => simp only [step?, Walk.step, hq]
  | cons id queue =>
    have htarget : ∀ e ∈ g.outgoing id, e.target ∈ g.nodeIds := fun e he =>
      hg.target_mem e (List.mem_filter.mp he).1
    simpa only [step?, Walk.step, hq] using (h.visit hq).passAll?_eq htarget

/-- After any number of visits the counts are exact, and the next visit takes none of them below zero,
whether edges lie side by side or lead back to where they start. As long as there is a node to visit,
each visit has been to another one, and there have been fewer visits than there are nodes. -/
theorem after_exact (hg : g.Linked) (count : Nat) :
    Exact g (after g count) ∧
    (after g count).step? g = some (after g (count + 1)) ∧
    ((after g count).queue ≠ [] →
      (after g count).order.length = count ∧ count < g.nodes.length) :=
  ⟨(after_sound hg count).exact, (after_sound hg count).step?_eq hg, after_length_lt hg⟩

/-- The visit to the root of the tangled graph passes two edges side by side, and releases the node that
they lead to. The node with the loop is never released. -/
theorem after_exact_tangled : tangled.Linked ∧
    (after tangled 1).waiting = [("late", 0), ("root", 0), ("loop", 1), ("behind", 1)] ∧
    (after tangled 1).queue = ["late"] ∧
    Exact tangled (after tangled 1) ∧
    (after tangled 0).step? tangled = some (after tangled 1) ∧
    (after tangled 1).order.length = 1 := by
  have hlinked : tangled.Linked := ⟨by decide, by decide, by decide⟩
  obtain ⟨hexact, -, hlength⟩ := after_exact hlinked 1
  exact ⟨hlinked, by decide, by decide, hexact, (after_exact hlinked 0).2.1, (hlength (by decide)).1⟩

end WorkflowCanvas.Walk
