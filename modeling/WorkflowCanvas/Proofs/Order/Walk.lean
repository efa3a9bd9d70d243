import WorkflowCanvas.Order
import Mathlib.Data.List.Perm.Basic
import Mathlib.Data.List.Nodup

/-! What holds of the walk over a graph after any number of visits: the count at a node is the
number of edges into it that still lie ahead, and the queue holds the nodes that are left without
any. -/
namespace WorkflowCanvas

namespace Graph

/-- Some edge goes from one node to the other. -/
def Leads (g : Graph) (a b : String) : Prop := ∃ e ∈ g.edges, e.source = a ∧ e.target = b

/-- Node ids are not repeated, and edges run between nodes; the ids of edges may be any. -/
structure Linked (g : Graph) : Prop where
  nodes_nodup : g.nodeIds.Nodup
  source_mem : ∀ e ∈ g.edges, e.source ∈ g.nodeIds
  target_mem : ∀ e ∈ g.edges, e.target ∈ g.nodeIds

theorem WellFormed.linked {g : Graph} (h : g.WellFormed) : g.Linked :=
  ⟨h.nodes_nodup, h.source_mem, h.target_mem⟩

/-- Every node comes after all that lead to it. -/
def Ordered (g : Graph) (order : List String) : Prop :=
  ∀ before id after, order = before ++ id :: after → ∀ other, g.Leads other id → other ∈ before

theorem ordered_nil (g : Graph) : g.Ordered [] := by
  intro before id after h
  simp at h

theorem Ordered.concat {g : Graph} {order : List String} {id : String} (h : g.Ordered order)
    (hid : ∀ other, g.Leads other id → other ∈ order) : g.Ordered (order ++ [id]) := by
  intro before x after heq other hlead
  obtain rfl | ⟨after, last, rfl⟩ := List.eq_nil_or_concat after
  · obtain ⟨rfl, hx⟩ := List.append_inj' heq rfl
    obtain rfl : id = x := by simpa using hx
    exact hid other hlead
  · have heq' : order ++ [id] = (before ++ x :: after) ++ [last] := by simpa using heq
    obtain ⟨rfl, _⟩ := List.append_inj' heq' rfl
    exact h before x after rfl other hlead

end Graph

namespace Walk
variable {g : Graph} {w : Walk} {todo : List Edge}

/-- A walk for which the edges `todo` have not been passed. -/
structure Sound (g : Graph) (todo : List Edge) (w : Walk) : Prop where
  waiting : w.waiting = g.nodeIds.map fun id => (id, todo.countP (·.target == id))
  nodup : (w.order ++ w.queue).Nodup
  released : ∀ id, id ∈ w.order ++ w.queue ↔ id ∈ g.nodeIds ∧ ∀ e ∈ todo, e.target ≠ id

theorem lookup_map_mk (ids : List String) (f : String → Nat) (id : String) (h : id ∈ ids) :
    (ids.map fun id => (id, f id)).lookup id = some (f id) := by
  induction ids with
  | nil => simp at h
  | cons x ids ih =>
    by_cases hx : id = x
    · simp [hx]
    · have hid : id ∈ ids := by simpa [hx] using h
      have hb : (id == x) = false := by simpa using hx
      simp [List.lookup_cons, hb, ih hid]

theorem Sound.perm {todo' : List Edge} (h : Sound g todo w) (hp : todo.Perm todo') :
    Sound g todo' w where
  waiting := by simp only [h.waiting, hp.countP_eq]
  nodup := h.nodup
  released id := by simp only [h.released, hp.mem_iff]

@[simp] theorem pass_order (w : Walk) (target : String) : (w.pass target).order = w.order := rfl

theorem pass_waiting {e : Edge} (h : Sound g (e :: todo) w) :
    (w.pass e.target).waiting = g.nodeIds.map fun id => (id, todo.countP (·.target == id)) := by
  simp only [pass, h.waiting, List.map_map]
  refine List.map_congr_left fun id _ => ?_
  by_cases he : id = e.target
  · simp [he]
  · simp [he, Ne.symm he]

theorem pass_queue {e : Edge} (h : Sound g (e :: todo) w) (ht : e.target ∈ g.nodeIds) :
    (w.pass e.target).queue =
      if ∀ f ∈ todo, f.target ≠ e.target then w.queue ++ [e.target] else w.queue := by
  have hcount : (w.waiting.lookup e.target).getD 0 =
      todo.countP (·.target == e.target) + 1 := by
    simp [h.waiting, lookup_map_mk _ _ _ ht]
  simp only [pass, hcount, Nat.add_eq_right, List.countP_eq_zero, beq_iff_eq, ne_eq]

/-- Passing an edge keeps the counts right, and releases its target with the last edge into it. -/
theorem Sound.pass {e : Edge} (h : Sound g (e :: todo) w) (ht : e.target ∈ g.nodeIds) :
    Sound g todo (w.pass e.target) where
  waiting := pass_waiting h
  nodup := by
    have hnew : e.target ∉ w.order ++ w.queue := by simp [h.released]
    rw [pass_order, pass_queue h ht]
    split
    · rw [← List.append_assoc, List.nodup_append_comm]
      simpa using ⟨by simpa using hnew, h.nodup⟩
    · exact h.nodup
  released id := by
    have hold := h.released id
    rw [pass_order, pass_queue h ht]
    by_cases hid : id = e.target
    · subst hid
      have hnew : e.target ∉ w.order ++ w.queue := by simp [h.released]
      split
      · next hlast => simpa [ht] using hlast
      · next hlast => exact iff_of_false hnew fun hall => hlast hall.2
    · split <;> simp_all [Ne.symm hid]

theorem Sound.passAll {passed : List Edge} (h : Sound g (passed ++ todo) w)
    (ht : ∀ e ∈ passed, e.target ∈ g.nodeIds) :
    Sound g todo (passed.foldl (fun w e => w.pass e.target) w) := by
  induction passed generalizing w with
  | nil => simpa using h
  | cons e passed ih =>
    have he : Sound g (passed ++ todo) (w.pass e.target) := h.pass (ht e (by simp))
    exact ih he fun f hf => ht f (List.mem_cons_of_mem e hf)

theorem passAll_order (passed : List Edge) (w : Walk) :
    (passed.foldl (fun w e => w.pass e.target) w).order = w.order := by
  induction passed generalizing w with
  | nil => rfl
  | cons e passed ih => simpa using ih (w.pass e.target)

/-- The edges that a walk has still to pass: those that leave a node not yet visited. -/
def ahead (g : Graph) (w : Walk) : List Edge := g.edges.filter (·.source ∉ w.order)

/-- The edges that leave the next node, and those that lie ahead once it has been visited. -/
theorem ahead_perm {id : String} (hid : id ∉ w.order) :
    (w.ahead g).Perm (g.outgoing id ++ g.edges.filter (·.source ∉ w.order ++ [id])) := by
  have hout : (w.ahead g).filter (·.source == id) = g.outgoing id := by
    simp only [ahead, Graph.outgoing, List.filter_filter]
    refine List.filter_congr fun e _ => ?_
    by_cases he : e.source = id <;> simp [he, hid]
  have hrest : (w.ahead g).filter (!·.source == id) =
      g.edges.filter (·.source ∉ w.order ++ [id]) := by
    simp only [ahead, List.filter_filter]
    refine List.filter_congr fun e _ => ?_
    by_cases he : e.source = id <;> simp [he]
  rw [← hout, ← hrest]
  exact (List.filter_append_perm (·.source == id) (w.ahead g)).symm

theorem step_order {id : String} {queue : List String} (hq : w.queue = id :: queue) :
    (w.step g).order = w.order ++ [id] := by
  simp only [step, hq, passAll_order]

theorem step_of_queue_nil (hq : w.queue = []) : w.step g = w := by
  simp only [step, hq]

theorem Sound.next_notMem {id : String} {queue : List String} (h : Sound g todo w)
    (hq : w.queue = id :: queue) : id ∉ w.order := by
  intro hmem
  exact (List.nodup_append.mp (hq ▸ h.nodup)).2.2 id hmem id (by simp) rfl

/-- When the next node has been taken from the queue, the edges that leave it come first of those
that lie ahead. -/
theorem Sound.visit {id : String} {queue : List String} (h : Sound g (w.ahead g) w)
    (hq : w.queue = id :: queue) :
    Sound g (g.outgoing id ++ g.edges.filter (·.source ∉ w.order ++ [id]))
      { w with queue, order := w.order ++ [id] } := by
  have hnd : (w.order ++ id :: queue).Nodup := hq ▸ h.nodup
  have hmoved : Sound g (w.ahead g) { w with queue, order := w.order ++ [id] } :=
    ⟨h.waiting, by simpa using hnd, by simpa [hq] using h.released⟩
  exact hmoved.perm (ahead_perm (h.next_notMem hq))

/-- A visit keeps the counts right. -/
theorem Sound.step (hg : g.Linked) (h : Sound g (w.ahead g) w) :
    Sound g ((w.step g).ahead g) (w.step g) := by
  cases hq : w.queue with
  | nil => rwa [step_of_queue_nil hq]
  | cons id queue =>
    have htarget : ∀ e ∈ g.outgoing id, e.target ∈ g.nodeIds := fun e he =>
      hg.target_mem e (List.mem_filter.mp he).1
    have hpassed := (h.visit hq).passAll htarget
    rw [ahead, step_order hq]
    simpa only [Walk.step, hq] using hpassed

/-- A node is visited only after all that lead to it. -/
theorem Sound.step_ordered (h : Sound g (w.ahead g) w) (ho : g.Ordered w.order) :
    g.Ordered (w.step g).order := by
  cases hq : w.queue with
  | nil => rwa [step_of_queue_nil hq]
  | cons id queue =>
    rw [step_order hq]
    refine ho.concat ?_
    rintro other ⟨e, he, rfl, htarget⟩
    have hfree := ((h.released id).mp (by simp [hq])).2
    by_contra hother
    exact hfree e (by simp [ahead, he, hother]) htarget

theorem start_sound (hg : g.Linked) : Sound g ((start g).ahead g) (start g) := by
  have hahead : (start g).ahead g = g.edges := by simp [ahead, start]
  rw [hahead]
  refine ⟨?_, ?_, ?_⟩
  · simp [start, Graph.incoming, List.countP_eq_length_filter]
  · have hsub : (start g).queue.Sublist g.nodeIds := by
      simp only [start]
      exact (List.filter_sublist.map _).trans (by simp [Function.comp_def])
    simpa [start] using hsub.nodup hg.nodes_nodup
  · intro id
    simp [start, Graph.incoming]

theorem after_sound (hg : g.Linked) (count : Nat) :
    Sound g ((after g count).ahead g) (after g count) := by
  induction count with
  | zero => exact start_sound hg
  | succ count ih => exact ih.step hg

theorem after_ordered (hg : g.Linked) (count : Nat) : g.Ordered (after g count).order := by
  induction count with
  | zero => exact g.ordered_nil
  | succ count ih => exact (after_sound hg count).step_ordered ih

/-- Every visit appends a node until the queue is empty. -/
theorem after_length (g : Graph) (count : Nat) :
    (after g count).queue = [] ∨ (after g count).order.length = count := by
  induction count with
  | zero => exact Or.inr rfl
  | succ count ih =>
    cases hq : (after g count).queue with
    | nil => exact Or.inl (by rw [after, step_of_queue_nil hq, hq])
    | cons id queue =>
      have hlen := ih.resolve_left (by simp [hq])
      exact Or.inr (by rw [after, step_order hq, List.length_append, hlen]; rfl)

/-- While nodes are queued every visit has been to another node, and some node is left. -/
theorem after_length_lt (hg : g.Linked) {count : Nat} (hq : (after g count).queue ≠ []) :
    (after g count).order.length = count ∧ count < g.nodes.length := by
  have hlen := (after_length g count).resolve_left hq
  have h := after_sound hg count
  have hsub : (after g count).order ++ (after g count).queue ⊆ g.nodeIds :=
    fun id hid => ((h.released id).mp hid).1
  have hle := (List.subperm_of_subset h.nodup hsub).length_le
  have hpos := List.length_pos_of_ne_nil hq
  simp only [List.length_append, hlen, Graph.nodeIds, List.length_map] at hle
  exact ⟨hlen, by omega⟩

/-- As many visits as there are nodes empty the queue. -/
theorem finish_queue (hg : g.Linked) : (finish g).queue = [] := by
  by_contra hq
  exact Nat.lt_irrefl _ (after_length_lt hg hq).2

end Walk
end WorkflowCanvas
