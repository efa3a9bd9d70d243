import WorkflowCanvas.Proofs.Graph.Saving

/-! Procedures that change a state step by step. What they have changed stays changed when they fail
later on, so that a failure leaves the state as it was only if all checks come before the first
change. The operations on a graph are such procedures, with the outcomes that they have as functions. -/
namespace WorkflowCanvas

/-- A procedure on a state. It may fail, leaving what it has changed by then, or not return at all. -/
abbrev Procedure (σ α : Type) := ExceptT WorkflowError (StateT σ Option) α

namespace Procedure
variable {σ τ α β : Type}

/-- What a procedure returns, and the state that it leaves. -/
def on (p : Procedure σ α) (s : σ) : Option (Except WorkflowError α × σ) := p s

/-- Wait for a value, without end if there is none. -/
def await (value : Option α) : Procedure σ α := fun s => value.map fun a => (.ok a, s)

/-- Go on with what a check gives, or fail with it. -/
def check (outcome : Except WorkflowError α) : Procedure σ α := fun s => some (outcome, s)

def require (holds : Bool) (fault : WorkflowError) : Procedure σ Unit :=
  check (if holds then .ok () else .error fault)

def demand (found : Option α) (fault : WorkflowError) : Procedure σ α :=
  check (match found with | some a => .ok a | none => .error fault)

/-- Work on a part of the state. -/
def within (part : τ → σ) (put : τ → σ → τ) (p : Procedure σ α) : Procedure τ α := fun t =>
  (p.on (part t)).map fun x => (x.1, put t x.2)

/-- The state that a procedure leaves if it succeeds. -/
def finish (p : Procedure σ α) (s : σ) : Option (Except WorkflowError σ) :=
  (p.on s).map fun x => x.1.map fun _ => x.2

/-- Work on a state that nothing else sees, and return it. -/
def aside (start : σ) (p : Procedure σ α) : Procedure τ σ := fun t =>
  (p.finish start).map fun outcome => (outcome, t)

/-- What is left of an outcome: the new state, or the old one after a failure. -/
@[simp] def settled (s : σ) : Except WorkflowError (α × σ) → Except WorkflowError α × σ
  | .ok (a, s') => (.ok a, s')
  | .error e => (.error e, s)

variable {p : Procedure σ α} {f : α → Procedure σ β} {s s' : σ}

@[simp] theorem on_pure (a : α) (s : σ) : (pure a : Procedure σ α).on s = some (.ok a, s) := rfl

@[simp] theorem on_get (s : σ) : (get : Procedure σ σ).on s = some (.ok s, s) := rfl

@[simp] theorem on_modify (change : σ → σ) (s : σ) :
    (modify change : Procedure σ Unit).on s = some (.ok (), change s) := rfl

@[simp] theorem on_await (value : Option α) (s : σ) :
    (await value).on s = value.map fun a => (.ok a, s) := rfl

@[simp] theorem on_check (outcome : Except WorkflowError α) (s : σ) :
    (check outcome).on s = some (outcome, s) := rfl

@[simp] theorem on_require (holds : Bool) (fault : WorkflowError) (s : σ) :
    (require holds fault).on s = some (if holds then .ok () else .error fault, s) := rfl

@[simp] theorem on_demand_some (a : α) (fault : WorkflowError) (s : σ) :
    (demand (some a) fault).on s = some (.ok a, s) := rfl

@[simp] theorem on_demand_none (fault : WorkflowError) (s : σ) :
    (demand none fault : Procedure σ α).on s = some (.error fault, s) := rfl

@[simp] theorem on_aside (start : σ) (p : Procedure σ α) (t : τ) :
    (aside start p : Procedure τ σ).on t = (p.finish start).map fun outcome => (outcome, t) := rfl

theorem on_bind (p : Procedure σ α) (f : α → Procedure σ β) (s : σ) :
    (p >>= f).on s = (p.on s).bind fun x =>
      match x.1 with
      | .ok a => (f a).on x.2
      | .error e => some (.error e, x.2) := by
  show (p s).bind _ = (p s).bind _
  congr
  funext ⟨r, t⟩
  cases r <;> rfl

@[simp] theorem on_map (g : α → β) (p : Procedure σ α) (s : σ) :
    (g <$> p).on s = (p.on s).map fun x => (x.1.map g, x.2) := by
  rw [map_eq_pure_bind, on_bind]
  cases p.on s with
  | none => rfl
  | some x =>
    obtain ⟨r, s'⟩ := x
    cases r <;> rfl

@[simp] theorem on_discard (p : Procedure σ α) (s : σ) :
    (discard p).on s = (p.on s).map fun x => (x.1.map fun _ => (), x.2) :=
  on_map (fun _ => ()) p s

theorem on_within (part : τ → σ) (put : τ → σ → τ) (p : Procedure σ α) (t : τ) :
    (within part put p).on t = (p.on (part t)).map fun x => (x.1, put t x.2) := rfl

/-! ### Failing before the first change -/

/-- Where it fails, the state is as it was. -/
def Atomic (p : Procedure σ α) : Prop := ∀ s e s', p.on s = some (.error e, s') → s' = s

/-- It only looks at the state. -/
def Steady (p : Procedure σ α) : Prop := ∀ s r s', p.on s = some (r, s') → s' = s

/-- It does not fail. -/
def Sure (p : Procedure σ α) : Prop := ∀ s e s', p.on s ≠ some (.error e, s')

theorem Steady.atomic (h : p.Steady) : p.Atomic := fun s e s' => h s (.error e) s'

theorem Sure.atomic (h : p.Sure) : p.Atomic := fun s e s' hp => absurd hp (h s e s')

theorem steady_get : (get : Procedure σ σ).Steady := by
  rintro s r s' ⟨⟩
  rfl

theorem sure_get : (get : Procedure σ σ).Sure := by
  rintro s e s' ⟨⟩

theorem steady_check (outcome : Except WorkflowError α) : (check outcome : Procedure σ α).Steady := by
  rintro s r s' ⟨⟩
  rfl

theorem steady_aside (start : σ) (p : Procedure σ α) : (aside start p : Procedure τ σ).Steady := by
  intro t r t' h
  obtain ⟨x, -, h⟩ := Option.map_eq_some_iff.mp h
  exact (Prod.mk.inj h).2.symm

theorem sure_pure (a : α) : (pure a : Procedure σ α).Sure := by
  rintro s e s' ⟨⟩

theorem sure_modify (change : σ → σ) : (modify change : Procedure σ Unit).Sure := by
  rintro s e s' ⟨⟩

/-- A second procedure is come to, or the first one fails. -/
theorem bind_eq_some {r : Except WorkflowError β} (h : (p >>= f).on s = some (r, s')) :
    (∃ a t, p.on s = some (.ok a, t) ∧ (f a).on t = some (r, s')) ∨
      ∃ e, p.on s = some (.error e, s') ∧ r = .error e := by
  rw [on_bind] at h
  obtain ⟨⟨r', t⟩, hp, h⟩ := Option.bind_eq_some_iff.mp h
  cases r' with
  | ok a => exact .inl ⟨a, t, hp, h⟩
  | error e =>
    obtain ⟨rfl, rfl⟩ := Prod.mk.inj (Option.some.inj h)
    exact .inr ⟨e, hp, rfl⟩

theorem Steady.bind_steady (hp : p.Steady) (hf : ∀ a, (f a).Steady) : (p >>= f).Steady := by
  intro s r s' h
  obtain ⟨a, t, hp', hf'⟩ | ⟨e, hp', -⟩ := bind_eq_some h
  · rw [hf a t r s' hf', hp s _ t hp']
  · exact hp s _ s' hp'

/-- Checks may come before what is atomic. -/
theorem Steady.bind (hp : p.Steady) (hf : ∀ a, (f a).Atomic) : (p >>= f).Atomic := by
  intro s e s' h
  obtain ⟨a, t, hp', hf'⟩ | ⟨e, hp', -⟩ := bind_eq_some h
  · rw [hf a t e s' hf', hp s _ t hp']
  · exact hp s _ s' hp'

/-- What cannot fail may come after what is atomic. -/
theorem Atomic.bind (hp : p.Atomic) (hf : ∀ a, (f a).Sure) : (p >>= f).Atomic := by
  intro s e s' h
  obtain ⟨a, t, -, hf'⟩ | ⟨e, hp', -⟩ := bind_eq_some h
  · exact absurd hf' (hf a t e s')
  · exact hp s e s' hp'

theorem Sure.bind (hp : p.Sure) (hf : ∀ a, (f a).Sure) : (p >>= f).Sure := by
  intro s e s' h
  obtain ⟨a, t, -, hf'⟩ | ⟨e, hp', -⟩ := bind_eq_some h
  · exact hf a t e s' hf'
  · exact hp s e s' hp'

theorem Sure.forM {xs : List β} {f : β → Procedure σ PUnit} (hf : ∀ x, (f x).Sure) :
    (xs.forM f).Sure := by
  induction xs with
  | nil => exact sure_pure _
  | cons x xs ih => exact (hf x).bind fun _ => ih

theorem Steady.forM {xs : List β} {f : β → Procedure σ PUnit} (hf : ∀ x, (f x).Steady) :
    (xs.forM f).Steady := by
  induction xs with
  | nil => exact steady_check _
  | cons x xs ih => exact (hf x).bind_steady fun _ => ih

theorem Atomic.within (hp : p.Atomic) {part : τ → σ} {put : τ → σ → τ}
    (hput : ∀ t, put t (part t) = t) : (within part put p).Atomic := by
  intro t e t' h
  obtain ⟨⟨r, s⟩, hs, h⟩ := Option.map_eq_some_iff.mp h
  obtain ⟨rfl, rfl⟩ := Prod.mk.inj h
  rw [hp (part t) e s hs, hput]

/-! ### Outcomes -/

theorem finish_settled {outcome : Except WorkflowError (α × σ)}
    (hp : p.on s = some (settled s outcome)) :
    p.finish s = some (outcome.map (·.2)) := by
  rw [finish, hp]
  cases outcome <;> rfl

theorem finish_discard (p : Procedure σ α) (s : σ) : (discard p).finish s = p.finish s := by
  unfold finish
  rw [on_discard, Option.map_map]
  congr
  funext ⟨r, s'⟩
  cases r <;> rfl

theorem finish_bind (p : Procedure σ α) (q : Procedure σ β) (s : σ) :
    (p >>= fun _ => q).finish s = (p.finish s).bind fun
      | .ok s' => q.finish s'
      | .error e => some (.error e) := by
  unfold finish
  rw [on_bind]
  cases p.on s with
  | none => rfl
  | some x =>
    obtain ⟨r, s'⟩ := x
    cases r <;> rfl

/-- Procedures one after the other leave what their steps leave one after the other. -/
theorem finish_forM {step : σ → β → Except WorkflowError σ} {f : β → Procedure σ PUnit}
    (hf : ∀ x s, (f x).finish s = some (step s x)) (xs : List β) (s : σ) :
    (xs.forM f).finish s = some (xs.foldlM step s) := by
  induction xs generalizing s with
  | nil => rfl
  | cons x xs ih =>
    show (f x >>= fun _ => xs.forM f).finish s = _
    rw [finish_bind, hf, List.foldlM_cons]
    cases step s x with
    | error e => rfl
    | ok s' => exact ih s'

end Procedure

/-! ### Graphs -/

namespace Graph

/-- What can be done to a graph, and what it returns. -/
inductive Operation : Type → Type where
  | insertNode (n : Node) : Operation String
  | insertEdge (e : Edge) : Operation String
  | removeNode (id : String) : Operation (Node × List Edge)
  | removeEdge (id : String) : Operation Edge

namespace InPlace
open Procedure

def insertNode (n : Node) : Procedure Graph String := do
  require (!(← get).contains n.id) (.duplicateNode n.id)
  modify fun g => { g with nodes := g.nodes ++ [n] }
  return n.id

def insertEdge (e : Edge) : Procedure Graph String := do
  [e.source, e.target].forM fun endpoint => do
    require ((← get).contains endpoint) (.nodeNotFound endpoint)
  require ((← get).edge? e.id).isNone (.duplicateEdge e.id)
  modify fun g => { g with edges := g.edges ++ [e] }
  return e.id

/-- The node is taken out before the edges that touch it. -/
def removeNode (id : String) : Procedure Graph (Node × List Edge) := do
  let node ← demand ((← get).node? id) (.nodeNotFound id)
  modify fun g => { g with nodes := g.nodes.eraseP (·.id == id) }
  let (removed, kept) := (← get).edges.partition (·.touches id)
  modify fun g => { g with edges := kept }
  return (node, removed)

def removeEdge (id : String) : Procedure Graph Edge := do
  let edge ← demand ((← get).edge? id) (.edgeNotFound id)
  modify fun g => { g with edges := g.edges.eraseP (·.id == id) }
  return edge

theorem insertNode_atomic (n : Node) : (insertNode n).Atomic := by
  refine steady_get.bind fun g => (steady_check _).bind fun _ => Sure.atomic ?_
  exact (sure_modify _).bind fun _ => sure_pure _

theorem insertEdge_atomic (e : Edge) : (insertEdge e).Atomic := by
  have hends : ([e.source, e.target].forM fun endpoint => do
      require ((← get).contains endpoint) (.nodeNotFound endpoint) : Procedure Graph PUnit).Steady :=
    Steady.forM fun endpoint => steady_get.bind_steady fun g => steady_check _
  refine hends.bind fun _ => steady_get.bind fun g => (steady_check _).bind fun _ => Sure.atomic ?_
  exact (sure_modify _).bind fun _ => sure_pure _

theorem removeNode_atomic (id : String) : (removeNode id).Atomic := by
  refine steady_get.bind fun g => (steady_check _).bind fun node => Sure.atomic ?_
  -- The edges are looked up once the node is out, but no more checks are made.
  exact (sure_modify _).bind fun _ => sure_get.bind fun _ => (sure_modify _).bind fun _ =>
    sure_pure _

theorem removeEdge_atomic (id : String) : (removeEdge id).Atomic := by
  refine steady_get.bind fun g => (steady_check _).bind fun edge => Sure.atomic ?_
  exact (sure_modify _).bind fun _ => sure_pure _

theorem insertNode_on (n : Node) (g : Graph) :
    (insertNode n).on g = some (settled g ((g.insertNode n).map fun h => (n.id, h))) := by
  by_cases h : g.contains n.id = true
  · simp [insertNode, Graph.insertNode, on_bind, Except.map, h]
  · simp [insertNode, Graph.insertNode, on_bind, Except.map, h]

theorem insertEdge_on (e : Edge) (g : Graph) :
    (insertEdge e).on g = some (settled g ((g.insertEdge e).map fun h => (e.id, h))) := by
  by_cases hs : g.contains e.source = true
  · by_cases ht : g.contains e.target = true
    · cases he : g.edge? e.id with
      | none => simp [insertEdge, Graph.insertEdge, on_bind, Except.map, hs, ht, he]
      | some f => simp [insertEdge, Graph.insertEdge, on_bind, Except.map, hs, ht, he]
    · simp [insertEdge, Graph.insertEdge, on_bind, Except.map, hs, ht]
  · simp [insertEdge, Graph.insertEdge, on_bind, Except.map, hs]

theorem removeNode_on (id : String) (g : Graph) : (removeNode id).on g =
    some (settled g ((g.removeNode id).map fun x => ((x.node, x.edges), x.rest))) := by
  cases h : g.node? id with
  | none => simp [removeNode, Graph.removeNode, on_bind, Except.map, h]
  | some n => simp [removeNode, Graph.removeNode, on_bind, Except.map, h, Function.comp_def]

theorem removeEdge_on (id : String) (g : Graph) :
    (removeEdge id).on g = some (settled g (g.removeEdge id)) := by
  cases h : g.edge? id with
  | none => simp [removeEdge, Graph.removeEdge, on_bind, h]
  | some e => simp [removeEdge, Graph.removeEdge, on_bind, Except.map, h]

/-- Put in all nodes in turn, then all edges in turn. What has been put in before the first that is
refused stays. -/
def insertSaved (saved : SavedGraph) : Procedure Graph Unit := do
  saved.nodes.forM fun n => discard <| insertNode n.toNode
  saved.edges.forM fun e => discard <| insertEdge e.toEdge

/-- It would not do to put a saved graph into the one on a canvas. -/
theorem insertSaved_not_atomic (n : SavedNode) : ¬ (insertSaved ⟨[n, n], []⟩).Atomic := by
  intro h
  have hleft : (insertSaved ⟨[n, n], []⟩).on Graph.empty =
      some (.error (.duplicateNode n.id), { nodes := [n.toNode] }) := by
    have hid : n.toNode.id = n.id := rfl
    simp [insertSaved, on_bind, insertNode_on, Graph.insertNode, contains, Graph.empty, Except.map,
      hid]
  have hempty := congrArg Graph.nodes (h _ _ _ hleft)
  cases hempty

theorem finish_insertSaved (saved : SavedGraph) :
    (insertSaved saved).finish Graph.empty = some (Graph.load saved) := by
  have hnode (n : SavedNode) (g : Graph) : (discard (insertNode n.toNode)).finish g =
      some (g.insertNode n.toNode) := by
    rw [finish_discard, finish_settled (insertNode_on n.toNode g)]
    cases g.insertNode n.toNode <;> rfl
  have hedge (e : SavedEdge) (g : Graph) : (discard (insertEdge e.toEdge)).finish g =
      some (g.insertEdge e.toEdge) := by
    rw [finish_discard, finish_settled (insertEdge_on e.toEdge g)]
    cases g.insertEdge e.toEdge <;> rfl
  rw [insertSaved, finish_bind, finish_forM hnode, Graph.load]
  cases saved.nodes.foldlM (fun g n => g.insertNode n.toNode) Graph.empty with
  | error e => rfl
  | ok g => exact finish_forM hedge saved.edges g

end InPlace

namespace Operation
open Procedure
variable {α : Type}

def procedure : Operation α → Procedure Graph α
  | insertNode n => InPlace.insertNode n
  | insertEdge e => InPlace.insertEdge e
  | removeNode id => InPlace.removeNode id
  | removeEdge id => InPlace.removeEdge id

def outcome : Operation α → Graph → Except WorkflowError (α × Graph)
  | insertNode n, g => (g.insertNode n).map fun h => (n.id, h)
  | insertEdge e, g => (g.insertEdge e).map fun h => (e.id, h)
  | removeNode id, g => (g.removeNode id).map fun x => ((x.node, x.edges), x.rest)
  | removeEdge id, g => g.removeEdge id

theorem procedure_atomic (op : Operation α) : op.procedure.Atomic := by
  cases op with
  | insertNode n => exact InPlace.insertNode_atomic n
  | insertEdge e => exact InPlace.insertEdge_atomic e
  | removeNode id => exact InPlace.removeNode_atomic id
  | removeEdge id => exact InPlace.removeEdge_atomic id

/-- An operation in place has the outcome of the operation as a function. -/
theorem procedure_on (op : Operation α) (g : Graph) :
    op.procedure.on g = some (settled g (op.outcome g)) := by
  cases op with
  | insertNode n => exact InPlace.insertNode_on n g
  | insertEdge e => exact InPlace.insertEdge_on e g
  | removeNode id => exact InPlace.removeNode_on id g
  | removeEdge id => exact InPlace.removeEdge_on id g

end Operation
end Graph
end WorkflowCanvas
