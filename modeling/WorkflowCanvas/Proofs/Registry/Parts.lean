import WorkflowCanvas.Proofs.Registry.Calls

/-! Registries in parts: a table of the definitions by type, the types in the order in which they were
first registered, and for each type those that its nodes may be connected to. The parts stay in step, and
they answer every query as the registry does that keeps all definitions in one list. -/
namespace WorkflowCanvas.Registry
variable {r : Registry}

/-- The definitions of a registry are those of its types, in the same order. -/
theorem definitions_eq (hr : r.types.Nodup) : r.definitions = r.types.filterMap r.get? := by
  have hfound : ∀ d ∈ r.definitions, r.get? d.type = some d := fun d hd =>
    (KeyMap.find?_key_eq_some_iff hr).mpr ⟨hd, rfl⟩
  rw [types, List.filterMap_map]
  exact ((List.filterMap_congr hfound).trans List.filterMap_some).symm

/-- A registry whose definitions, types and connections are kept apart. -/
structure Parts where
  definitions : KeyMap Definition := []
  order : List String := []
  connections : KeyMap (List String) := []

namespace Parts

def get? (p : Parts) (type : String) : Option Definition := p.definitions.get? type

def contains (p : Parts) (type : String) : Bool := (p.get? type).isSome

def register (p : Parts) (d : Definition) : Parts :=
  { p with
    order := if p.contains d.type then p.order else p.order ++ [d.type]
    definitions := p.definitions.insert d.type d }

/-- The types that nodes of a type may be connected to. -/
def connected (p : Parts) (source : String) : List String := (p.connections.get? source).getD []

def allow (p : Parts) (source target : String) : Parts :=
  let old := p.connected source
  let new := if old.contains target then old else old ++ [target]
  { p with connections := p.connections.insert source new }

/-- The definitions in the order of their types. -/
def listed (p : Parts) : List Definition := p.order.filterMap p.get?

def canConnect (p : Parts) (source target : String) : Bool :=
  p.contains source && p.contains target && (p.connected source).contains target

/-- The answers of a registry in parts. -/
def answer {α : Type} (p : Parts) : Query α → α
  | .types => p.order
  | .definitions => p.listed
  | .definition type => p.get? type
  | .contains type => p.contains type
  | .categories => p.listed.foldl
      (fun seen d => if seen.contains d.category then seen else seen ++ [d.category]) []
  | .byCategory category => p.listed.filter (·.category == category)
  | .defaultConfig type => (p.get? type).map (·.defaultConfig)
  | .mockOutput type => (p.get? type).bind (·.mockOutput)
  | .canConnect source target => p.canConnect source target
  | .targets source => p.order.filter (p.canConnect source)

/-- What a call does to the parts. -/
def apply (p : Parts) (c : Call) : Parts :=
  c.allowed.foldl (fun p pair => p.allow pair.1 pair.2) (c.registered.foldl register p)

/-- The parts after some calls. -/
def after (p : Parts) (calls : List Call) : Parts := calls.foldl apply p

/-- The parts are those of a registry. -/
structure Of (p : Parts) (r : Registry) : Prop where
  types_nodup : r.types.Nodup
  order_eq : p.order = r.types
  get?_eq : ∀ type, p.get? type = r.get? type
  connected_iff : ∀ source target, target ∈ p.connected source ↔ (source, target) ∈ r.allowed

variable {p : Parts}

/-- The order lists the keys of the table, each once. -/
theorem Of.inStep (h : p.Of r) : p.order.Nodup ∧ ∀ type, type ∈ p.order ↔ (p.get? type).isSome = true := by
  refine ⟨h.order_eq ▸ h.types_nodup, fun type => ?_⟩
  rw [h.order_eq, h.get?_eq, r.get?_isSome_iff_mem]

theorem Of.contains_eq (h : p.Of r) (type : String) : p.contains type = r.contains type := by
  rw [Bool.eq_iff_iff, contains, h.get?_eq, r.get?_isSome_iff_mem, r.contains_iff]

theorem Of.listed_eq (h : p.Of r) : p.listed = r.definitions := by
  rw [listed, definitions_eq h.types_nodup, h.order_eq, funext h.get?_eq]

theorem Of.canConnect_eq (h : p.Of r) : p.canConnect = r.canConnect := by
  funext source target
  have hconnected : (p.connected source).contains target = r.allowed.contains (source, target) := by
    rw [Bool.eq_iff_iff, List.contains_iff_mem, List.contains_iff_mem, h.connected_iff]
  rw [canConnect, Registry.canConnect, h.contains_eq, h.contains_eq, hconnected]

/-- Whatever is asked, the parts answer as the registry does. -/
theorem Of.answer_eq (h : p.Of r) {α : Type} (q : Query α) : p.answer q = q.answer r := by
  cases q with
  | types => exact h.order_eq
  | definitions => exact h.listed_eq
  | definition type => exact h.get?_eq type
  | contains type => exact h.contains_eq type
  | categories => simp only [answer, Query.answer, Registry.categories, h.listed_eq]
  | byCategory category => simp only [answer, Query.answer, Registry.byCategory, h.listed_eq]
  | defaultConfig type => simp only [answer, Query.answer, Registry.defaultConfig?, h.get?_eq]
  | mockOutput type => simp only [answer, Query.answer, Registry.mockOutput?, h.get?_eq]
  | canConnect source target => simp only [answer, Query.answer, h.canConnect_eq]
  | targets source => simp only [answer, Query.answer, Registry.targets, h.canConnect_eq, h.order_eq]

/-! ### Calls -/

theorem empty_of : ({} : Parts).Of .empty :=
  ⟨List.nodup_nil, rfl, fun _ => rfl, fun _ _ => by simp [connected, KeyMap.get?, empty]⟩

theorem Of.register (h : p.Of r) (d : Definition) : (p.register d).Of (r.register d) where
  types_nodup := by
    rw [types_register]
    split
    · exact h.types_nodup
    · next hnew =>
      rw [← List.concat_eq_append]
      exact h.types_nodup.concat (by simpa using hnew)
  order_eq := by
    have hcontains : p.contains d.type = r.types.contains d.type := by
      rw [h.contains_eq, Bool.eq_iff_iff, r.contains_iff, List.contains_iff_mem]
    simp only [Parts.register, types_register, hcontains, h.order_eq]
  get?_eq type := by
    have hold : KeyMap.get? p.definitions type = r.get? type := h.get?_eq type
    rw [Parts.get?, Parts.register, KeyMap.get?_insert, hold]
    by_cases htype : type = d.type
    · rw [if_pos htype, htype, get?_register_self]
    · rw [if_neg htype, get?_register_of_ne r (Ne.symm htype)]
  connected_iff source target := by
    rw [allowed_register]
    exact h.connected_iff source target

theorem connected_allow (p : Parts) (source target other x : String) :
    x ∈ (p.allow source target).connected other ↔
      x ∈ p.connected other ∨ (other, x) = (source, target) := by
  rw [connected, allow, KeyMap.get?_insert]
  by_cases hother : other = source
  · subst hother
    rw [if_pos rfl, Option.getD_some, Prod.mk.injEq]
    split
    · next hold =>
      have hmem : target ∈ p.connected other := List.contains_iff_mem.mp hold
      exact ⟨.inl, fun hx => hx.elim id fun heq => heq.2 ▸ hmem⟩
    · simp
  · simp [hother, connected]

theorem Of.allow (h : p.Of r) (source target : String) :
    (p.allow source target).Of (r.allow source target) where
  types_nodup := h.types_nodup
  order_eq := h.order_eq
  get?_eq := h.get?_eq
  connected_iff other x := by rw [connected_allow, mem_allowed_allow, h.connected_iff]

theorem Of.registered (h : p.Of r) (ds : List Definition) :
    (ds.foldl Parts.register p).Of (ds.foldl Registry.register r) := by
  induction ds generalizing p r with
  | nil => exact h
  | cons d ds ih => exact ih (h.register d)

theorem Of.allowed (h : p.Of r) (connections : List (String × String)) :
    (connections.foldl (fun p pair => p.allow pair.1 pair.2) p).Of (r.allowEach connections) := by
  induction connections generalizing p r with
  | nil => exact h
  | cons pair connections ih => exact ih (h.allow pair.1 pair.2)

theorem Of.apply (h : p.Of r) (c : Call) : (p.apply c).Of (c.apply r) := by
  rw [c.apply_eq]
  exact (h.registered c.registered).allowed c.allowed

theorem Of.after (h : p.Of r) (calls : List Call) : (p.after calls).Of (r.after calls) := by
  induction calls generalizing p r with
  | nil => exact h
  | cons c calls ih => exact ih (h.apply c)

/-- After any calls the parts are in step, and every query has the answer of the registry. -/
theorem after_outcome (calls : List Call) :
    ((({} : Parts).after calls).order.Nodup ∧ ∀ type, type ∈ (({} : Parts).after calls).order ↔
      ((({} : Parts).after calls).get? type).isSome = true) ∧
    ∀ {α : Type} (q : Query α), (({} : Parts).after calls).answer q = q.answer (empty.after calls) :=
  ⟨(empty_of.after calls).inStep, fun q => (empty_of.after calls).answer_eq q⟩

end Parts
end WorkflowCanvas.Registry
