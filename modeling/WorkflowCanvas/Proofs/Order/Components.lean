import WorkflowCanvas.Proofs.Order.Cycles
import Mathlib.Data.List.Lex
import Mathlib.Data.List.Sort

/-! The cycles of a plan from a decomposition of the graph into strongly connected components. Those that
hold a cycle are sorted, so that it makes no difference in which order the components and their members
have been found. -/
namespace WorkflowCanvas.Graph
open Relation
variable {g : Graph} {id other : String} {part members : List String} {parts : List (List String)}

/-- The strongly connected components of a graph, in any order, with their members in any order. -/
structure Decomposition (g : Graph) (parts : List (List String)) : Prop where
  nodes : parts.flatten.Perm g.nodeIds
  nonempty : ∀ part ∈ parts, part ≠ []
  connected : ∀ part ∈ parts, ∀ id ∈ part, ∀ other ∈ g.nodeIds, other ∈ part ↔ g.Connected id other

/-- Whether a component holds a cycle: it has two members, or its only one leads to itself. -/
def holdsCycle (g : Graph) : List String → Bool
  | [] => false
  | [id] => (g.successors id).contains id
  | _ :: _ :: _ => true

/-- The places of nodes in insertion order, the least first. -/
def places (g : Graph) (part : List String) : List Nat := (part.map g.nodeIds.idxOf).mergeSort

/-- The components that hold a cycle, sorted by the places of their members. -/
def sortedCycles (g : Graph) (parts : List (List String)) : List (List String) :=
  ((parts.filter g.holdsCycle).map g.places).mergeSort.map fun part =>
    part.filterMap (g.nodeIds[·]?)

/-! ### One component -/

theorem holdsCycle_iff (g : Graph) (part : List String) :
    g.holdsCycle part = true ↔ g.Cyclic part := by
  match part with
  | [] => simp [holdsCycle, Cyclic]
  | [id] => simp [holdsCycle, Cyclic, mem_successors]
  | _ :: _ :: _ => simp [holdsCycle, Cyclic]

theorem Cyclic.perm (h : g.Cyclic part) (hperm : part.Perm members) : g.Cyclic members := by
  obtain hlength | ⟨id, rfl, hlead⟩ := h
  · exact .inl (hperm.length_eq ▸ hlength)
  · exact .inr ⟨id, List.perm_singleton.mp hperm.symm, hlead⟩

/-- Places are sorted as the nodes are in insertion order. -/
theorem Linked.places_eq (hg : g.Linked) (hperm : part.Perm members)
    (hsub : members.Sublist g.nodeIds) : g.places part = members.map g.nodeIds.idxOf := by
  have hsorted : (members.map g.nodeIds.idxOf).Pairwise (· ≤ ·) := by
    rw [List.pairwise_map]
    exact ((pairwise_idxOf hg.nodes_nodup).sublist hsub).imp Nat.le_of_lt
  exact ((List.mergeSort_perm _ _).trans (hperm.map _)).eq_of_pairwise'
    (List.pairwise_mergeSort' (· ≤ ·) _) hsorted

/-- The nodes at the places of some nodes are those nodes. -/
theorem filterMap_places (h : members ⊆ g.nodeIds) :
    (members.map g.nodeIds.idxOf).filterMap (g.nodeIds[·]?) = members := by
  rw [List.filterMap_map]
  refine (List.filterMap_congr fun id hid => ?_).trans (List.filterMap_some)
  exact List.getElem?_idxOf (h hid)

namespace Decomposition

theorem subset (h : g.Decomposition parts) (hpart : part ∈ parts) : part ⊆ g.nodeIds := fun _ hid =>
  h.nodes.mem_iff.mp (List.mem_flatten.mpr ⟨part, hpart, hid⟩)

theorem nodup (h : g.Decomposition parts) (hg : g.Linked) : parts.flatten.Nodup :=
  h.nodes.nodup_iff.mpr hg.nodes_nodup

/-- A part is, in some order, the component of each of its members. -/
theorem component (h : g.Decomposition parts) (hg : g.Linked) (hpart : part ∈ parts) :
    ∃ members, part.Perm members ∧ g.Component members := by
  have hmem : ∀ id, id ∈ g.nodeIds.filter (part.contains ·) ↔ id ∈ part := by
    intro id
    simpa using fun hid => h.subset hpart hid
  have hperm : part.Perm (g.nodeIds.filter (part.contains ·)) :=
    (List.perm_ext_iff_of_nodup ((List.nodup_flatten.mp (h.nodup hg)).1 part hpart)
      (hg.nodes_nodup.filter _)).mpr fun id => (hmem id).symm
  refine ⟨_, hperm, List.filter_sublist, fun hnil => ?_, fun id hid other => ?_⟩
  · exact h.nonempty part hpart (List.perm_nil.mp (hnil ▸ hperm))
  · rw [hmem] at hid ⊢
    have hnode : g.Connected id other → other ∈ g.nodeIds := fun hpath =>
      hg.mem_of_reaches hpath.1 (h.subset hpart hid)
    exact ⟨fun hother => (h.connected part hpart id hid other (h.subset hpart hother)).mp hother,
      fun hpath => (h.connected part hpart id hid other (hnode hpath)).mpr hpath⟩

theorem disjoint (h : g.Decomposition parts) (hg : g.Linked) : parts.Pairwise List.Disjoint :=
  (List.nodup_flatten.mp (h.nodup hg)).2

end Decomposition

/-- A node has one component. -/
theorem Component.eq_of_mem {ids : List String} (h : g.Component members) (hg : g.Linked)
    (hids : g.Component ids) (hid : id ∈ members) (hid' : id ∈ ids) : members = ids :=
  hg.eq_of_sublist h.sublist hids.sublist fun other =>
    (h.mem_iff id hid other).trans (hids.mem_iff id hid' other).symm

/-! ### All components -/

/-- The places of the cycles ascend from list to list, as those of their first nodes do. -/
theorem Linked.cycles_ascending (hg : g.Linked) :
    (g.plan.cycles.map (·.map g.nodeIds.idxOf)).Pairwise (· < ·) := by
  rw [List.pairwise_map]
  refine (plan_cycles_sorted hg).imp_of_mem fun {c d} hc hd hlt => ?_
  obtain ⟨a, c, rfl⟩ := List.exists_cons_of_ne_nil (hg.mem_plan_cycles.mp hc).1.nonempty
  obtain ⟨b, d, rfl⟩ := List.exists_cons_of_ne_nil (hg.mem_plan_cycles.mp hd).1.nonempty
  exact List.cons_lt_cons_iff.mpr (.inl (hlt a rfl b rfl))

namespace Decomposition

/-- The parts that hold a cycle are the cycles of the plan. -/
theorem mem_places_iff (h : g.Decomposition parts) (hg : g.Linked) (spots : List Nat) :
    spots ∈ (parts.filter g.holdsCycle).map g.places ↔
      spots ∈ g.plan.cycles.map (·.map g.nodeIds.idxOf) := by
  simp only [List.mem_map, List.mem_filter, holdsCycle_iff, hg.mem_plan_cycles]
  constructor
  · rintro ⟨part, ⟨hpart, hcyclic⟩, rfl⟩
    obtain ⟨members, hperm, hcomponent⟩ := h.component hg hpart
    exact ⟨members, ⟨hcomponent, hcyclic.perm hperm⟩, (hg.places_eq hperm hcomponent.sublist).symm⟩
  · rintro ⟨members, ⟨hcomponent, hcyclic⟩, rfl⟩
    obtain ⟨id, hid⟩ := List.exists_mem_of_ne_nil _ hcomponent.nonempty
    obtain ⟨part, hpart, hmem⟩ :=
      List.mem_flatten.mp (h.nodes.mem_iff.mpr (hcomponent.sublist.subset hid))
    obtain ⟨found, hperm, hfound⟩ := h.component hg hpart
    obtain rfl := hfound.eq_of_mem hg hcomponent (hperm.mem_iff.mp hmem) hid
    exact ⟨part, ⟨hpart, hcyclic.perm hperm.symm⟩, hg.places_eq hperm hcomponent.sublist⟩

/-- No two parts have the same places. -/
theorem places_nodup (h : g.Decomposition parts) (hg : g.Linked) : (parts.map g.places).Nodup := by
  refine List.pairwise_map.mpr ((h.disjoint hg).imp_of_mem fun {p q} hp hq hdisjoint heq => ?_)
  obtain ⟨id, hid⟩ := List.exists_mem_of_ne_nil _ (h.nonempty p hp)
  have hplace : g.nodeIds.idxOf id ∈ g.places q :=
    heq ▸ (List.mergeSort_perm _ _).mem_iff.mpr (List.mem_map_of_mem hid)
  obtain ⟨other, hother, hsame⟩ := List.mem_map.mp ((List.mergeSort_perm _ _).mem_iff.mp hplace)
  obtain rfl := (List.idxOf_inj (h.subset hq hother)).mp hsame
  exact hdisjoint hid hother

/-- Whatever decomposition into components is sorted, its cycles are those of the plan. -/
theorem sortedCycles_eq (h : g.Decomposition parts) (hg : g.Linked) :
    g.sortedCycles parts = g.plan.cycles := by
  have hascending := hg.cycles_ascending
  have hperm : ((parts.filter g.holdsCycle).map g.places).Perm
      (g.plan.cycles.map (·.map g.nodeIds.idxOf)) :=
    (List.perm_ext_iff_of_nodup ((h.places_nodup hg).sublist (List.filter_sublist.map _))
      (hascending.imp ne_of_lt)).mpr (h.mem_places_iff hg)
  have hsorted : ((parts.filter g.holdsCycle).map g.places).mergeSort =
      g.plan.cycles.map (·.map g.nodeIds.idxOf) :=
    ((List.mergeSort_perm _ _).trans hperm).eq_of_pairwise' (List.pairwise_mergeSort' (· ≤ ·) _)
      (hascending.imp le_of_lt)
  have hback : ∀ members ∈ g.plan.cycles,
      (members.map g.nodeIds.idxOf).filterMap (g.nodeIds[·]?) = members := by
    intro members hmembers
    exact filterMap_places (hg.mem_plan_cycles.mp hmembers).1.sublist.subset
  rw [sortedCycles, hsorted, List.map_map]
  exact (List.map_congr_left hback).trans (List.map_id _)

/-- The search for components may be left out if no node is blocked. -/
theorem plan_cycles_eq (h : g.Decomposition parts) (hg : g.Linked) :
    (if g.plan.complete then [] else g.sortedCycles parts) = g.plan.cycles := by
  split
  · next hcomplete =>
    rw [Graph.plan_cycles_eq hg, List.isEmpty_iff.mp hcomplete]
    rfl
  · exact h.sortedCycles_eq hg

end Decomposition

/-! ### A decomposition -/

/-- The nodes that are connected with a node, which is one of them. -/
def componentOf (g : Graph) (id : String) : List String :=
  g.nodeIds.filter fun other => other == id || (g.cycleOf id).contains other

/-- The components of the nodes, each once. -/
def components (g : Graph) : List (List String) := (g.nodeIds.map g.componentOf).eraseDups

theorem Linked.mem_componentOf (hg : g.Linked) (hid : id ∈ g.nodeIds) :
    other ∈ g.componentOf id ↔ g.Connected id other := by
  have hnode : g.Connected id other → other ∈ g.nodeIds := fun h => hg.mem_of_reaches h.1 hid
  have hequal : other = id ∨ other ∈ g.cycleOf id ↔ g.Connected id other := by
    rw [hg.mem_cycleOf, Connected]
    constructor
    · rintro (rfl | ⟨hahead, hback⟩)
      · exact ⟨.refl, .refl⟩
      · exact ⟨hahead.to_reflTransGen, hback.to_reflTransGen⟩
    · rintro ⟨hahead, hback⟩
      obtain rfl | hahead := reflTransGen_iff_eq_or_transGen.mp hahead
      · exact .inl rfl
      · obtain rfl | hback := reflTransGen_iff_eq_or_transGen.mp hback
        · exact .inl rfl
        · exact .inr ⟨hahead, hback⟩
  simp only [componentOf, List.mem_filter, Bool.or_eq_true, beq_iff_eq, List.contains_iff_mem, hequal]
  exact and_iff_right_of_imp hnode

theorem Linked.componentOf_eq (hg : g.Linked) (hid : id ∈ g.nodeIds) (h : other ∈ g.componentOf id) :
    g.componentOf other = g.componentOf id := by
  obtain ⟨hahead, hback⟩ := (hg.mem_componentOf hid).mp h
  refine hg.eq_of_sublist List.filter_sublist List.filter_sublist fun x => ?_
  show x ∈ g.componentOf other ↔ x ∈ g.componentOf id
  rw [hg.mem_componentOf hid, hg.mem_componentOf (hg.mem_of_reaches hahead hid)]
  exact ⟨fun hx => ⟨hahead.trans hx.1, hx.2.trans hback⟩, fun hx => ⟨hback.trans hx.1, hx.2.trans hahead⟩⟩

theorem mem_components : part ∈ g.components ↔ ∃ id ∈ g.nodeIds, g.componentOf id = part := by
  rw [components, List.mem_eraseDups, List.mem_map]

theorem Linked.decomposition_components (hg : g.Linked) : g.Decomposition g.components := by
  have hself : ∀ id ∈ g.nodeIds, id ∈ g.componentOf id := fun id hid =>
    (hg.mem_componentOf hid).mpr ⟨.refl, .refl⟩
  have hdisjoint : g.components.Pairwise List.Disjoint := by
    have hnodup : g.components.Nodup := nodup_eraseDups _
    refine hnodup.imp_of_mem fun {p q} hp hq hne x hxp hxq => hne ?_
    obtain ⟨a, ha, rfl⟩ := mem_components.mp hp
    obtain ⟨b, hb, rfl⟩ := mem_components.mp hq
    rw [← hg.componentOf_eq ha hxp, ← hg.componentOf_eq hb hxq]
  refine ⟨?_, fun part hpart hnil => ?_, fun part hpart id hid other hother => ?_⟩
  · have hnodup : g.components.flatten.Nodup := by
      refine List.nodup_flatten.mpr ⟨fun part hpart => ?_, hdisjoint⟩
      obtain ⟨id, -, rfl⟩ := mem_components.mp hpart
      exact hg.nodes_nodup.filter _
    refine (List.perm_ext_iff_of_nodup hnodup hg.nodes_nodup).mpr fun id => ?_
    rw [List.mem_flatten]
    constructor
    · rintro ⟨part, hpart, hid⟩
      obtain ⟨first, -, rfl⟩ := mem_components.mp hpart
      exact (List.mem_filter.mp hid).1
    · intro hid
      exact ⟨_, mem_components.mpr ⟨id, hid, rfl⟩, hself id hid⟩
  · obtain ⟨id, hid, rfl⟩ := mem_components.mp hpart
    simpa [hnil] using hself id hid
  · obtain ⟨first, hfirst, rfl⟩ := mem_components.mp hpart
    rw [← hg.componentOf_eq hfirst hid]
    exact hg.mem_componentOf (hg.mem_of_reaches ((hg.mem_componentOf hfirst).mp hid).1 hfirst)

end WorkflowCanvas.Graph
