import WorkflowCanvas.Proofs.Order.Release

/-! The cycles of a plan are the strongly connected components of the graph that hold a cycle. Each is
found by two searches, forward and backward, from its first node. -/
namespace WorkflowCanvas.Graph
open Relation

/-! ### Searches -/

section Closure
variable {next : String → List String} {all : List String}

theorem nodup_eraseDups {α : Type} [BEq α] [LawfulBEq α] (ids : List α) : ids.eraseDups.Nodup := by
  cases ids with
  | nil => exact List.nodup_nil
  | cons id ids =>
    rw [List.eraseDups_cons, List.nodup_cons]
    exact ⟨by simp, nodup_eraseDups _⟩
termination_by ids.length
decreasing_by exact Nat.lt_succ_of_le (List.length_filter_le _ _)

/-- What a search finds lies behind the nodes that it starts from. -/
theorem closure_sound (fuel : Nat) (todo seen : List String) {x : String}
    (h : x ∈ closure next fuel todo seen) :
    x ∈ seen ∨ ∃ id ∈ todo, TransGen (fun a b => b ∈ next a) id x := by
  fun_induction closure next fuel todo seen with
  | case1 => exact .inl h
  | case2 => exact .inl h
  | case3 fuel id todo seen found ih =>
    have hfound : ∀ other ∈ found, other ∈ next id := by
      intro other hother
      exact List.mem_eraseDups.mp (List.mem_filter.mp hother).1
    obtain hx | ⟨other, hother, hpath⟩ := ih h
    · obtain hx | hx := List.mem_append.mp hx
      · exact .inl hx
      · exact .inr ⟨id, List.mem_cons_self, .single (hfound x hx)⟩
    · obtain hother | hother := List.mem_append.mp hother
      · exact .inr ⟨other, List.mem_cons_of_mem id hother, hpath⟩
      · exact .inr ⟨id, List.mem_cons_self, .head (hfound other hother) hpath⟩

/-- A search with enough fuel leaves no node out: every node is put on the list at most once, so that
the list is empty in the end. -/
theorem closure_complete (hnext : ∀ id, next id ⊆ all) (fuel : Nat) (todo seen : List String)
    (hnd : seen.Nodup) (hseen : seen ⊆ all) (hfuel : todo.length + all.length ≤ fuel + seen.length) :
    seen ⊆ closure next fuel todo seen ∧
    (∀ id ∈ todo, next id ⊆ closure next fuel todo seen) ∧
    ∀ id ∈ closure next fuel todo seen, id ∈ seen ∨ next id ⊆ closure next fuel todo seen := by
  have hle := (List.subperm_of_subset hnd hseen).length_le
  fun_induction closure next fuel todo seen with
  | case1 todo seen =>
    obtain rfl : todo = [] := List.eq_nil_of_length_eq_zero (by omega)
    exact ⟨fun _ h => h, by simp, fun _ h => .inl h⟩
  | case2 => exact ⟨fun _ h => h, by simp, fun _ h => .inl h⟩
  | case3 fuel id todo seen found ih =>
    have hnew : ∀ other, other ∈ found ↔ other ∈ next id ∧ other ∉ seen := by
      intro other
      simp [found, List.mem_eraseDups]
    have hnd' : (seen ++ found).Nodup := by
      refine List.nodup_append.mpr ⟨hnd, (nodup_eraseDups _).filter _, ?_⟩
      intro a ha b hb hab
      exact ((hnew b).mp hb).2 (hab ▸ ha)
    have hseen' : seen ++ found ⊆ all := by
      refine List.append_subset.mpr ⟨hseen, fun other hother => ?_⟩
      exact hnext id ((hnew other).mp hother).1
    obtain ⟨hold, htodo, hclosed⟩ := ih hnd' hseen'
      (by simp only [List.length_append, List.length_cons] at hfuel ⊢; omega)
      (List.subperm_of_subset hnd' hseen').length_le
    refine ⟨fun other hother => hold (List.mem_append_left found hother), ?_, fun other hother => ?_⟩
    · intro other hother
      obtain rfl | hother := List.mem_cons.mp hother
      · intro x hx
        by_cases hxseen : x ∈ seen
        · exact hold (List.mem_append_left found hxseen)
        · exact hold (List.mem_append_right seen ((hnew x).mpr ⟨hx, hxseen⟩))
      · exact htodo other (List.mem_append_left found hother)
    · obtain hother | hother := hclosed other hother
      · obtain hother | hother := List.mem_append.mp hother
        · exact .inl hother
        · exact .inr (htodo other (List.mem_append_right todo hother))
      · exact .inr hother

/-- A search from one node finds what paths of at least one step lead to. -/
theorem mem_closure_iff (hnext : ∀ id, next id ⊆ all) (id x : String) :
    x ∈ closure next (all.length + 1) [id] [] ↔ TransGen (fun a b => b ∈ next a) id x := by
  constructor
  · intro h
    obtain h | ⟨start, hstart, hpath⟩ := closure_sound _ _ _ h
    · cases h
    · rwa [List.mem_singleton.mp hstart] at hpath
  · intro h
    obtain ⟨-, hstart, hclosed⟩ := closure_complete hnext (all.length + 1) [id] [] List.nodup_nil
      (List.nil_subset all) (by simp [Nat.add_comm])
    induction h with
    | single hstep => exact hstart id List.mem_cons_self hstep
    | tail _ hstep ih => exact (hclosed _ ih).resolve_left List.not_mem_nil hstep

end Closure

/-! ### Components -/

variable {g : Graph} {id other : String} {members : List String}

/-- Two nodes of which each can be reached from the other. -/
def Connected (g : Graph) (a b : String) : Prop :=
  ReflTransGen g.Leads a b ∧ ReflTransGen g.Leads b a

/-- The members of a strongly connected component, in insertion order. -/
structure Component (g : Graph) (members : List String) : Prop where
  sublist : members.Sublist g.nodeIds
  nonempty : members ≠ []
  mem_iff : ∀ id ∈ members, ∀ other, other ∈ members ↔ g.Connected id other

/-- A component with a cycle in it: it has two members, or one that leads to itself. -/
def Cyclic (g : Graph) (members : List String) : Prop :=
  2 ≤ members.length ∨ ∃ id, members = [id] ∧ g.Leads id id

theorem mem_successors (g : Graph) (a b : String) : b ∈ g.successors a ↔ g.Leads a b := by
  simp [successors, outgoing, Leads, and_assoc]

theorem mem_sources (g : Graph) (a b : String) : a ∈ g.sources b ↔ g.Leads a b := by
  simp only [sources, incoming, Leads, List.mem_map, List.mem_filter, beq_iff_eq]
  constructor
  · rintro ⟨e, ⟨he, htarget⟩, hsource⟩
    exact ⟨e, he, hsource, htarget⟩
  · rintro ⟨e, he, hsource, htarget⟩
    exact ⟨e, ⟨he, htarget⟩, hsource⟩

theorem Linked.mem_reachable (hg : g.Linked) (id other : String) :
    other ∈ g.reachable id ↔ TransGen g.Leads id other := by
  have hnext : ∀ a, g.successors a ⊆ g.nodeIds := fun a b hb =>
    (hg.mem_of_leads ((g.mem_successors a b).mp hb)).2
  have hsearch := mem_closure_iff hnext id other
  rw [nodeIds, List.length_map] at hsearch
  simp only [mem_successors] at hsearch
  exact hsearch

theorem Linked.mem_reaching (hg : g.Linked) (id other : String) :
    other ∈ g.reaching id ↔ TransGen g.Leads other id := by
  have hnext : ∀ b, g.sources b ⊆ g.nodeIds := fun b a ha =>
    (hg.mem_of_leads ((g.mem_sources a b).mp ha)).1
  have hsearch := mem_closure_iff hnext id other
  rw [nodeIds, List.length_map] at hsearch
  simp only [mem_sources] at hsearch
  exact hsearch.trans transGen_swap

theorem Linked.mem_cycleOf (hg : g.Linked) (id other : String) :
    other ∈ g.cycleOf id ↔ TransGen g.Leads id other ∧ TransGen g.Leads other id := by
  have hnode : TransGen g.Leads id other → other ∈ g.nodeIds := by
    intro hpath
    obtain ⟨_, _, hlead⟩ := TransGen.tail'_iff.mp hpath
    exact (hg.mem_of_leads hlead).2
  simp only [cycleOf, List.mem_filter, Bool.and_eq_true, List.contains_iff_mem, hg.mem_reachable,
    hg.mem_reaching]
  exact and_iff_right_of_imp fun h => hnode h.1

theorem Linked.onCycle_of_mem_cycleOf (hg : g.Linked) (h : other ∈ g.cycleOf id) :
    g.OnCycle id ∧ g.OnCycle other :=
  have hpaths := (hg.mem_cycleOf id other).mp h
  ⟨hpaths.1.trans hpaths.2, hpaths.2.trans hpaths.1⟩

theorem Linked.mem_cycleOf_self (hg : g.Linked) : id ∈ g.cycleOf id ↔ g.OnCycle id :=
  (hg.mem_cycleOf id id).trans and_self_iff

theorem Linked.cycleOf_eq_nil_iff (hg : g.Linked) : g.cycleOf id = [] ↔ ¬g.OnCycle id := by
  rw [← hg.mem_cycleOf_self]
  constructor
  · intro h
    simp [h]
  · intro h
    by_contra hne
    obtain ⟨other, hother⟩ := List.exists_mem_of_ne_nil _ hne
    exact h (hg.mem_cycleOf_self.mpr (hg.onCycle_of_mem_cycleOf hother).1)

theorem cycleOf_sublist (g : Graph) (id : String) : (g.cycleOf id).Sublist g.nodeIds :=
  List.filter_sublist

/-- Lists in insertion order are equal if they have the same members. -/
theorem Linked.eq_of_sublist (hg : g.Linked) {ids : List String} (h : members.Sublist g.nodeIds)
    (hids : ids.Sublist g.nodeIds) (hmem : ∀ id, id ∈ members ↔ id ∈ ids) : members = ids :=
  (hg.nodes_nodup.perm_iff_eq_of_sublist h hids).mp <|
    (List.perm_ext_iff_of_nodup (h.nodup hg.nodes_nodup) (hids.nodup hg.nodes_nodup)).mpr hmem

theorem Linked.cycleOf_eq (hg : g.Linked) (h : other ∈ g.cycleOf id) :
    g.cycleOf other = g.cycleOf id := by
  obtain ⟨hahead, hbehind⟩ := (hg.mem_cycleOf id other).mp h
  refine hg.eq_of_sublist (g.cycleOf_sublist _) (g.cycleOf_sublist _) fun x => ?_
  rw [hg.mem_cycleOf, hg.mem_cycleOf]
  exact ⟨fun hx => ⟨hahead.trans hx.1, hx.2.trans hbehind⟩,
    fun hx => ⟨hbehind.trans hx.1, hx.2.trans hahead⟩⟩

/-- The nodes that lie with a node on a cycle are its component. -/
theorem Linked.component_cycleOf (hg : g.Linked) (h : g.OnCycle id) :
    g.Component (g.cycleOf id) where
  sublist := g.cycleOf_sublist id
  nonempty hnil := hg.cycleOf_eq_nil_iff.mp hnil h
  mem_iff a ha b := by
    obtain ⟨hahead, hbehind⟩ := (hg.mem_cycleOf id a).mp ha
    rw [hg.mem_cycleOf]
    exact ⟨fun hb => ⟨(hbehind.trans hb.1).to_reflTransGen, (hb.2.trans hahead).to_reflTransGen⟩,
      fun hb => ⟨hahead.trans_left hb.1, .trans_right hb.2 hbehind⟩⟩

theorem Linked.cyclic_cycleOf (hg : g.Linked) (h : g.OnCycle id) : g.Cyclic (g.cycleOf id) := by
  have hid : id ∈ g.cycleOf id := hg.mem_cycleOf_self.mpr h
  obtain hlength | hlength := Nat.lt_or_ge (g.cycleOf id).length 2
  · obtain ⟨x, hx⟩ : ∃ x, g.cycleOf id = [x] :=
      List.length_eq_one_iff.mp (by have := List.length_pos_of_mem hid; omega)
    obtain rfl : id = x := by simpa [hx] using hid
    -- The next node on the way round is a member too, so it is the only one.
    obtain ⟨next, hlead, hback⟩ := TransGen.head'_iff.mp h
    have hnext : next ∈ g.cycleOf id := (hg.mem_cycleOf id next).mpr ⟨.single hlead, .trans_right hback h⟩
    obtain rfl : next = id := by simpa [hx] using hnext
    exact .inr ⟨next, hx, hlead⟩
  · exact .inl hlength

theorem Component.onCycle (h : g.Component members) (hnd : members.Nodup) (hcyclic : g.Cyclic members) :
    ∃ id ∈ members, g.OnCycle id := by
  obtain hlength | ⟨id, rfl, hlead⟩ := hcyclic
  · obtain ⟨a, b, rest, rfl⟩ : ∃ a b rest, members = a :: b :: rest := by
      match members, hlength with
      | a :: b :: rest, _ => exact ⟨a, b, rest, rfl⟩
    have hne : b ≠ a := fun heq => (List.nodup_cons.mp hnd).1 (by simp [heq])
    obtain ⟨hahead, hback⟩ := (h.mem_iff a List.mem_cons_self b).mp (by simp)
    have hpath := (reflTransGen_iff_eq_or_transGen.mp hahead).resolve_left hne
    exact ⟨a, List.mem_cons_self, hpath.trans_left hback⟩
  · exact ⟨id, List.mem_cons_self, .single hlead⟩

/-- The components that hold a cycle are those of the nodes on a cycle. -/
theorem Linked.component_cyclic_iff (hg : g.Linked) :
    g.Component members ∧ g.Cyclic members ↔ ∃ id, g.OnCycle id ∧ members = g.cycleOf id := by
  constructor
  · rintro ⟨hcomponent, hcyclic⟩
    obtain ⟨id, hid, hcycle⟩ :=
      hcomponent.onCycle (hcomponent.sublist.nodup hg.nodes_nodup) hcyclic
    refine ⟨id, hcycle, hg.eq_of_sublist hcomponent.sublist (g.cycleOf_sublist id) fun other => ?_⟩
    rw [hcomponent.mem_iff id hid,
      (hg.component_cycleOf hcycle).mem_iff id (hg.mem_cycleOf_self.mpr hcycle)]
  · rintro ⟨id, hcycle, rfl⟩
    exact ⟨hg.component_cycleOf hcycle, hg.cyclic_cycleOf hcycle⟩

/-! ### The list of cycles -/

/-- The first of some nodes in insertion order comes first in its cycle, if they hold all of it. -/
theorem Linked.head?_cycleOf (hg : g.Linked) {ids : List String} (hids : (id :: ids).Sublist g.nodeIds)
    (hwhole : g.cycleOf id ⊆ id :: ids) (h : g.OnCycle id) : (g.cycleOf id).head? = some id := by
  have hfilter : g.cycleOf id = (id :: ids).filter (· ∈ g.cycleOf id) := by
    refine hg.eq_of_sublist (g.cycleOf_sublist id) (List.filter_sublist.trans hids) fun x => ?_
    rw [List.mem_filter, decide_eq_true_eq]
    exact (and_iff_right_of_imp fun hx => hwhole hx).symm
  rw [hfilter, List.filter_cons_of_pos (by simpa using hg.mem_cycleOf_self.mpr h)]
  rfl

/-- Nodes that hold all of their cycles still do when a whole cycle has been taken out. -/
theorem Linked.cycleOf_subset_filter (hg : g.Linked) {ids : List String}
    (hwhole : ∀ other ∈ ids, g.cycleOf other ⊆ id :: ids) (h : g.OnCycle id) :
    ∀ other ∈ ids.filter fun other => !(g.cycleOf id).contains other,
      g.cycleOf other ⊆ ids.filter fun other => !(g.cycleOf id).contains other := by
  intro other hother x hx
  obtain ⟨hids, hout⟩ : other ∈ ids ∧ other ∉ g.cycleOf id := by simpa using hother
  have hxout : x ∉ g.cycleOf id := by
    intro hxid
    have hback : other ∈ g.cycleOf x :=
      (hg.mem_cycleOf x other).mpr ((hg.mem_cycleOf other x).mp hx).symm
    exact hout (hg.cycleOf_eq hxid ▸ hback)
  have hxids : x ∈ ids := by
    obtain rfl | hxids := List.mem_cons.mp (hwhole other hids hx)
    · exact absurd (hg.mem_cycleOf_self.mpr h) hxout
    · exact hxids
  simpa using ⟨hxids, hxout⟩

/-- Among nodes in insertion order that hold all of their cycles, the cycles are those of the nodes
that come first in theirs. -/
theorem Linked.cyclesAmong_eq (hg : g.Linked) (fuel : Nat) (ids : List String)
    (hfuel : ids.length ≤ fuel) (hids : ids.Sublist g.nodeIds)
    (hwhole : ∀ id ∈ ids, g.cycleOf id ⊆ ids) :
    g.cyclesAmong fuel ids =
      (ids.filter fun id => (g.cycleOf id).head? = some id).map g.cycleOf := by
  fun_induction cyclesAmong g fuel ids with
  | case1 ids =>
    obtain rfl : ids = [] := List.eq_nil_of_length_eq_zero (by omega)
    rfl
  | case2 => rfl
  | case3 fuel id ids hnone ih =>
    have hrest : ∀ other ∈ ids, g.cycleOf other ⊆ ids := by
      intro other hother x hx
      obtain rfl | hx' := List.mem_cons.mp (hwhole other (List.mem_cons_of_mem id hother) hx)
      · exact absurd (hg.onCycle_of_mem_cycleOf hx).2 (hg.cycleOf_eq_nil_iff.mp hnone)
      · exact hx'
    have hlength : ids.length ≤ fuel := by simpa using hfuel
    rw [ih hlength ((List.sublist_cons_self id ids).trans hids) hrest, List.filter_cons_of_neg]
    simp [hnone]
  | case4 fuel id ids hsome ih =>
    have hcycle : g.OnCycle id := by
      by_contra h
      exact hsome (hg.cycleOf_eq_nil_iff.mpr h)
    have hhead : (g.cycleOf id).head? = some id :=
      hg.head?_cycleOf hids (hwhole id List.mem_cons_self) hcycle
    have hrest := hg.cycleOf_subset_filter
      (fun other hother => hwhole other (List.mem_cons_of_mem id hother)) hcycle
    have hlength : (ids.filter fun other => !(g.cycleOf id).contains other).length ≤ fuel :=
      (List.length_filter_le _ _).trans (by simpa using hfuel)
    have hsub : (ids.filter fun other => !(g.cycleOf id).contains other).Sublist g.nodeIds :=
      List.filter_sublist.trans ((List.sublist_cons_self id ids).trans hids)
    -- The other nodes of the cycle that has been found do not come first in it.
    have hnew : ∀ other ∈ ids, (g.cycleOf other).head? = some other → other ∉ g.cycleOf id := by
      intro other hother hfirst hmem
      rw [hg.cycleOf_eq hmem, hhead, Option.some.injEq] at hfirst
      exact (List.nodup_cons.mp (hids.nodup hg.nodes_nodup)).1 (hfirst ▸ hother)
    rw [ih hlength hsub hrest, List.filter_cons_of_pos (by simpa using hhead), List.map_cons,
      List.filter_filter]
    congr 2
    refine List.filter_congr fun other hother => ?_
    by_cases hfirst : (g.cycleOf other).head? = some other
    · simpa [hfirst] using hnew other hother hfirst
    · simp [hfirst]

theorem plan_cycles_eq (hg : g.Linked) : g.plan.cycles =
    (g.plan.blocked.filter fun id => (g.cycleOf id).head? = some id).map g.cycleOf := by
  refine hg.cyclesAmong_eq _ _ le_rfl ?_ fun id hid other hother => ?_
  · rw [show ((Walk.finish g).waiting.filter (·.2 > 0)).map (·.1) = g.plan.blocked from rfl,
      plan_blocked hg]
    exact List.filter_sublist
  · obtain ⟨hahead, -⟩ := (hg.mem_cycleOf id other).mp hother
    obtain ⟨c, hc, hpath⟩ := (mem_plan_blocked_iff hg id).mp hid
    exact (mem_plan_blocked_iff hg other).mpr ⟨c, hc, hpath.trans hahead.to_reflTransGen⟩

theorem mem_plan_cycles_iff (hg : g.Linked) :
    members ∈ g.plan.cycles ↔ ∃ id, g.OnCycle id ∧ members = g.cycleOf id := by
  rw [plan_cycles_eq hg, List.mem_map]
  constructor
  · rintro ⟨id, hid, rfl⟩
    have hhead : (g.cycleOf id).head? = some id := by simpa using (List.mem_filter.mp hid).2
    exact ⟨id, hg.mem_cycleOf_self.mp (List.mem_of_mem_head? hhead), rfl⟩
  · rintro ⟨id, hcycle, rfl⟩
    obtain ⟨first, rest, hfirst⟩ := List.exists_cons_of_ne_nil (hg.component_cycleOf hcycle).nonempty
    have hmem : first ∈ g.cycleOf id := by simp [hfirst]
    have heq := hg.cycleOf_eq hmem
    have hblocked : first ∈ g.plan.blocked :=
      (mem_plan_blocked_iff hg first).mpr ⟨first, (hg.onCycle_of_mem_cycleOf hmem).2, .refl⟩
    exact ⟨first, List.mem_filter.mpr ⟨hblocked, by simp [heq, hfirst]⟩, heq⟩

theorem Linked.mem_plan_cycles (hg : g.Linked) :
    members ∈ g.plan.cycles ↔ g.Component members ∧ g.Cyclic members :=
  (mem_plan_cycles_iff hg).trans hg.component_cyclic_iff.symm

/-- Cycles come in the order of their first nodes. -/
theorem plan_cycles_sorted (hg : g.Linked) : g.plan.cycles.Pairwise fun c d =>
    ∀ a ∈ c.head?, ∀ b ∈ d.head?, g.nodeIds.idxOf a < g.nodeIds.idxOf b := by
  have hsub : (g.plan.blocked.filter fun id => (g.cycleOf id).head? = some id).Sublist g.nodeIds := by
    rw [plan_blocked hg]
    exact List.filter_sublist.trans List.filter_sublist
  rw [plan_cycles_eq hg, List.pairwise_map]
  refine ((pairwise_idxOf hg.nodes_nodup).sublist hsub).imp_of_mem ?_
  intro x y hx hy hlt a ha b hb
  have hxhead : (g.cycleOf x).head? = some x := by simpa using (List.mem_filter.mp hx).2
  have hyhead : (g.cycleOf y).head? = some y := by simpa using (List.mem_filter.mp hy).2
  rw [hxhead, Option.mem_some_iff] at ha
  rw [hyhead, Option.mem_some_iff] at hb
  rwa [← ha, ← hb]

/-- A plan lists the strongly connected components that hold a cycle, each once, in the order of their
first members, and the members of each in insertion order. There are some if there are blocked nodes,
all their members are blocked, and every blocked node can be reached from one of them. -/
theorem plan_cycles (hg : g.Linked) :
    (∀ members, members ∈ g.plan.cycles ↔ g.Component members ∧ g.Cyclic members) ∧
    g.plan.cycles.Nodup ∧
    g.plan.cycles.Pairwise (fun c d =>
      ∀ a ∈ c.head?, ∀ b ∈ d.head?, g.nodeIds.idxOf a < g.nodeIds.idxOf b) ∧
    (g.plan.cycles = [] ↔ g.plan.blocked = []) ∧
    (∀ members ∈ g.plan.cycles, members ⊆ g.plan.blocked) ∧
    ∀ id ∈ g.plan.blocked, ∃ members ∈ g.plan.cycles, ∃ other ∈ members,
      ReflTransGen g.Leads other id := by
  have hcovers : ∀ id ∈ g.plan.blocked, ∃ members ∈ g.plan.cycles, ∃ other ∈ members,
      ReflTransGen g.Leads other id := by
    intro id hid
    obtain ⟨c, hc, hpath⟩ := (mem_plan_blocked_iff hg id).mp hid
    exact ⟨g.cycleOf c, (mem_plan_cycles_iff hg).mpr ⟨c, hc, rfl⟩, c, hg.mem_cycleOf_self.mpr hc, hpath⟩
  have hblocked : ∀ members ∈ g.plan.cycles, members ⊆ g.plan.blocked := by
    intro members hmembers other hother
    obtain ⟨id, -, rfl⟩ := (mem_plan_cycles_iff hg).mp hmembers
    exact (mem_plan_blocked_iff hg other).mpr ⟨other, (hg.onCycle_of_mem_cycleOf hother).2, .refl⟩
  refine ⟨fun members => hg.mem_plan_cycles, ?_, plan_cycles_sorted hg, ⟨fun hnil => ?_, fun hnil => ?_⟩, hblocked, hcovers⟩
  · refine (plan_cycles_sorted hg).imp_of_mem fun {c d} hc _ hlt heq => ?_
    obtain ⟨first, rest, rfl⟩ := List.exists_cons_of_ne_nil (hg.mem_plan_cycles.mp hc).1.nonempty
    exact lt_irrefl _ (hlt first rfl first (heq ▸ rfl))
  · refine List.eq_nil_iff_forall_not_mem.mpr fun id hid => ?_
    obtain ⟨members, hmembers, -⟩ := hcovers id hid
    simp [hnil] at hmembers
  · refine List.eq_nil_iff_forall_not_mem.mpr fun members hmembers => ?_
    obtain ⟨first, hfirst⟩ := List.exists_mem_of_ne_nil _ (hg.mem_plan_cycles.mp hmembers).1.nonempty
    simpa [hnil] using hblocked members hmembers hfirst

/-- Two cycles that share a node, with a loop at one of their nodes; a loop alone; and a cycle that the
first two feed, with a node behind it. -/
def knotted : Graph where
  nodes := [.fresh "behind" "output", .fresh "c" "action", .fresh "loop" "action",
    .fresh "e" "action", .fresh "b" "action", .fresh "a" "action", .fresh "d" "action",
    .fresh "root" "trigger"]
  edges := [⟨"0", "a", "b", none, none, false⟩, ⟨"1", "b", "a", none, none, false⟩,
    ⟨"2", "b", "c", none, none, false⟩, ⟨"3", "c", "b", none, none, false⟩,
    ⟨"4", "c", "c", none, none, false⟩, ⟨"5", "loop", "loop", none, none, false⟩,
    ⟨"6", "a", "d", none, none, false⟩, ⟨"7", "d", "e", none, none, false⟩,
    ⟨"8", "e", "d", none, none, false⟩, ⟨"9", "e", "behind", none, none, false⟩,
    ⟨"10", "root", "a", none, none, false⟩]

theorem plan_cycles_knotted : knotted.Linked ∧
    knotted.plan.cycles = [["c", "b", "a"], ["loop"], ["e", "d"]] ∧
    knotted.plan.blocked = ["behind", "c", "loop", "e", "b", "a", "d"] ∧
    (∀ members, members ∈ knotted.plan.cycles ↔
      knotted.Component members ∧ knotted.Cyclic members) ∧
    knotted.plan.cycles.Nodup ∧
    knotted.plan.cycles.Pairwise (fun c d =>
      ∀ a ∈ c.head?, ∀ b ∈ d.head?, knotted.nodeIds.idxOf a < knotted.nodeIds.idxOf b) ∧
    (knotted.plan.cycles = [] ↔ knotted.plan.blocked = []) ∧
    (∀ members ∈ knotted.plan.cycles, members ⊆ knotted.plan.blocked) ∧
    ∀ id ∈ knotted.plan.blocked, ∃ members ∈ knotted.plan.cycles, ∃ other ∈ members,
      ReflTransGen knotted.Leads other id :=
  ⟨⟨by decide, by decide, by decide⟩, by decide, by decide,
    plan_cycles ⟨by decide, by decide, by decide⟩⟩

end WorkflowCanvas.Graph
