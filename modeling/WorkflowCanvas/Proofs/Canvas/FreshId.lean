import WorkflowCanvas.Proofs.Graph.Editing
import WorkflowCanvas.Canvas
import Mathlib.Data.Nat.Find

/-! Ids for new nodes. They are taken until one is free. As long as their numbers do not come round
again, one is found among as many as there are nodes and one more. -/
namespace WorkflowCanvas

namespace Canvas
variable {g : Graph} {stamp : Nat → String} {ids ids' : IdSource} {id : String} {fuel : Nat}

/-! ### Tries -/

/-- What is taken at each try. The clock is read for every one. -/
def tried (stamp : Nat → String) (k : Nat) (ids : IdSource) : Nat → String × IdSource
  | 0 => ids.next (stamp k)
  | n + 1 => tried stamp (k - 1) (ids.next (stamp k)).2 n

open Classical in
/-- Ids are taken until one is free, if that ever happens. -/
noncomputable def takeFree (g : Graph) (stamp : Nat → String) (k : Nat) (ids : IdSource) :
    Option (String × IdSource) :=
  if h : ∃ n, g.contains (tried stamp k ids n).1 = false then some (tried stamp k ids (Nat.find h))
  else none

/-- What is taken is the first that is free of all that can be tried. -/
theorem takeFree_eq_some_iff {k : Nat} {x : String × IdSource} :
    takeFree g stamp k ids = some x ↔ ∃ n, tried stamp k ids n = x ∧ g.contains x.1 = false ∧
      ∀ m < n, g.contains (tried stamp k ids m).1 = true := by
  constructor
  · intro h
    unfold takeFree at h
    split at h
    · next hfree =>
      obtain rfl := Option.some.inj h
      refine ⟨_, rfl, Nat.find_spec hfree, fun m hm => ?_⟩
      simpa using Nat.find_min hfree hm
    · cases h
  · rintro ⟨n, rfl, hfree, htaken⟩
    have hexists : ∃ n, g.contains (tried stamp k ids n).1 = false := ⟨n, hfree⟩
    have hfind : Nat.find hexists = n :=
      (Nat.find_eq_iff hexists).mpr ⟨hfree, fun m hm => by simp [htaken m hm]⟩
    rw [takeFree, dif_pos hexists, hfind]

theorem takeFree_free {k : Nat} (h : takeFree g stamp k ids = some (id, ids')) :
    g.contains id = false := by
  obtain ⟨_, _, hfree, _⟩ := takeFree_eq_some_iff.mp h
  exact hfree

/-- The first id is taken if it is free. -/
theorem takeFree_of_free {k : Nat} (hfree : g.contains (ids.next (stamp k)).1 = false) :
    takeFree g stamp k ids = some (ids.next (stamp k)) :=
  takeFree_eq_some_iff.mpr ⟨0, rfl, hfree, fun m hm => absurd hm m.not_lt_zero⟩

/-- If it is not, it goes on with the next. -/
theorem takeFree_of_taken {k : Nat} (htaken : g.contains (ids.next (stamp k)).1 = true) :
    takeFree g stamp k ids = takeFree g stamp (k - 1) (ids.next (stamp k)).2 := by
  have hzero : ¬ g.contains (tried stamp k ids 0).1 = false := by
    show ¬ g.contains (ids.next (stamp k)).1 = false
    simp [htaken]
  rw [takeFree, takeFree]
  by_cases hlater : ∃ n, g.contains (tried stamp (k - 1) (ids.next (stamp k)).2 n).1 = false
  · have hexists : ∃ n, g.contains (tried stamp k ids n).1 = false :=
      hlater.imp' (· + 1) fun n hn => hn
    have hsucc : Nat.find hexists = Nat.find hlater + 1 :=
      Nat.find_comp_succ hexists hlater hzero
    rw [dif_pos hexists, dif_pos hlater, hsucc]
    rfl
  · have hnone : ¬ ∃ n, g.contains (tried stamp k ids n).1 = false := by
      rintro ⟨n, hn⟩
      cases n with
      | zero => exact hzero hn
      | succ n => exact hlater ⟨n, hn⟩
    rw [dif_neg hnone, dif_neg hlater]

/-! ### Numbers -/

/-- The digits in a generated id end where the line before its time stands. -/
theorem digits_stamped (n : Nat) (s : String) :
    ((s!"node_{n}_{s}").toList.drop "node_".length).takeWhile (· != '_') = Nat.toDigits 10 n := by
  have hlist : (s!"node_{n}_{s}").toList =
      "node_".toList ++ (Nat.toDigits 10 n ++ '_' :: s.toList) := by
    show ("node_" ++ n.repr ++ "_" ++ s).toList = _
    simp
  have hdigits : ∀ c ∈ Nat.toDigits 10 n, (c != '_') = true := by
    intro c hc
    have hdigit := Nat.isDigit_of_mem_toDigits (by decide) (by decide) hc
    rw [bne_iff_ne]
    rintro rfl
    cases hdigit
  rw [hlist, ← String.length_toList, List.drop_left, List.takeWhile_append_of_pos hdigits,
    List.takeWhile_cons_of_neg (by simp), List.append_nil]

theorem stamped_injective {m n : Nat} {s t : String} (h : s!"node_{m}_{s}" = s!"node_{n}_{t}") :
    m = n := by
  have hdigits : Nat.toDigits 10 m = Nat.toDigits 10 n := by
    rw [← digits_stamped m s, h, digits_stamped]
  simpa using congrArg (Nat.ofDigitChars 10 · 0) hdigits

theorem tried_stamped (stamp : Nat → String) (k : Nat) (ids : IdSource) (n : Nat) :
    ∃ s : String, (tried stamp k ids n).1 =
      s!"node_{(ids.count.toNat + (n + 1)) % UInt64.size}_{s}" := by
  induction n generalizing k ids with
  | zero => exact ⟨stamp k, by simp [tried, IdSource.next]⟩
  | succ n ih =>
    obtain ⟨s, hs⟩ := ih (k - 1) (ids.next (stamp k)).2
    refine ⟨s, hs.trans ?_⟩
    simp [IdSource.next, Nat.add_assoc, Nat.add_comm 1]

theorem tried_injective {k m n : Nat} (hm : m < UInt64.size) (hn : n < UInt64.size)
    (h : (tried stamp k ids m).1 = (tried stamp k ids n).1) : m = n := by
  obtain ⟨s, hs⟩ := tried_stamped stamp k ids m
  obtain ⟨t, ht⟩ := tried_stamped stamp k ids n
  have hnumber := stamped_injective (hs.symm.trans (h.trans ht))
  simp only [UInt64.size] at hm hn hnumber
  omega

/-- More ids can be tried than there are nodes. -/
theorem exists_free (hg : g.nodes.length < UInt64.size) (k : Nat) (ids : IdSource) :
    ∃ n ≤ g.nodes.length, g.contains (tried stamp k ids n).1 = false := by
  by_contra hnone
  have hnodup : ((List.range (g.nodes.length + 1)).map fun n => (tried stamp k ids n).1).Nodup := by
    refine List.Nodup.map_on (fun m hm n hn heq => ?_) List.nodup_range
    rw [List.mem_range] at hm hn
    exact tried_injective (by omega) (by omega) heq
  have hsub : ((List.range (g.nodes.length + 1)).map fun n => (tried stamp k ids n).1) ⊆
      g.nodeIds := by
    intro id hid
    obtain ⟨n, hn, rfl⟩ := List.mem_map.mp hid
    rw [← g.contains_iff]
    by_contra htaken
    exact hnone ⟨n, Nat.lt_succ_iff.mp (List.mem_range.mp hn), by simpa using htaken⟩
  have hle := (List.subperm_of_subset hnodup hsub).length_le
  rw [List.length_map, List.length_range, Graph.nodeIds, List.length_map] at hle
  omega

/-! ### New nodes -/

/-- Both ways to take an id agree, if a free one is among so many. -/
theorem takeFree_eq_freshId (h : ∃ n ≤ fuel, g.contains (tried stamp fuel ids n).1 = false) :
    takeFree g stamp fuel ids = some (freshId g stamp fuel ids) := by
  induction fuel generalizing ids with
  | zero =>
    obtain ⟨n, hn, hfree⟩ := h
    obtain rfl := Nat.le_zero.mp hn
    exact takeFree_of_free hfree
  | succ fuel ih =>
    rw [freshId]
    cases hnext : g.contains (ids.next (stamp (fuel + 1))).1 with
    | false =>
      rw [takeFree_of_free hnext]
      simp [hnext]
    | true =>
      rw [takeFree_of_taken hnext]
      simp only [hnext, if_true]
      obtain ⟨n, hn, hfree⟩ := h
      cases n with
      | zero => cases hnext.symm.trans hfree
      | succ n => exact ih ⟨n, Nat.le_of_succ_le_succ hn, hfree⟩

theorem takeFree_length (stamp : Nat → String) (ids : IdSource)
    (hg : g.nodes.length < UInt64.size) :
    takeFree g stamp g.nodes.length ids = some (freshId g stamp g.nodes.length ids) :=
  takeFree_eq_freshId (exists_free hg _ ids)

/-- A new node is put in under the next id, if that is free. -/
theorem place_of_next {c : Canvas} {make : String → Node}
    (hnext : freshId c.graph stamp c.graph.nodes.length c.ids = (id, ids))
    (hfree : (make id).id ∉ c.graph.nodeIds) : c.place stamp make =
      .ok (id, { c with graph := { c.graph with nodes := c.graph.nodes ++ [make id] }, ids }) := by
  have hinsert := Graph.insertNode_eq_ok_iff.mpr ⟨hfree, rfl⟩
  rw [place, hnext]
  simp only [hinsert]
  rfl

/-- While there are fewer nodes than numbers, a new node is put in under the first id that is free. -/
theorem place_eq_ok {c : Canvas} {make : String → Node} (hmake : ∀ id, (make id).id = id)
    (hc : c.graph.nodes.length < UInt64.size) (stamp : Nat → String) :
    ∃ id ids, takeFree c.graph stamp c.graph.nodes.length c.ids = some (id, ids) ∧
      c.place stamp make =
        .ok (id, { c with graph := { c.graph with nodes := c.graph.nodes ++ [make id] }, ids }) := by
  have htake := takeFree_length stamp c.ids hc
  generalize hnext : freshId c.graph stamp c.graph.nodes.length c.ids = next at htake
  obtain ⟨id, ids⟩ := next
  have hfree : (make id).id ∉ c.graph.nodeIds := by
    rw [hmake, ← c.graph.contains_iff, takeFree_free htake]
    exact Bool.false_ne_true
  exact ⟨id, ids, htake, place_of_next hnext hfree⟩

end Canvas
end WorkflowCanvas
