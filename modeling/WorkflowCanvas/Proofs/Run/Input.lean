import WorkflowCanvas.Proofs.Graph.Editing
import WorkflowCanvas.Proofs.Json.KeyMap
import WorkflowCanvas.Run.Input

/-! What a node is given to work on. The nodes before it are taken in the order of the first edges
from them, and of several that give something for a key the last one counts. -/
namespace WorkflowCanvas

/-! ### First appearances -/

/-- The texts of a list, each once, in the order in which they first appear. -/
structure Firsts (all firsts : List String) : Prop where
  mem_iff : ∀ x, x ∈ firsts ↔ x ∈ all
  rising : firsts.Pairwise fun x y => all.idxOf x < all.idxOf y

namespace Firsts
variable {all firsts other : List String} {x : String}

theorem nil : Firsts [] [] := ⟨fun _ => Iff.rfl, .nil⟩

theorem nodup (h : Firsts all firsts) : firsts.Nodup := by
  refine h.rising.imp fun hlt heq => ?_
  rw [heq] at hlt
  exact Nat.lt_irrefl _ hlt

theorem unique (h : Firsts all firsts) (h' : Firsts all other) : firsts = other := by
  have hperm : firsts.Perm other := by
    rw [List.perm_ext_iff_of_nodup h.nodup h'.nodup]
    exact fun x => (h.mem_iff x).trans (h'.mem_iff x).symm
  refine hperm.eq_of_pairwise (fun x y _ _ hxy hyx => ?_) h.rising h'.rising
  exact absurd hxy (Nat.lt_asymm hyx)

theorem concat_of_mem (h : Firsts all firsts) (hx : x ∈ all) : Firsts (all ++ [x]) firsts where
  mem_iff y := by
    rw [h.mem_iff, List.mem_append, List.mem_singleton]
    exact ⟨.inl, fun hy => hy.elim id fun heq => heq ▸ hx⟩
  rising := h.rising.imp_of_mem fun ha hb hlt => by
    rwa [List.idxOf_append_of_mem ((h.mem_iff _).mp ha), List.idxOf_append_of_mem ((h.mem_iff _).mp hb)]

theorem concat_of_notMem (h : Firsts all firsts) (hx : x ∉ all) :
    Firsts (all ++ [x]) (firsts ++ [x]) where
  mem_iff y := by rw [List.mem_append, List.mem_append, h.mem_iff]
  rising := by
    refine List.pairwise_append.mpr ⟨?_, List.pairwise_singleton _ _, fun a ha b hb => ?_⟩
    · refine h.rising.imp_of_mem fun ha hb hlt => ?_
      rwa [List.idxOf_append_of_mem ((h.mem_iff _).mp ha),
        List.idxOf_append_of_mem ((h.mem_iff _).mp hb)]
    · obtain rfl := List.mem_singleton.mp hb
      have hall := (h.mem_iff a).mp ha
      rw [List.idxOf_append_of_mem hall, List.idxOf_append_of_notMem hx]
      exact Nat.lt_add_right _ (List.idxOf_lt_length_iff.mpr hall)

/-- To collect what has not been seen keeps what comes first. -/
theorem collect (all : List String) :
    Firsts all (all.foldl (fun seen x => if seen.contains x then seen else seen ++ [x]) []) := by
  induction all using List.reverseRecOn with
  | nil => exact nil
  | append_singleton all x ih =>
    rw [List.foldl_concat]
    split
    · next hseen => exact ih.concat_of_mem ((ih.mem_iff x).mp (List.contains_iff_mem.mp hseen))
    · next hseen =>
      exact ih.concat_of_notMem fun hx => hseen (List.contains_iff_mem.mpr ((ih.mem_iff x).mpr hx))

end Firsts

/-! ### Outputs -/

/-- What the output of a node gives for a key: an entry of it if it is an object, the last one under
the key, and otherwise the whole output for the id of the node. -/
inductive Node.Gives (n : Node) : String → Json → Prop where
  | entry {earlier later : List (String × Json)} {key : String} {value : Json}
    (output : n.data.run.lastOutput = some (.obj (earlier ++ (key, value) :: later)))
    (last : key ∉ later.map (·.1)) : n.Gives key value
  | whole {value : Json} (output : n.data.run.lastOutput = some value)
    (noObject : value.isObject = false) : n.Gives n.id value

/-- Where an object has no key twice, which of its entries is the last under its key does not matter. -/
theorem Node.gives_of_obj {n : Node} {members : List (String × Json)}
    (houtput : n.data.run.lastOutput = some (.obj members)) (hkeys : (members.map (·.1)).Nodup)
    (key : String) (value : Json) : n.Gives key value ↔ (key, value) ∈ members := by
  constructor
  · rintro (⟨output, last⟩ | ⟨output, noObject⟩)
    · obtain rfl := Json.obj.inj (Option.some.inj (houtput.symm.trans output))
      simp
    · obtain rfl := Option.some.inj (houtput.symm.trans output)
      cases noObject
  · intro hmem
    obtain ⟨earlier, later, rfl⟩ := List.append_of_mem hmem
    refine .entry houtput fun hkey => ?_
    rw [List.map_append, List.map_cons] at hkeys
    exact (List.nodup_cons.mp (List.nodup_append.mp hkeys).2.1).1 hkey

theorem Graph.outputMembers_of_noObject {value : Json} (h : value.isObject = false) (id : String) :
    outputMembers id (some value) = [(id, value)] := by
  cases value with
  | obj => cases h
  | _ => rfl

theorem Node.gives_iff {n : Node} {key : String} {value : Json} : n.Gives key value ↔
    KeyMap.get? (Graph.outputMembers n.id n.data.run.lastOutput).reverse key = some value := by
  constructor
  · rintro (⟨output, last⟩ | ⟨output, noObject⟩)
    · rw [output]
      exact KeyMap.get?_reverse_eq_some_iff.mpr ⟨_, _, rfl, last⟩
    · rw [output, Graph.outputMembers_of_noObject noObject, List.reverse_singleton,
        KeyMap.get?_cons, if_pos rfl]
  · intro h
    cases hout : n.data.run.lastOutput with
    | none =>
      rw [hout] at h
      cases h
    | some output =>
      rw [hout] at h
      cases hkind : output.isObject with
      | true =>
        obtain ⟨members, rfl⟩ : ∃ members, output = .obj members := by
          cases output <;> simp_all [Json.isObject]
        obtain ⟨earlier, later, rfl, hlast⟩ := KeyMap.get?_reverse_eq_some_iff.mp h
        exact .entry hout hlast
      | false =>
        rw [Graph.outputMembers_of_noObject hkind, List.reverse_singleton, KeyMap.get?_cons] at h
        split at h
        · next hkey =>
          obtain rfl := Option.some.inj h
          exact hkey ▸ .whole hout hkind
        · cases h

namespace Graph
variable {g g' : Graph} {id : String}

/-- What a node of the graph gives for a key. -/
def Gives (g : Graph) (id key : String) (value : Json) : Prop :=
  ∃ n ∈ g.nodes, n.id = id ∧ n.Gives key value

theorem WellFormed.gives_iff (hg : g.WellFormed) {key : String} {value : Json} :
    g.Gives id key value ↔ KeyMap.get? (g.contribution id).reverse key = some value := by
  constructor
  · rintro ⟨n, hn, rfl, hgives⟩
    rw [contribution, hg.node?_eq_some_iff.mpr ⟨hn, rfl⟩]
    exact Node.gives_iff.mp hgives
  · intro h
    rw [contribution] at h
    cases hn : g.node? id with
    | none =>
      rw [hn] at h
      cases h
    | some n =>
      obtain ⟨hmem, rfl⟩ := node?_eq_some hn
      rw [hn] at h
      exact ⟨n, hmem, rfl, Node.gives_iff.mpr h⟩

/-! ### Merged inputs -/

theorem predecessors_firsts (g : Graph) (id : String) :
    Firsts ((g.incoming id).map (·.source)) (g.predecessors id) := by
  have hcollect := Firsts.collect ((g.incoming id).map (·.source))
  rwa [List.foldl_map] at hcollect

theorem mem_predecessors (g : Graph) (id other : String) :
    other ∈ g.predecessors id ↔ g.Leads other id := by
  rw [(g.predecessors_firsts id).mem_iff, incoming, Leads]
  simp only [List.mem_map, List.mem_filter, beq_iff_eq]
  grind

theorem predecessors_eq_nil_iff (g : Graph) (id : String) :
    g.predecessors id = [] ↔ g.incoming id = [] := by
  simp [List.eq_nil_iff_forall_not_mem, (g.predecessors_firsts id).mem_iff]

theorem mergedInput_eq (g : Graph) (id : String) (input : Json) : g.mergedInput id input =
    if g.predecessors id = [] then input
    else .obj ((g.predecessors id).foldl
      (fun acc other => KeyMap.overlay acc (g.contribution other)) []) := by
  unfold mergedInput
  split
  · next hnil => rw [if_pos hnil]
  · next hne => rw [if_neg hne]

theorem mergedInput_of_incoming {id : String} (h : g.incoming id ≠ []) (input : Json) :
    g.mergedInput id input = .obj ((g.predecessors id).foldl
      (fun acc other => KeyMap.overlay acc (g.contribution other)) []) := by
  rw [mergedInput_eq, if_neg fun hnil => h ((g.predecessors_eq_nil_iff id).mp hnil)]

/-- The output that a run has left in a node. -/
def output? (g : Graph) (id : String) : Option Json := (g.node? id).bind (·.data.run.lastOutput)

/-- The input of a node depends on the nodes before it and their outputs alone. -/
theorem mergedInput_congr (hbefore : g'.predecessors id = g.predecessors id)
    (houtput : ∀ other ∈ g.predecessors id, g'.output? other = g.output? other) (input : Json) :
    g'.mergedInput id input = g.mergedInput id input := by
  have hcontribution : ∀ other ∈ g.predecessors id, g'.contribution other = g.contribution other :=
    fun other hother => congrArg (outputMembers other) (houtput other hother)
  have hfold : (g.predecessors id).foldl
        (fun acc other => KeyMap.overlay acc (g'.contribution other)) [] =
      (g.predecessors id).foldl (fun acc other => KeyMap.overlay acc (g.contribution other)) [] :=
    List.foldl_ext _ _ _ fun acc other hother => by rw [hcontribution other hother]
  rw [mergedInput_eq, mergedInput_eq, hbefore, hfold]

/-- A node that no edge enters is given the input of the run. Any other is given an object, whatever
that input is: for each key what the last of the nodes before it gives that gives anything for the
key. All this depends on nothing but which nodes come before it, in which order, and on their outputs. -/
theorem mergedInput_outcome (hg : g.WellFormed) (id : String) : ∃ before,
    Firsts ((g.incoming id).map (·.source)) before ∧
    (g.incoming id = [] → ∀ input, g.mergedInput id input = input) ∧
    (g.incoming id ≠ [] → ∃ members : KeyMap Json,
      (∀ input, g.mergedInput id input = .obj members) ∧ members.Sorted ∧
      ∀ key value, members.get? key = some value ↔
        ∃ earlier last later, before = earlier ++ last :: later ∧ g.Gives last key value ∧
          ∀ other ∈ later, ∀ v, ¬ g.Gives other key v) ∧
    ∀ g' : Graph, Firsts ((g'.incoming id).map (·.source)) before →
      (∀ other ∈ before, g'.output? other = g.output? other) →
      ∀ input, g'.mergedInput id input = g.mergedInput id input := by
  have hfirsts := g.predecessors_firsts id
  refine ⟨g.predecessors id, hfirsts, fun hnone input => ?_, fun hsome => ?_,
    fun g' hfirsts' houtput => ?_⟩
  · rw [mergedInput_eq, if_pos ((g.predecessors_eq_nil_iff id).mpr hnone)]
  · refine ⟨_, mergedInput_of_incoming hsome, KeyMap.sorted_foldl_overlay _ _, fun key value => ?_⟩
    rw [KeyMap.get?_foldl_overlay_eq_some_iff]
    simp only [← hg.gives_iff, Option.eq_none_iff_forall_ne_some, ne_eq]
  · exact mergedInput_congr ((g'.predecessors_firsts id).unique hfirsts') houtput

/-- Nodes that lead to one: an object, a number, nothing, and an object with the id of the second for
a key. Two edges come from the first of them. -/
def confluence : Graph where
  nodes := [
    (Node.fresh "first" "agent").setRun fun r =>
      { r with lastOutput := some (.obj [("a", .nat 1), ("second", .nat 1)]) },
    (Node.fresh "second" "agent").setRun ({ · with lastOutput := some (.nat 2) }),
    .fresh "third" "agent",
    (Node.fresh "fourth" "agent").setRun fun r =>
      { r with lastOutput := some (.obj [("a", .nat 4), ("b", .null)]) },
    .fresh "last" "output"]
  edges := [⟨"e", "fourth", "last", none, none, false⟩, ⟨"f", "first", "last", none, none, false⟩,
    ⟨"g", "second", "last", none, none, false⟩, ⟨"h", "third", "last", none, none, false⟩,
    ⟨"i", "fourth", "last", some "out", none, false⟩]

theorem mergedInput_outcome_confluence : confluence.WellFormed ∧
    confluence.mergedInput "last" (.str "start") =
      .obj [("a", .nat 1), ("b", .null), ("second", .nat 2)] ∧
    ∃ before, Firsts ((confluence.incoming "last").map (·.source)) before ∧
      (confluence.incoming "last" = [] → ∀ input, confluence.mergedInput "last" input = input) ∧
      (confluence.incoming "last" ≠ [] → ∃ members : KeyMap Json,
        (∀ input, confluence.mergedInput "last" input = .obj members) ∧ members.Sorted ∧
        ∀ key value, members.get? key = some value ↔
          ∃ earlier last later, before = earlier ++ last :: later ∧
            confluence.Gives last key value ∧
            ∀ other ∈ later, ∀ v, ¬ confluence.Gives other key v) ∧
      ∀ g' : Graph, Firsts ((g'.incoming "last").map (·.source)) before →
        (∀ other ∈ before, g'.output? other = confluence.output? other) →
        ∀ input, g'.mergedInput "last" input = confluence.mergedInput "last" input :=
  ⟨⟨by decide, by decide, by decide, by decide⟩, rfl,
    mergedInput_outcome ⟨by decide, by decide, by decide, by decide⟩ "last"⟩

end Graph
end WorkflowCanvas
