import WorkflowCanvas.Proofs.CommandLine.Script
import WorkflowCanvas.Proofs.Registry.Calls

/-! Definitions by category. The categories are those of the definitions that there are now, so that one
which has lost its last definition is gone, and each definition stands in its category once. -/
namespace WorkflowCanvas

namespace Registry
variable {r : Registry} {category : String}

theorem categories_firsts (r : Registry) :
    Firsts (r.definitions.map (·.category)) r.categories := by
  have hcollect := Firsts.collect (r.definitions.map (·.category))
  rwa [List.foldl_map] at hcollect

theorem category_mem {d : Definition} (hd : d ∈ r.definitions) : d.category ∈ r.categories :=
  (r.categories_firsts.mem_iff d.category).mpr (List.mem_map_of_mem hd)

theorem byCategory_ne_nil_iff (r : Registry) (category : String) :
    r.byCategory category ≠ [] ↔ category ∈ r.categories := by
  rw [r.categories_firsts.mem_iff, List.mem_map, byCategory, Ne, List.filter_eq_nil_iff]
  simp

/-- Groups under different categories that have a place for all definitions hold each of them once. -/
theorem perm_groups {categories : List String} {ds : List Definition} (hnodup : categories.Nodup)
    (hmem : ∀ d ∈ ds, d.category ∈ categories) :
    (categories.flatMap fun category => ds.filter (·.category == category)).Perm ds := by
  induction categories generalizing ds with
  | nil =>
    obtain rfl : ds = [] := List.eq_nil_iff_forall_not_mem.mpr fun d hd => by simpa using hmem d hd
    exact .nil
  | cons first categories ih =>
    obtain ⟨hfirst, hnodup⟩ := List.nodup_cons.mp hnodup
    -- The groups of the other categories do not miss what stands in the first one.
    have hothers : ∀ category ∈ categories, ds.filter (·.category == category) =
        (ds.filter fun d => !(d.category == first)).filter (·.category == category) := by
      intro category hcategory
      rw [List.filter_filter]
      refine List.filter_congr fun d _ => ?_
      have hne : category ≠ first := fun heq => hfirst (heq ▸ hcategory)
      by_cases heq : d.category = category
      · simp [heq, hne]
      · simp [heq]
    have hrest : ∀ d ∈ ds.filter (fun d => !(d.category == first)), d.category ∈ categories := by
      intro d hd
      obtain ⟨hd, hne⟩ := List.mem_filter.mp hd
      exact (List.mem_cons.mp (hmem d hd)).resolve_left (by simpa using hne)
    rw [List.flatMap_cons, List.flatMap_congr hothers]
    exact ((ih hnodup hrest).append_left _).trans (List.filter_append_perm _ ds)

/-- The definitions as they are listed, category by category. -/
def listed (r : Registry) : List Definition := r.categories.flatMap r.byCategory

theorem listed_perm (r : Registry) : r.listed.Perm r.definitions :=
  perm_groups r.categories_firsts.nodup fun _ hd => category_mem hd

/-- Within a category types keep the order of registration. -/
theorem types_byCategory (hr : r.types.Nodup) (category : String) :
    (r.byCategory category).map (·.type) =
      r.types.filter fun t => (r.get? t).any (·.category == category) := by
  rw [types, List.filter_map, byCategory]
  refine congrArg _ (List.filter_congr fun d hd => ?_)
  have hget : r.get? d.type = some d := (KeyMap.find?_key_eq_some_iff hr).mpr ⟨hd, rfl⟩
  rw [Function.comp_apply, hget]
  rfl

end Registry

namespace Command

/-! ### The listing -/

/-- The line under which a type is listed. -/
def typeLine (d : Definition) : String := s!"  - {d.type} ({d.label})"

/-- Whether a line starts like those under which types are listed. -/
def namesType (line : String) : Bool := "  - ".toList.isPrefixOf line.toList

theorem namesType_item (text : String) : namesType ("  - " ++ text) = true := by
  simp [namesType, String.toList_append]

theorem not_namesType_setIn (text : String) : namesType ("    " ++ text) = false := by
  have hstart : "    ".toList = [' ', ' ', ' ', ' '] := by decide
  simp [namesType, String.toList_append, hstart, List.isPrefixOf]

theorem namesType_typeLine (d : Definition) : namesType (typeLine d) = true := by
  simp only [typeLine, String.append_assoc]
  exact namesType_item _

theorem filter_optionalLine {p : Prop} [Decidable p] {line : String} (h : namesType line = false) :
    (if p then [] else [line]).filter namesType = [] := by
  split
  · rfl
  · exact List.filter_cons_of_neg (by simp [h])

theorem filter_definitionLines (r : Registry) (d : Definition) :
    (definitionLines r d).filter namesType = [typeLine d] := by
  have hdescription := not_namesType_setIn d.description
  have hstart : "    connects to: " = "    " ++ "connects to: " := by decide
  have htargets : namesType ("    connects to: " ++ ", ".intercalate (r.targets d.type)) = false := by
    rw [hstart, String.append_assoc]
    exact not_namesType_setIn _
  show ([typeLine d] ++ _ ++ _).filter namesType = _
  rw [List.filter_append, List.filter_append, filter_optionalLine hdescription,
    filter_optionalLine htargets, List.filter_cons_of_pos (namesType_typeLine d)]
  rfl

/-- The types are listed line by line, unless the name of a category is taken for such a line. -/
theorem filter_nodesLines {r : Registry} (h : ∀ category ∈ r.categories, namesType category = false) :
    (nodesLines r).filter namesType = r.listed.map typeLine := by
  have hblock : ∀ category ∈ r.categories,
      ("" :: category :: (r.byCategory category).flatMap (definitionLines r)).filter namesType =
        (r.byCategory category).map typeLine := by
    intro category hcategory
    rw [List.filter_cons_of_neg (by decide), List.filter_cons_of_neg (by simp [h category hcategory]),
      List.filter_flatMap]
    simp only [filter_definitionLines]
    exact List.map_eq_flatMap.symm
  rw [nodesLines, List.filter_cons_of_neg (by decide), List.filter_flatMap, List.flatMap_congr hblock,
    Registry.listed, List.map_flatMap]

end Command

namespace Registry
open Script

/-- The definitions of a registry after any calls, by category. The categories are listed in the order in
which they first appear among the definitions that there are, and each of them has definitions; the
categories together hold every definition, and so every registered type, once, and within a category the
types keep the order in which they were first registered. Listed by category, each type has its line. -/
theorem categories_outcome (calls : List Call) :
    Firsts ((empty.after calls).definitions.map (·.category)) (empty.after calls).categories ∧
    (empty.after calls).categories.Nodup ∧
    (∀ category, (empty.after calls).byCategory category ≠ [] ↔
      category ∈ (empty.after calls).categories) ∧
    ((empty.after calls).categories.flatMap (empty.after calls).byCategory).Perm
      (empty.after calls).definitions ∧
    (((empty.after calls).categories.flatMap (empty.after calls).byCategory).map (·.type)).Nodup ∧
    (∀ t, t ∈ ((empty.after calls).categories.flatMap (empty.after calls).byCategory).map (·.type) ↔
      t ∈ (registered calls).map (·.type)) ∧
    Firsts ((registered calls).map (·.type)) (empty.after calls).types ∧
    (∀ category, ((empty.after calls).byCategory category).map (·.type) =
      (empty.after calls).types.filter fun t =>
        ((empty.after calls).get? t).any (·.category == category)) ∧
    ∀ (server : Request → Reply) (d : Disk) (session : Session), ∃ lines,
      Shows server d (Command.nodes.script session) lines (.ok ()) ∧
      (lines.filter Command.namesType).Perm (Catalogue.definitions.map Command.typeLine) := by
  have htypes := types_after calls
  have hlisted := ((empty.after calls).listed_perm).map (·.type)
  refine ⟨categories_firsts _, (categories_firsts _).nodup, byCategory_ne_nil_iff _, listed_perm _,
    hlisted.nodup_iff.mpr htypes.nodup, fun t => ?_, htypes, types_byCategory htypes.nodup,
    fun server d session => ⟨_, Shows.sayAll _, ?_⟩⟩
  · exact hlisted.mem_iff.trans (htypes.mem_iff t)
  · have hdefs : Catalogue.registry.definitions = Catalogue.definitions := rfl
    rw [Command.filter_nodesLines (by decide +kernel), ← hdefs]
    exact (listed_perm _).map _

/-- A type that is registered again under another category leaves its old one, which goes with it. -/
example : (empty.after [.register { type := "a", label := "A", category := "old" },
    .register { type := "b", label := "B", category := "new" },
    .register { type := "a", label := "A", category := "new" }]).categories = ["new"] := by decide

end Registry
end WorkflowCanvas
