import WorkflowCanvas.Proofs.Run.Input
import WorkflowCanvas.Proofs.Validation.Graph
import WorkflowCanvas.Registry.Catalogue

/-! Registries through any number of calls. Calls register definitions and allow connections, and the
two do not depend on each other: which definitions there are, and in which order, follows from the
registrations alone, and which connections may be made from what has been allowed at any time. -/
namespace WorkflowCanvas.Registry
variable {r r' : Registry} {d : Definition} {ds : List Definition} {t : String}

theorem contains_iff (r : Registry) (t : String) : r.contains t = true ↔ t ∈ r.types := by
  simp [contains, types]

theorem get?_isSome_iff_mem (r : Registry) (t : String) : (r.get? t).isSome = true ↔ t ∈ r.types :=
  (r.get?_isSome_iff t).trans (r.contains_iff t)

/-! ### Registrations -/

theorem register_of_mem (h : d.type ∈ r.types) : r.register d =
    { r with definitions := r.definitions.map fun old => if old.type = d.type then d else old } :=
  if_pos ((r.contains_iff d.type).mpr h)

theorem register_of_notMem (h : d.type ∉ r.types) :
    r.register d = { r with definitions := r.definitions ++ [d] } :=
  if_neg fun hmem => h ((r.contains_iff d.type).mp hmem)

theorem allowed_register (r : Registry) (d : Definition) : (r.register d).allowed = r.allowed := by
  unfold register
  split <;> rfl

/-- What a registration makes of the definitions has nothing to do with the connections. -/
theorem definitions_register_congr (h : r.definitions = r'.definitions) (d : Definition) :
    (r.register d).definitions = (r'.register d).definitions := by
  unfold register contains
  rw [h]
  split <;> rfl

/-- A type keeps its place when it is registered again. -/
theorem types_register (r : Registry) (d : Definition) : (r.register d).types =
    if r.types.contains d.type then r.types else r.types ++ [d.type] := by
  by_cases h : d.type ∈ r.types
  · rw [register_of_mem h, if_pos (List.contains_iff_mem.mpr h), types, List.map_map]
    refine List.map_congr_left fun old _ => ?_
    by_cases hold : old.type = d.type
    · simp [hold]
    · simp [hold]
  · rw [register_of_notMem h, if_neg fun hmem => h (List.contains_iff_mem.mp hmem), types,
      List.map_append]
    rfl

theorem get?_register_self (r : Registry) (d : Definition) : (r.register d).get? d.type = some d := by
  by_cases h : d.type ∈ r.types
  · obtain ⟨old, hold⟩ := Option.isSome_iff_exists.mp ((r.get?_isSome_iff_mem d.type).mpr h)
    have htype : old.type = d.type := by simpa using List.find?_some hold
    have hplace : (fun x : Definition => (if x.type = d.type then d else x).type == d.type) =
        (·.type == d.type) := by
      funext x
      by_cases hx : x.type = d.type
      · simp [hx]
      · simp [hx]
    rw [register_of_mem h, get?, List.find?_map, Function.comp_def, hplace, ← get?, hold,
      Option.map_some, if_pos htype]
  · have hnone : r.get? d.type = none := by
      rw [← Option.not_isSome_iff_eq_none, get?_isSome_iff_mem]
      exact h
    rw [register_of_notMem h, get?, List.find?_append, ← get?, hnone]
    simp

theorem get?_register_of_ne (r : Registry) (h : d.type ≠ t) : (r.register d).get? t = r.get? t := by
  have hother : (d.type == t) = false := beq_false_of_ne h
  by_cases hmem : d.type ∈ r.types
  · rw [register_of_mem hmem, get?, get?]
    generalize r.definitions = all
    induction all with
    | nil => rfl
    | cons old all ih =>
      rw [List.map_cons, List.find?_cons, List.find?_cons, ih]
      by_cases hold : old.type = d.type
      · simp [hold, hother]
      · simp [hold]
  · rw [register_of_notMem hmem, get?, get?, List.find?_append]
    simp [hother]

/-- Of the definitions registered for a type the last one counts. -/
theorem get?_registered (r : Registry) (ds : List Definition) (t : String) :
    (ds.foldl register r).get? t = (ds.reverse.find? (·.type == t)).or (r.get? t) := by
  induction ds generalizing r with
  | nil => rfl
  | cons d ds ih =>
    rw [List.foldl_cons, ih, List.reverse_cons, List.find?_append, Option.or_assoc]
    congr 1
    by_cases h : d.type = t
    · subst h
      simp [get?_register_self]
    · simp [get?_register_of_ne r h, h]

theorem types_registered (r : Registry) (ds : List Definition) : (ds.foldl register r).types =
    (ds.map (·.type)).foldl (fun seen x => if seen.contains x then seen else seen ++ [x]) r.types := by
  induction ds generalizing r with
  | nil => rfl
  | cons d ds ih => rw [List.foldl_cons, ih, List.map_cons, List.foldl_cons, types_register]

theorem definitions_registered_congr (h : r.definitions = r'.definitions) (ds : List Definition) :
    (ds.foldl register r).definitions = (ds.foldl register r').definitions := by
  induction ds generalizing r r' with
  | nil => exact h
  | cons d ds ih => exact ih (definitions_register_congr h d)

theorem allowed_registered (r : Registry) (ds : List Definition) :
    (ds.foldl register r).allowed = r.allowed := by
  induction ds generalizing r with
  | nil => rfl
  | cons d ds ih => rw [List.foldl_cons, ih, allowed_register]

/-- Nothing changes when the definition that a type has is registered again. -/
theorem register_of_get? (hr : r.types.Nodup) (h : r.get? d.type = some d) : r.register d = r := by
  have hmem := (r.get?_isSome_iff_mem d.type).mp (by rw [h]; rfl)
  have hsame : r.definitions.map (fun old => if old.type = d.type then d else old) = r.definitions := by
    refine (List.map_congr_left fun old hold => ?_).trans (List.map_id _)
    by_cases htype : old.type = d.type
    · have hfind := (KeyMap.find?_key_eq_some_iff hr).mpr ⟨hold, htype⟩
      have heq : some old = some d := hfind.symm.trans h
      rw [if_pos htype]
      exact (Option.some.inj heq).symm
    · exact if_neg htype
  rw [register_of_mem hmem, hsame]

theorem registered_of_get? (hr : r.types.Nodup) (h : ∀ d ∈ ds, r.get? d.type = some d) :
    ds.foldl register r = r := by
  induction ds with
  | nil => rfl
  | cons d ds ih =>
    obtain ⟨hd, hds⟩ := List.forall_mem_cons.mp h
    rw [List.foldl_cons, register_of_get? hr hd]
    exact ih hds

/-! ### Connections -/

theorem mem_allowed_allow {p : String × String} (r : Registry) (s t : String) :
    p ∈ (r.allow s t).allowed ↔ p ∈ r.allowed ∨ p = (s, t) := by
  unfold allow
  dsimp only
  split
  · next h =>
    have hmem := List.contains_iff_mem.mp h
    exact ⟨.inl, fun hp => hp.elim id fun heq => heq ▸ hmem⟩
  · rw [List.mem_append, List.mem_singleton]

/-- Allow connections, one after the other. -/
def allowEach (r : Registry) (connections : List (String × String)) : Registry :=
  connections.foldl (fun r p => r.allow p.1 p.2) r

theorem definitions_allowEach (r : Registry) (connections : List (String × String)) :
    (r.allowEach connections).definitions = r.definitions := by
  induction connections generalizing r with
  | nil => rfl
  | cons p connections ih => exact ih (r.allow p.1 p.2)

theorem mem_allowed_allowEach {p : String × String} (r : Registry)
    (connections : List (String × String)) :
    p ∈ (r.allowEach connections).allowed ↔ p ∈ r.allowed ∨ p ∈ connections := by
  induction connections generalizing r with
  | nil => simp [allowEach]
  | cons q connections ih =>
    rw [allowEach, List.foldl_cons, ← allowEach, ih, mem_allowed_allow, List.mem_cons, or_assoc]

theorem allowAll_eq (r : Registry) (s : String) (targets : List String) :
    r.allowAll s targets = r.allowEach (targets.map (s, ·)) := by
  rw [allowAll, allowEach, List.foldl_map]

theorem canConnect_iff (r : Registry) (s t : String) :
    r.canConnect s t = true ↔ s ∈ r.types ∧ t ∈ r.types ∧ (s, t) ∈ r.allowed := by
  simp only [canConnect, Bool.and_eq_true, contains_iff, List.contains_iff_mem, and_assoc]

/-! ### Calls -/

/-- What can be done to a registry. -/
inductive Call where
  | register (d : Definition)
  | allow (source target : String)
  | allowAll (source : String) (targets : List String)
  | registerAll

namespace Call

def apply (r : Registry) : Call → Registry
  | register d => r.register d
  | allow source target => r.allow source target
  | allowAll source targets => r.allowAll source targets
  | registerAll => Catalogue.registerAll r

/-- The definitions that a call registers, in turn. -/
def registered : Call → List Definition
  | register d => [d]
  | allow _ _ => []
  | allowAll _ _ => []
  | registerAll => Catalogue.definitions

/-- The connections that a call allows. -/
def allowed : Call → List (String × String)
  | register _ => []
  | allow source target => [(source, target)]
  | allowAll source targets => targets.map (source, ·)
  | registerAll => Catalogue.connectionRules.flatMap fun (source, targets) => targets.map (source, ·)

/-- Every call registers definitions and then allows connections. -/
theorem apply_eq (r : Registry) (c : Call) :
    c.apply r = (c.registered.foldl Registry.register r).allowEach c.allowed := by
  cases c with
  | register d => rfl
  | allow source target => rfl
  | allowAll source targets => exact r.allowAll_eq source targets
  | registerAll =>
    simp only [apply, Catalogue.registerAll, registered, allowed, allowEach,
      Registry.allowAll, List.foldl_flatMap, List.foldl_map]

end Call

/-- The registry after some calls. -/
def after (r : Registry) (calls : List Call) : Registry := calls.foldl Call.apply r

/-- All definitions that calls register, in turn. -/
def registered (calls : List Call) : List Definition := calls.flatMap (·.registered)

theorem registered_cons (c : Call) (calls : List Call) :
    registered (c :: calls) = c.registered ++ registered calls := List.flatMap_cons

theorem registered_append (calls later : List Call) :
    registered (calls ++ later) = registered calls ++ registered later := List.flatMap_append

theorem definitions_after (r : Registry) (calls : List Call) :
    (r.after calls).definitions = ((registered calls).foldl register r).definitions := by
  induction calls generalizing r with
  | nil => rfl
  | cons c calls ih =>
    have hcall : (c.apply r).definitions = (c.registered.foldl register r).definitions := by
      rw [c.apply_eq, definitions_allowEach]
    rw [after, List.foldl_cons, ← after, ih, registered_cons, List.foldl_append]
    exact definitions_registered_congr hcall _

theorem mem_allowed_after {p : String × String} (r : Registry) (calls : List Call) :
    p ∈ (r.after calls).allowed ↔ p ∈ r.allowed ∨ ∃ c ∈ calls, p ∈ c.allowed := by
  induction calls generalizing r with
  | nil => simp [after]
  | cons c calls ih =>
    rw [after, List.foldl_cons, ← after, ih, c.apply_eq, mem_allowed_allowEach, allowed_registered,
      List.exists_mem_cons_iff, or_assoc]

/-- The types are those of the registrations, in the order of the first for each. -/
theorem types_after (calls : List Call) :
    Firsts ((registered calls).map (·.type)) (empty.after calls).types := by
  have htypes : (empty.after calls).types = ((registered calls).foldl register empty).types := by
    rw [types, definitions_after, ← types]
  rw [htypes, types_registered]
  exact Firsts.collect _

theorem get?_after (calls : List Call) (t : String) :
    (empty.after calls).get? t = (registered calls).reverse.find? (·.type == t) := by
  rw [get?, definitions_after, ← get?, get?_registered]
  exact Option.or_none

/-- The definition of a type is the one that was registered for it last. -/
theorem get?_after_eq_some_iff {calls : List Call} : (empty.after calls).get? t = some d ↔
    ∃ earlier later, registered calls = earlier ++ d :: later ∧ d.type = t ∧
      ∀ x ∈ later, x.type ≠ t := by
  rw [get?_after, List.find?_eq_some_iff_append]
  constructor
  · rintro ⟨htype, later, earlier, hsplit, hlater⟩
    refine ⟨earlier.reverse, later.reverse, ?_, by simpa using htype, by simpa using hlater⟩
    simpa using congrArg List.reverse hsplit
  · rintro ⟨earlier, later, hsplit, htype, hlater⟩
    exact ⟨by simpa using htype, later.reverse, earlier.reverse, by simp [hsplit], by simpa using hlater⟩

/-! ### Queries -/

/-- What a registry can be asked. -/
inductive Query : Type → Type where
  | types : Query (List String)
  | definitions : Query (List Definition)
  | definition (type : String) : Query (Option Definition)
  | contains (type : String) : Query Bool
  | categories : Query (List String)
  | byCategory (category : String) : Query (List Definition)
  | defaultConfig (type : String) : Query (Option Config)
  | mockOutput (type : String) : Query (Option Json)
  | canConnect (source target : String) : Query Bool
  | targets (source : String) : Query (List String)

def Query.answer {α : Type} (r : Registry) : Query α → α
  | .types => r.types
  | .definitions => r.definitions
  | .definition type => r.get? type
  | .contains type => r.contains type
  | .categories => r.categories
  | .byCategory category => r.byCategory category
  | .defaultConfig type => r.defaultConfig? type
  | .mockOutput type => r.mockOutput? type
  | .canConnect source target => r.canConnect source target
  | .targets source => r.targets source

/-- Both registries give the same answer to every query. -/
def Agrees (r r' : Registry) : Prop := ∀ (α : Type) (q : Query α), q.answer r = q.answer r'

/-- The order in which connections have been allowed cannot be asked for. -/
theorem agrees_of_mem (hdefs : r.definitions = r'.definitions)
    (hallowed : ∀ p, p ∈ r.allowed ↔ p ∈ r'.allowed) : r.Agrees r' := by
  have hcanConnect : r.canConnect = r'.canConnect := by
    funext s t
    rw [Bool.eq_iff_iff, canConnect_iff, canConnect_iff, hallowed, types, types, hdefs]
  intro α q
  cases q with
  | canConnect s t => exact congrFun (congrFun hcanConnect s) t
  | targets s =>
    show r.types.filter (r.canConnect s) = r'.types.filter (r'.canConnect s)
    rw [hcanConnect, types, types, hdefs]
  | _ => simp only [Query.answer, types, get?, contains, categories, byCategory, defaultConfig?,
      mockOutput?, hdefs]

/-! ### The catalogue -/

/-- All types of the catalogue have the definition that they have there. -/
def Stocked (r : Registry) : Prop := ∀ d ∈ Catalogue.definitions, r.get? d.type = some d

theorem catalogue_nodup : (Catalogue.definitions.map (·.type)).Nodup := by decide

/-- Once the catalogue has been registered its definitions stay, unless its types are given others. -/
theorem stocked_after {before between : List Call}
    (hkept : ∀ x ∈ registered between, ∀ d ∈ Catalogue.definitions, x.type = d.type → x = d) :
    (empty.after (before ++ .registerAll :: between)).Stocked := by
  intro d hd
  have hown : Call.registerAll.registered.reverse.find? (·.type == d.type) = some d := by
    refine (KeyMap.find?_key_eq_some_iff ?_).mpr ⟨List.mem_reverse.mpr hd, rfl⟩
    rw [List.map_reverse, List.nodup_reverse]
    exact catalogue_nodup
  rw [get?_after, registered_append, registered_cons, List.reverse_append, List.reverse_append,
    List.find?_append, List.find?_append, hown]
  cases hlater : (registered between).reverse.find? (·.type == d.type) with
  | none => rfl
  | some x =>
    have hx : x ∈ registered between := List.mem_reverse.mp (List.mem_of_find?_eq_some hlater)
    have htype : x.type = d.type := by simpa using List.find?_some hlater
    rw [hkept x hx d hd htype]
    rfl

/-- The catalogue adds nothing to a registry that holds it. -/
theorem agrees_registerAll {calls : List Call} (hstocked : (empty.after calls).Stocked)
    (hcall : .registerAll ∈ calls) :
    (empty.after (calls ++ [.registerAll])).Agrees (empty.after calls) := by
  have hafter : empty.after (calls ++ [.registerAll]) =
      (empty.after calls).allowEach Call.registerAll.allowed := by
    rw [after, List.foldl_concat, ← after, Call.apply_eq, Call.registered,
      registered_of_get? (types_after calls).nodup hstocked]
  rw [hafter]
  refine agrees_of_mem (definitions_allowEach _ _) fun p => ?_
  rw [mem_allowed_allowEach]
  exact ⟨fun hp => hp.elim id fun hp => (mem_allowed_after _ _).mpr (.inr ⟨_, hcall, hp⟩), .inl⟩

/-! ### Histories of a registry -/

/-- What a registry answers after any calls. The types are listed in the order in which each was first
registered, and have the definitions that were registered for them last; two types may be connected if
both are registered and the connection was allowed at any time. So the order of the calls does not
matter, except for that of the registrations among each other, and neither does it matter whether the
catalogue is registered once more, unless its types have been given other definitions since. -/
theorem calls_outcome (calls : List Call) :
    Firsts ((registered calls).map (·.type)) (empty.after calls).types ∧
    (∀ t d, (empty.after calls).get? t = some d ↔ ∃ earlier later,
      registered calls = earlier ++ d :: later ∧ d.type = t ∧ ∀ x ∈ later, x.type ≠ t) ∧
    (∀ t, ((empty.after calls).get? t).isSome = true ↔ t ∈ (empty.after calls).types) ∧
    (∀ s t, (empty.after calls).canConnect s t = true ↔ s ∈ (empty.after calls).types ∧
      t ∈ (empty.after calls).types ∧ ∃ c ∈ calls, (s, t) ∈ c.allowed) ∧
    (∀ s, (empty.after calls).targets s =
      (empty.after calls).types.filter ((empty.after calls).canConnect s)) ∧
    (∀ others, others.Perm calls → registered others = registered calls →
      (empty.after others).Agrees (empty.after calls)) ∧
    ∀ before between, calls = before ++ .registerAll :: between →
      (∀ x ∈ registered between, ∀ d ∈ Catalogue.definitions, x.type = d.type → x = d) →
      (empty.after (calls ++ [.registerAll])).Agrees (empty.after calls) := by
  refine ⟨types_after calls, fun t d => get?_after_eq_some_iff, fun t => get?_isSome_iff_mem _ t,
    fun s t => ?_, fun s => rfl, fun others hperm hsame => ?_, ?_⟩
  · rw [canConnect_iff, mem_allowed_after, empty, List.mem_nil_iff, false_or]
  · refine agrees_of_mem ?_ fun p => ?_
    · rw [definitions_after, definitions_after, hsame]
    · simp only [mem_allowed_after, hperm.mem_iff]
  · rintro before between rfl hkept
    exact agrees_registerAll (stocked_after hkept) (by simp)

/-- A type of its own kind, and a later definition of it. -/
def pager : Definition := { type := "pager", label := "Pager", category := "alerts" }

def louderPager : Definition := { pager with label := "Louder Pager", category := "actions" }

/-- Calls that register a type twice and allow connections to a type that never is registered. -/
def pagerCalls : List Call :=
  [.register pager, .allowAll "pager" ["output", "ghost"], .register louderPager]

theorem pagerCalls_kept :
    ∀ x ∈ registered pagerCalls, ∀ d ∈ Catalogue.definitions, x.type = d.type → x = d := by
  intro x hx d hd heq
  have htype : x.type = "pager" := by
    obtain rfl | rfl : x = pager ∨ x = louderPager := by
      simpa [pagerCalls, registered, Call.registered] using hx
    · rfl
    · rfl
  have hnew : "pager" ∉ Catalogue.definitions.map (·.type) := by decide
  exact absurd (List.mem_map.mpr ⟨d, hd, heq.symm.trans htype⟩) hnew

/-- A connection is allowed before the types at its ends are registered. -/
def switchboard : List Call := .allow "agent" "pager" :: .registerAll :: pagerCalls

theorem calls_outcome_pager :
    (empty.after switchboard).get? "pager" = some louderPager ∧
    (empty.after switchboard).canConnect "agent" "pager" = true ∧
    ¬(empty.after switchboard).canConnect "pager" "ghost" = true ∧
    (switchboard.tail ++ [Call.allow "agent" "pager"]).Perm switchboard ∧
    registered (switchboard.tail ++ [.allow "agent" "pager"]) = registered switchboard ∧
    (empty.after (switchboard.tail ++ [.allow "agent" "pager"])).Agrees (empty.after switchboard) ∧
    (∀ x ∈ registered pagerCalls, ∀ d ∈ Catalogue.definitions, x.type = d.type → x = d) ∧
    (empty.after (switchboard ++ [.registerAll])).Agrees (empty.after switchboard) := by
  obtain ⟨-, hget, -, hconnect, -, horder, hagain⟩ := calls_outcome switchboard
  have hlast : registered switchboard = Catalogue.definitions ++ [pager] ++ [louderPager] := rfl
  have hperm := List.perm_append_singleton (Call.allow "agent" "pager") switchboard.tail
  refine ⟨(hget _ _).mpr ⟨_, [], hlast, rfl, by simp⟩,
    (hconnect _ _).mpr ⟨by decide, by decide, _, List.mem_cons_self, by decide⟩, fun h => ?_,
    hperm, rfl, horder _ hperm rfl, pagerCalls_kept,
    hagain [.allow "agent" "pager"] pagerCalls rfl pagerCalls_kept⟩
  exact absurd ((hconnect _ _).mp h).2.1 (by decide)

end WorkflowCanvas.Registry
