import Mathlib.Data.List.Nodup
import WorkflowCanvas.Store.Basic

/-! A store in memory through any number of saves. A record without an id goes to the end under a new
one, and a record with an id takes the place of the one that has it; so ids stay apart, records stay in
their places, and what is found under an id is what was saved under it last. -/
namespace WorkflowCanvas.MemoryStore
variable {s : MemoryStore} {r : Record} {fresh id : String} {records records' : List Record}

/-- The ids of the records, in their order. -/
def ids (s : MemoryStore) : List String := s.records.filterMap (·.id)

/-- The record that is listed under an id. -/
def get? (s : MemoryStore) (id : String) : Option Record := s.records.find? (·.id == some id)

theorem mem_ids : id ∈ s.ids ↔ ∃ r ∈ s.records, r.id = some id := List.mem_filterMap

theorem get?_isSome : (s.get? id).isSome = true ↔ id ∈ s.ids := by
  simp [get?, mem_ids]

/-! ### One save -/

/-- The first record with the id, and no other, gives way. -/
theorem replace_eq_some (h : replace id r records = some records') :
    ∃ before old after, records = before ++ old :: after ∧ old.id = some id ∧
      (∀ x ∈ before, x.id ≠ some id) ∧ records' = before ++ r :: after := by
  induction records generalizing records' with
  | nil => cases h
  | cons x rest ih =>
    rw [replace] at h
    split at h
    · next hx =>
      obtain rfl := Option.some.inj h
      exact ⟨[], x, rest, rfl, hx, List.forall_mem_nil _, rfl⟩
    · next hx =>
      obtain ⟨rest', hrest, rfl⟩ := Option.map_eq_some_iff.mp h
      obtain ⟨before, old, after, rfl, hold, hbefore, rfl⟩ := ih hrest
      exact ⟨x :: before, old, after, rfl, hold, List.forall_mem_cons.mpr ⟨hx, hbefore⟩, rfl⟩

theorem replace_eq_none_iff : replace id r records = none ↔ ∀ x ∈ records, x.id ≠ some id := by
  induction records with
  | nil => simp [replace]
  | cons x rest ih =>
    rw [replace]
    split
    · next hx => simp [hx]
    · next hx => simp [hx, ih]

/-- The record as it is stored when it is new. -/
def named (fresh : String) (r : Record) : Record := { r with id := some fresh }

theorem save_new (s : MemoryStore) (fresh : String) (hr : r.id = none) :
    s.save fresh r = .ok (named fresh r, ⟨s.records ++ [named fresh r]⟩) := by
  rw [save, hr]
  rfl

theorem save_unlisted (fresh : String) (hr : r.id = some id) (hid : id ∉ s.ids) :
    s.save fresh r = .error (.notFound id) := by
  have hnone : replace id r s.records = none :=
    replace_eq_none_iff.mpr fun x hx hxid => hid (mem_ids.mpr ⟨x, hx, hxid⟩)
  rw [save, hr]
  simp only [hnone]

/-- A record that has the id of a listed one is put in its place. -/
theorem save_listed (fresh : String) (hr : r.id = some id) (hid : id ∈ s.ids) :
    ∃ before old after, s.records = before ++ old :: after ∧ old.id = some id ∧
      (∀ x ∈ before, x.id ≠ some id) ∧ s.save fresh r = .ok (r, ⟨before ++ r :: after⟩) := by
  obtain ⟨x, hx, hxid⟩ := mem_ids.mp hid
  cases hreplace : replace id r s.records with
  | none => exact absurd hxid (replace_eq_none_iff.mp hreplace x hx)
  | some records' =>
    obtain ⟨before, old, after, hrecords, hold, hbefore, rfl⟩ := replace_eq_some hreplace
    refine ⟨before, old, after, hrecords, hold, hbefore, ?_⟩
    rw [save, hr]
    simp only [hreplace]

/-! ### Many saves -/

/-- The store after a save. One that fails leaves it as it is. -/
def step (s : MemoryStore) (fresh : String) (r : Record) : MemoryStore :=
  match s.save fresh r with
  | .ok (_, s') => s'
  | .error _ => s

/-- The store after saves, each of a record for which there is an id should it need one. -/
def after (s : MemoryStore) : List (String × Record) → MemoryStore
  | [] => s
  | (fresh, r) :: saves => (s.step fresh r).after saves

/-- What the saves that succeed give back, in turn. -/
def saved (s : MemoryStore) : List (String × Record) → List Record
  | [] => []
  | (fresh, r) :: saves =>
    match s.save fresh r with
    | .ok (r', s') => r' :: s'.saved saves
    | .error _ => s.saved saves

/-- No new id is that of a record listed at the time. -/
def Fresh (s : MemoryStore) : List (String × Record) → Prop
  | [] => True
  | (fresh, r) :: saves => (r.id = none → fresh ∉ s.ids) ∧ (s.step fresh r).Fresh saves

/-- What no save changes: the places of the records, and those among them that have no id. -/
structure Grows (s s' : MemoryStore) : Prop where
  ids : s.records.map (·.id) <+: s'.records.map (·.id)
  nameless : ∀ (i : Nat) (r : Record), s.records[i]? = some r → r.id = none → s'.records[i]? = some r

theorem Grows.refl (s : MemoryStore) : s.Grows s := ⟨List.prefix_refl _, fun _ _ h _ => h⟩

theorem Grows.trans {s s' s'' : MemoryStore} (h : s.Grows s') (h' : s'.Grows s'') : s.Grows s'' where
  ids := h.ids.trans h'.ids
  nameless i r hr hid := h'.nameless i r (h.nameless i r hr hid) hid

/-- What one save does to the store, be it a new record, a known one or one that is refused. -/
theorem step_cases (s : MemoryStore) (fresh : String) (r : Record) :
    (r.id = none ∧ s.save fresh r = .ok (named fresh r, s.step fresh r) ∧
      (s.step fresh r).records = s.records ++ [named fresh r]) ∨
    (∃ id before old after, r.id = some id ∧ s.save fresh r = .ok (r, s.step fresh r) ∧
      s.records = before ++ old :: after ∧ old.id = some id ∧ (∀ x ∈ before, x.id ≠ some id) ∧
      (s.step fresh r).records = before ++ r :: after) ∨
    (∃ id, r.id = some id ∧ id ∉ s.ids ∧ s.save fresh r = .error (.notFound id) ∧
      s.step fresh r = s) := by
  cases hr : r.id with
  | none =>
    have hsave := save_new s fresh hr
    exact .inl ⟨rfl, by rw [step, hsave], by rw [step, hsave]⟩
  | some id =>
    by_cases hid : id ∈ s.ids
    · obtain ⟨before, old, after, hrecords, hold, hbefore, hsave⟩ := save_listed fresh hr hid
      refine .inr (.inl ⟨id, before, old, after, rfl, ?_, hrecords, hold, hbefore, ?_⟩)
      · rw [step, hsave]
      · rw [step, hsave]
    · have hsave := save_unlisted fresh hr hid
      exact .inr (.inr ⟨id, rfl, hid, hsave, by rw [step, hsave]⟩)

theorem step_grows (s : MemoryStore) (fresh : String) (r : Record) : s.Grows (s.step fresh r) := by
  obtain ⟨-, -, hrecords⟩ | ⟨id, before, old, after, hr, -, hs, hold, -, hrecords⟩ | ⟨-, -, -, -, hs⟩ :=
    s.step_cases fresh r
  · refine ⟨by simp [hrecords], fun i x hx _ => ?_⟩
    rw [hrecords, List.getElem?_append_left (List.getElem?_eq_some_iff.mp hx).1, hx]
  · refine ⟨by simp [hrecords, hs, hold, hr], fun i x hx hid => ?_⟩
    rw [hs] at hx
    rw [hrecords]
    by_cases hi : i = before.length
    · subst hi
      obtain rfl : old = x := by simpa using hx
      simp [hold] at hid
    · have hset : before ++ r :: after = (before ++ old :: after).set before.length r := by simp
      rw [hset, List.getElem?_set_ne (Ne.symm hi), hx]
  · rw [hs]
    exact Grows.refl s

theorem step_nodup (hs : s.ids.Nodup) (hfresh : r.id = none → fresh ∉ s.ids) :
    (s.step fresh r).ids.Nodup := by
  obtain ⟨hr, -, hrecords⟩ | ⟨id, before, old, after, hr, -, hold, hid, -, hrecords⟩ | ⟨-, -, -, -, hstep⟩ :=
    s.step_cases fresh r
  · have hids : (s.step fresh r).ids = s.ids ++ [fresh] := by simp [ids, hrecords, named]
    rw [hids, List.nodup_append]
    refine ⟨hs, by simp, fun x hx y hy => ?_⟩
    rintro rfl
    exact hfresh hr (List.mem_singleton.mp hy ▸ hx)
  · have hids : (s.step fresh r).ids = s.ids := by simp [ids, hrecords, hold, hr, hid]
    exact hids ▸ hs
  · rwa [hstep]

/-- A save is found under the id of what it stores, and what is under other ids stays. -/
theorem get?_step (hfresh : r.id = none → fresh ∉ s.ids) (id : String) :
    (s.step fresh r).get? id =
      ((s.saved [(fresh, r)]).find? (·.id == some id)).or (s.get? id) := by
  obtain ⟨hr, hsave, hrecords⟩ | ⟨k, before, old, after, hr, hsave, hs, hold, hbefore, hrecords⟩ |
    ⟨k, -, -, hsave, hstep⟩ := s.step_cases fresh r
  · have hstored : s.saved [(fresh, r)] = [named fresh r] := by simp only [saved, hsave]
    rw [hstored, get?, hrecords, List.find?_append, ← get?]
    by_cases hid : id = fresh
    · subst hid
      have hnone : s.get? id = none := by
        rw [← Option.not_isSome_iff_eq_none, get?_isSome]
        exact hfresh hr
      simp [hnone, named]
    · have hother : ([named fresh r].find? (·.id == some id)) = none := by
        simpa [named] using Ne.symm hid
      rw [hother, Option.or_none, Option.none_or]
  · have hstored : s.saved [(fresh, r)] = [r] := by simp only [saved, hsave]
    rw [hstored, get?, get?, hrecords, hs, List.find?_append, List.find?_append]
    by_cases hid : k = id
    · subst hid
      have hnone : before.find? (·.id == some k) = none := by simpa using hbefore
      simp [hnone, hr]
    · have hne : (some k == some id) = false := by simpa using hid
      simp [hr, hold, hne]
  · have hstored : s.saved [(fresh, r)] = [] := by simp only [saved, hsave]
    rw [hstored, hstep, List.find?_nil, Option.none_or]

theorem saved_cons (s : MemoryStore) (fresh : String) (r : Record) (saves : List (String × Record)) :
    s.saved ((fresh, r) :: saves) = s.saved [(fresh, r)] ++ (s.step fresh r).saved saves := by
  simp only [saved, step]
  cases s.save fresh r with
  | ok result => rfl
  | error e => rfl

theorem after_grows (s : MemoryStore) (saves : List (String × Record)) : s.Grows (s.after saves) := by
  induction saves generalizing s with
  | nil => exact Grows.refl s
  | cons save saves ih => exact (s.step_grows save.1 save.2).trans (ih _)

theorem after_nodup {saves : List (String × Record)} (hs : s.ids.Nodup) (hfresh : s.Fresh saves) :
    (s.after saves).ids.Nodup := by
  induction saves generalizing s with
  | nil => exact hs
  | cons save saves ih => exact ih (step_nodup hs hfresh.1) hfresh.2

theorem get?_after {saves : List (String × Record)} (hfresh : s.Fresh saves) (id : String) :
    (s.after saves).get? id =
      ((s.saved saves).reverse.find? (·.id == some id)).or (s.get? id) := by
  induction saves generalizing s with
  | nil => rfl
  | cons save saves ih =>
    obtain ⟨fresh, r⟩ := save
    have hone : ((s.saved [(fresh, r)]).reverse) = s.saved [(fresh, r)] := by
      rw [saved]
      cases s.save fresh r <;> rfl
    rw [saved_cons, List.reverse_append, List.find?_append, hone, Option.or_assoc,
      ← get?_step hfresh.1]
    exact ih hfresh.2

/-- Where ids are apart, an id has one place. -/
theorem place_unique {i j : Nat} {x y : Record} (hs : s.ids.Nodup) (hi : s.records[i]? = some x)
    (hj : s.records[j]? = some y) (hx : x.id = some id) (hy : y.id = some id) : i = j := by
  obtain ⟨records⟩ := s
  induction records generalizing i j with
  | nil => cases hi
  | cons first rest ih =>
    have hnew : first.id = some id → id ∉ ids ⟨rest⟩ := by
      intro hfirst
      have hids : ids ⟨first :: rest⟩ = id :: ids ⟨rest⟩ := by simp [ids, hfirst]
      exact (List.nodup_cons.mp (hids ▸ hs)).1
    have hrest : (ids ⟨rest⟩).Nodup := hs.sublist ((List.sublist_cons_self first rest).filterMap _)
    cases i with
    | zero =>
      obtain rfl : first = x := by simpa using hi
      cases j with
      | zero => rfl
      | succ j => exact absurd ((mem_ids (s := ⟨rest⟩)).mpr ⟨y, List.mem_of_getElem? hj, hy⟩) (hnew hx)
    | succ i =>
      cases j with
      | zero =>
        obtain rfl : first = y := by simpa using hj
        exact absurd ((mem_ids (s := ⟨rest⟩)).mpr ⟨x, List.mem_of_getElem? hi, hx⟩) (hnew hy)
      | succ j => exact congrArg (· + 1) (ih hrest hi hj)

/-- However many saves there have been: the next one stores a record without an id at the end, under
the new id, and a record with an id in the one place of that id, if there is one; ids are apart, every
record is where it was, and what is listed under an id was saved under it last. -/
theorem saves_outcome {saves : List (String × Record)} (hs : s.ids.Nodup) (hfresh : s.Fresh saves) :
    (∀ fresh r, r.id = none → ∃ r', r' = { r with id := some fresh } ∧
      (s.after saves).save fresh r = .ok (r', ⟨(s.after saves).records ++ [r']⟩)) ∧
    (∀ fresh r id, r.id = some id → id ∈ (s.after saves).ids →
      ∃ (i : Nat) (old : Record), (s.after saves).records[i]? = some old ∧ old.id = some id ∧
        (∀ (j : Nat) (x : Record), (s.after saves).records[j]? = some x → x.id = some id → j = i) ∧
        (s.after saves).save fresh r = .ok (r, ⟨(s.after saves).records.set i r⟩)) ∧
    (∀ fresh r id, r.id = some id → id ∉ (s.after saves).ids →
      (s.after saves).save fresh r = .error (.notFound id)) ∧
    (s.after saves).ids.Nodup ∧ s.Grows (s.after saves) ∧
    ∀ id, (s.after saves).get? id =
      ((s.saved saves).reverse.find? (·.id == some id)).or (s.get? id) := by
  have hnodup := after_nodup hs hfresh
  refine ⟨fun fresh r hr => ⟨named fresh r, rfl, save_new _ fresh hr⟩, fun fresh r id hr hid => ?_,
    fun fresh r id hr hid => save_unlisted fresh hr hid, hnodup, s.after_grows saves, get?_after hfresh⟩
  obtain ⟨before, old, after, hrecords, hold, -, hsave⟩ := save_listed fresh hr hid
  have hplace : (s.after saves).records[before.length]? = some old := by simp [hrecords]
  refine ⟨before.length, old, hplace, hold,
    fun j x hx hxid => place_unique hnodup hx hplace hxid hold, ?_⟩
  rw [hsave, hrecords]
  simp

/-- A record without an id, and one with an id. -/
def drafts : MemoryStore := ⟨[{ name := "draft" }, { id := some "a", name := "old" }]⟩

/-- Saves of a new record, of the known one, and of one that is not there. -/
def draftSaves : List (String × Record) :=
  [("u", { name := "new" }), ("v", { id := some "a", name := "newer" }),
    ("w", { id := some "b", name := "lost" })]

theorem saves_outcome_drafts : drafts.ids.Nodup ∧ drafts.Fresh draftSaves ∧
    (drafts.after draftSaves).ids.Nodup ∧
    (drafts.after draftSaves).get? "a" = some { id := some "a", name := "newer" } := by
  have hids : drafts.ids.Nodup := by decide
  have hfresh : drafts.Fresh draftSaves := ⟨by decide, by simp, by simp, trivial⟩
  obtain ⟨-, -, -, hnodup, -, hget⟩ := saves_outcome hids hfresh
  exact ⟨hids, hfresh, hnodup, hget "a"⟩

end WorkflowCanvas.MemoryStore
