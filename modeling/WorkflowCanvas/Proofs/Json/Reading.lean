import Mathlib.Data.List.Forall2
import WorkflowCanvas.Json.Fields

/-! How records are read from objects. A field is looked up by its key, wherever among the members it
stands, and each of two descriptions of fields is read as if the other were not there. -/
namespace WorkflowCanvas

theorem map_eq_ok {ε α β : Type} {x : Except ε α} {f : α → β} {b : β} :
    x.map f = .ok b ↔ ∃ a, x = .ok a ∧ f a = b := by
  cases x with
  | error e => simp [Except.map]
  | ok a => simp [Except.map]

theorem bind_eq_ok {ε α β : Type} {x : Except ε α} {f : α → Except ε β} {b : β} :
    (x >>= f) = .ok b ↔ ∃ a, x = .ok a ∧ f a = .ok b := by
  cases x with
  | error e => simp [bind, Except.bind]
  | ok a => simp [bind, Except.bind]

theorem mapError_eq_ok {ε ε' α : Type} {x : Except ε α} {f : ε → ε'} {a : α} :
    x.mapError f = .ok a ↔ x = .ok a := by
  cases x with
  | error e => simp [Except.mapError]
  | ok a => simp [Except.mapError]

namespace Fields
variable {α β : Type} {members : List (String × Json)}

/-- The keys of the fields, in the order of their declaration. -/
def keys (fields : Fields α) : List String := fields.seats.map (·.key)

/-- What an object with the given members is read as. -/
def Gives (fields : Fields α) (members : List (String × Json)) (a : α) : Prop :=
  ∃ s, fields.ofMembers (fun _ _ rest => rest) members fields.start () = .ok (s, ()) ∧
    fields.finish s = .ok a

theorem seat?_eq_none_iff (fields : Fields α) (key : String) :
    fields.seat? key = none ↔ key ∉ fields.keys := by
  simp [seat?, keys]

theorem seat?_mem {fields : Fields α} {key : String} {seat : Seat fields.State}
    (h : fields.seat? key = some seat) : seat ∈ fields.seats ∧ key ∈ fields.keys := by
  have hmem := List.mem_of_find?_eq_some h
  have hkey : seat.key = key := by simpa using List.find?_some h
  exact ⟨hmem, List.mem_map.mpr ⟨seat, hmem, hkey⟩⟩

section members
variable {fields : Fields α} {κ : Type} {other : String → Json → κ → κ} {key : String} {j : Json}
  {s s' : fields.State} {rest rest' : κ}

/-- A member under another key is passed over. -/
theorem ofMembers_cons_of_none (h : fields.seat? key = none) :
    fields.ofMembers other ((key, j) :: members) s rest =
      fields.ofMembers other members s (other key j rest) := by
  rw [ofMembers, h]

/-- A field is read once. -/
theorem ofMembers_cons_of_some {seat : Seat fields.State} (h : fields.seat? key = some seat) :
    fields.ofMembers other ((key, j) :: members) s rest = .ok (s', rest') ↔
      seat.taken s = false ∧ ∃ change, seat.read.ofJson j = .ok change ∧
        fields.ofMembers other members (change s) rest = .ok (s', rest') := by
  rw [ofMembers, h]
  cases htaken : seat.taken s with
  | true => simp [htaken]
  | false => simp [htaken, bind_eq_ok]

/-- The members under other keys do not change what is read, and are gathered as they come. -/
theorem ofMembers_eq_ok_iff : fields.ofMembers other members s rest = .ok (s', rest') ↔
    fields.ofMembers (fun _ _ rest => rest) members s () = .ok (s', ()) ∧
    (members.filter (·.1 ∉ fields.keys)).foldl (fun acc m => other m.1 m.2 acc) rest = rest' := by
  induction members generalizing s rest with
  | nil => simp [ofMembers]
  | cons m members ih =>
    obtain ⟨key, j⟩ := m
    cases hseat : fields.seat? key with
    | none =>
      have hkey := (fields.seat?_eq_none_iff key).mp hseat
      rw [ofMembers_cons_of_none hseat, ofMembers_cons_of_none hseat, ih]
      simp [hkey]
    | some seat =>
      have hkey := (seat?_mem hseat).2
      rw [ofMembers_cons_of_some hseat, ofMembers_cons_of_some hseat]
      simp only [ih, List.filter_cons, hkey, not_true_eq_false, decide_false, Bool.false_eq_true,
        if_false]
      constructor
      · rintro ⟨htaken, change, hread, hmembers, hrest⟩
        exact ⟨⟨htaken, change, hread, hmembers⟩, hrest⟩
      · rintro ⟨⟨htaken, change, hread, hmembers⟩, hrest⟩
        exact ⟨htaken, change, hread, hmembers, hrest⟩

end members

/-! ### Descriptions -/

@[simp] theorem keys_pure (a : α) : (Pure.pure a : Fields α).keys = [] := rfl

@[simp] theorem keys_seq (f : Fields (α → β)) (x : Fields α) : (f <*> x).keys = f.keys ++ x.keys := by
  show (ap f x).keys = _
  simp [keys, ap, Seat.lift, Function.comp_def]

@[simp] theorem keys_map (f : α → β) (x : Fields α) : (f <$> x).keys = x.keys := by
  show ((Pure.pure f : Fields (α → β)) <*> x).keys = _
  simp

@[simp] theorem keys_required (key : String) (r : Reader α) : (required key r).keys = [key] := rfl

@[simp] theorem keys_optional (key : String) (r : Reader α) (default : α) :
    (optional key r default).keys = [key] := rfl

theorem ofMembers_pure (a : α) (members : List (String × Json)) :
    (Fields.pure a).ofMembers (fun _ _ rest => rest) members () () = .ok ((), ()) := by
  induction members with
  | nil => rfl
  | cons m members ih => exact ih

@[simp] theorem gives_pure {a b : α} : (Pure.pure a : Fields α).Gives members b ↔ a = b := by
  constructor
  · rintro ⟨s, -, hfinish⟩
    exact Except.ok.inj hfinish
  · rintro rfl
    exact ⟨(), ofMembers_pure a members, rfl⟩

theorem seat?_ap (f : Fields (α → β)) (x : Fields α) (key : String) :
    (ap f x).seat? key =
      ((f.seat? key).map (Seat.lift Prod.fst fun g s => (g s.1, s.2))).or
        ((x.seat? key).map (Seat.lift Prod.snd fun g s => (s.1, g s.2))) := by
  simp only [seat?, ap, List.find?_append, List.find?_map]
  rfl

/-- Each of two descriptions reads its own fields, if they share no key. -/
theorem ofMembers_ap {f : Fields (α → β)} {x : Fields α} (hdisj : ∀ key ∈ f.keys, key ∉ x.keys)
    {s s' : f.State} {t t' : x.State} :
    (ap f x).ofMembers (fun _ _ rest => rest) members (s, t) () = .ok ((s', t'), ()) ↔
      f.ofMembers (fun _ _ rest => rest) members s () = .ok (s', ()) ∧
      x.ofMembers (fun _ _ rest => rest) members t () = .ok (t', ()) := by
  induction members generalizing s t with
  | nil =>
    show Except.ok ((s, t), ()) = .ok ((s', t'), ()) ↔ _
    simp [ofMembers]
  | cons m members ih =>
    obtain ⟨key, j⟩ := m
    have hap := seat?_ap f x key
    cases hf : f.seat? key with
    | some seat =>
      have hx := (x.seat?_eq_none_iff key).mpr (hdisj key (seat?_mem hf).2)
      rw [hf, hx] at hap
      refine (ofMembers_cons_of_some hap).trans ?_
      rw [ofMembers_cons_of_some hf, ofMembers_cons_of_none hx]
      constructor
      · rintro ⟨htaken, _, hlift, hmembers⟩
        obtain ⟨change, hread, rfl⟩ := map_eq_ok.mp hlift
        obtain ⟨hfst, hsnd⟩ := ih.mp hmembers
        exact ⟨⟨htaken, change, hread, hfst⟩, hsnd⟩
      · rintro ⟨⟨htaken, change, hread, hfst⟩, hsnd⟩
        exact ⟨htaken, _, map_eq_ok.mpr ⟨change, hread, rfl⟩, ih.mpr ⟨hfst, hsnd⟩⟩
    | none =>
      cases hx : x.seat? key with
      | none =>
        rw [hf, hx] at hap
        rw [ofMembers_cons_of_none hf, ofMembers_cons_of_none hx, ← ih]
        exact iff_of_eq (congrArg (· = _) (ofMembers_cons_of_none hap))
      | some seat =>
        rw [hf, hx] at hap
        refine (ofMembers_cons_of_some hap).trans ?_
        rw [ofMembers_cons_of_none hf, ofMembers_cons_of_some hx]
        constructor
        · rintro ⟨htaken, _, hlift, hmembers⟩
          obtain ⟨change, hread, rfl⟩ := map_eq_ok.mp hlift
          obtain ⟨hfst, hsnd⟩ := ih.mp hmembers
          exact ⟨hfst, htaken, change, hread, hsnd⟩
        · rintro ⟨hfst, htaken, change, hread, hsnd⟩
          exact ⟨htaken, _, map_eq_ok.mpr ⟨change, hread, rfl⟩, ih.mpr ⟨hfst, hsnd⟩⟩

@[simp] theorem gives_seq {f : Fields (α → β)} {x : Fields α}
    (hdisj : ∀ key ∈ f.keys, key ∉ x.keys) {b : β} :
    (f <*> x).Gives members b ↔ ∃ g a, f.Gives members g ∧ x.Gives members a ∧ g a = b := by
  show (ap f x).Gives members b ↔ _
  constructor
  · rintro ⟨⟨s, t⟩, hmembers, hfinish⟩
    obtain ⟨hf, hx⟩ := (ofMembers_ap hdisj).mp hmembers
    obtain ⟨g, hg, hfinish⟩ := bind_eq_ok.mp hfinish
    obtain ⟨a, ha, hb⟩ := bind_eq_ok.mp hfinish
    exact ⟨g, a, ⟨s, hf, hg⟩, ⟨t, hx, ha⟩, Except.ok.inj hb⟩
  · rintro ⟨g, a, ⟨s, hf, hg⟩, ⟨t, hx, ha⟩, rfl⟩
    refine ⟨(s, t), (ofMembers_ap hdisj).mpr ⟨hf, hx⟩, ?_⟩
    exact bind_eq_ok.mpr ⟨g, hg, bind_eq_ok.mpr ⟨a, ha, rfl⟩⟩

@[simp] theorem gives_map {f : α → β} {x : Fields α} {b : β} :
    (f <$> x).Gives members b ↔ ∃ a, x.Gives members a ∧ f a = b := by
  show ((Pure.pure f : Fields (α → β)) <*> x).Gives members b ↔ _
  rw [gives_seq (by simp)]
  simp only [gives_pure]
  constructor
  · rintro ⟨_, a, rfl, ha, hb⟩
    exact ⟨a, ha, hb⟩
  · rintro ⟨a, ha, hb⟩
    exact ⟨f, a, rfl, ha, hb⟩

/-! ### Single fields -/

variable {key : String} {r : Reader α} {absent : Except Misfit α} {spare : Bool}

theorem seat?_one_of_ne {other : String} (h : other ≠ key) :
    (one key r absent spare).seat? other = none := by
  rw [seat?_eq_none_iff]
  simpa [keys, one] using h

theorem seat?_one (key : String) : (one key r absent spare).seat? key =
    some ⟨key, Option.isSome, r.map fun a _ => some a, spare⟩ := by
  simp [seat?, one]

/-- A field is not read from members under other keys. -/
theorem ofMembers_one_of_notMem (hkey : key ∉ members.map (·.1)) (s : Option α) :
    (one key r absent spare).ofMembers (fun _ _ rest => rest) members s () = .ok (s, ()) := by
  induction members with
  | nil => rfl
  | cons m members ih =>
    obtain ⟨other, j⟩ := m
    simp only [List.map_cons, List.mem_cons, not_or] at hkey
    exact (ofMembers_cons_of_none (seat?_one_of_ne (Ne.symm hkey.1))).trans (ih hkey.2)

theorem ofMembers_one (hkeys : (members.map (·.1)).Nodup) :
    (one key r absent spare).ofMembers (fun _ _ rest => rest) members none () =
      match KeyMap.get? members key with
      | some j => (r.ofJson j).map fun a => (some a, ())
      | none => .ok (none, ()) := by
  induction members with
  | nil => rfl
  | cons m members ih =>
    obtain ⟨other, j⟩ := m
    obtain ⟨hnew, hrest⟩ := List.nodup_cons.mp hkeys
    rw [KeyMap.get?_cons]
    by_cases hother : key = other
    · subst hother
      have hread : ∀ a, (one key r absent spare).ofMembers (fun _ _ rest => rest) members (some a) ()
          = .ok (some a, ()) := fun a => ofMembers_one_of_notMem hnew (some a)
      simp only [ofMembers, seat?, one, List.find?_cons, beq_self_eq_true, Option.isSome_none,
        Bool.false_eq_true, if_false, if_true, Reader.map]
      cases r.ofJson j with
      | error e => rfl
      | ok a => exact hread a
    · rw [if_neg hother]
      exact (ofMembers_cons_of_none (seat?_one_of_ne (Ne.symm hother))).trans (ih hrest)

/-- A field is read from the member under its key. -/
theorem gives_one (hkeys : (members.map (·.1)).Nodup) {a : α} :
    (one key r absent spare).Gives members a ↔
      (∃ j, KeyMap.get? members key = some j ∧ r.ofJson j = .ok a) ∨
      KeyMap.get? members key = none ∧ absent = .ok a := by
  unfold Gives
  show (∃ s, (one key r absent spare).ofMembers _ members none () = _ ∧ _) ↔ _
  rw [ofMembers_one hkeys]
  cases hget : KeyMap.get? members key with
  | none =>
    constructor
    · rintro ⟨s, hs, hfinish⟩
      cases hs
      exact .inr ⟨rfl, hfinish⟩
    · rintro (⟨j, hj, -⟩ | ⟨-, habsent⟩)
      · cases hj
      · exact ⟨none, rfl, habsent⟩
  | some j =>
    constructor
    · rintro ⟨s, hs, hfinish⟩
      obtain ⟨b, hb, heq⟩ := map_eq_ok.mp hs
      cases heq
      exact .inl ⟨j, rfl, hb.trans hfinish⟩
    · rintro (⟨_, hj, ha⟩ | ⟨hnone, -⟩)
      · cases hj
        exact ⟨some a, map_eq_ok.mpr ⟨a, ha, rfl⟩, rfl⟩
      · cases hnone

@[simp] theorem gives_required (hkeys : (members.map (·.1)).Nodup) {a : α} :
    (required key r).Gives members a ↔ ∃ j, KeyMap.get? members key = some j ∧ r.ofJson j = .ok a := by
  rw [required, gives_one hkeys]
  simp

@[simp] theorem gives_optional (hkeys : (members.map (·.1)).Nodup) {default a : α} :
    (optional key r default).Gives members a ↔
      (∃ j, KeyMap.get? members key = some j ∧ r.ofJson j = .ok a) ∨
      KeyMap.get? members key = none ∧ default = a := by
  rw [optional, gives_one hkeys]
  simp

theorem ofMembers_one_of_some {a : α} {s : Option α} :
    (one key r absent spare).ofMembers (fun _ _ rest => rest) members (some a) () = .ok (s, ()) ↔
      members.filter (·.1 == key) = [] ∧ some a = s := by
  induction members with
  | nil =>
    show Except.ok (some a, ()) = .ok (s, ()) ↔ _
    simp
  | cons m members ih =>
    obtain ⟨other, j⟩ := m
    by_cases hother : other = key
    · subst hother
      refine (ofMembers_cons_of_some (seat?_one _)).trans (iff_of_false ?_ (by simp))
      rintro ⟨⟨⟩, -⟩
    · rw [List.filter_cons_of_neg (by simpa using hother), ← ih]
      exact iff_of_eq (congrArg (· = _) (ofMembers_cons_of_none (seat?_one_of_ne hother)))

theorem ofMembers_one_eq_some (absent : Except Misfit α) (spare : Bool) {a : α} :
    (one key r absent spare).ofMembers (fun _ _ rest => rest) members none () = .ok (some a, ()) ↔
      ∃ j, members.filter (·.1 == key) = [(key, j)] ∧ r.ofJson j = .ok a := by
  induction members with
  | nil =>
    refine iff_of_false ?_ (by simp)
    rintro ⟨⟩
  | cons m members ih =>
    obtain ⟨other, j⟩ := m
    by_cases hother : other = key
    · subst hother
      refine (ofMembers_cons_of_some (seat?_one _)).trans ?_
      rw [List.filter_cons_of_pos (by simp)]
      constructor
      · rintro ⟨-, change, hread, hrest⟩
        obtain ⟨b, hb, rfl⟩ := map_eq_ok.mp hread
        obtain ⟨hnone, hsame⟩ := ofMembers_one_of_some.mp hrest
        exact ⟨j, by rw [hnone], hb.trans (congrArg Except.ok (Option.some.inj hsame))⟩
      · rintro ⟨_, hfilter, hread⟩
        obtain ⟨hj, hnone⟩ := List.cons.inj hfilter
        obtain rfl := (Prod.mk.inj hj).2
        exact ⟨rfl, _, map_eq_ok.mpr ⟨a, hread, rfl⟩, ofMembers_one_of_some.mpr ⟨hnone, rfl⟩⟩
    · rw [List.filter_cons_of_neg (by simpa using hother), ← ih]
      exact iff_of_eq (congrArg (· = _) (ofMembers_cons_of_none (seat?_one_of_ne hother)))

/-- A field that has to be there is read from the one member under its key. -/
theorem gives_required_iff {a : α} : (required key r).Gives members a ↔
    ∃ j, members.filter (·.1 == key) = [(key, j)] ∧ r.ofJson j = .ok a := by
  rw [← ofMembers_one_eq_some (.error (.missing key)) false]
  constructor
  · rintro ⟨s, hs, hfinish⟩
    cases s with
    | none => cases hfinish
    | some b =>
      cases hfinish
      exact hs
  · exact fun hs => ⟨some a, hs, rfl⟩

end Fields

namespace Reader
variable {α : Type} {name : String} {members : List (String × Json)} {a : α}

theorem refuse_error (expected : String) (c : Cursor) : ∃ e, (refuse expected : Scan α) c = .error e := by
  rw [refuse]
  dsimp only
  split
  · exact ⟨_, rfl⟩
  · exact ⟨_, rfl⟩
  · cases h : Scan.json c.skipBlank with
    | error e => exact ⟨e, rfl⟩
    | ok x => exact ⟨_, rfl⟩

@[simp] theorem text_ofJson_str (s : String) : text.ofJson (.str s) = .ok s := rfl

@[simp] theorem members_ofJson_obj (m : KeyMap Json) : Reader.members.ofJson (.obj m) = .ok m := rfl

theorem nullAs_ofJson {default : α} {r : Reader α} {j : Json} (hj : j ≠ .null) :
    (nullAs default r).ofJson j = r.ofJson j := by
  cases j with
  | null => exact absurd rfl hj
  | _ => rfl

@[simp] theorem text_option_ofJson_orNull (value : Option String) :
    text.option.ofJson (.orNull (value.map .str)) = .ok value := by
  cases value <;> rfl

/-- A list is read item by item. -/
theorem list_ofJson_arr {r : Reader α} {items : List Json} {xs : List α} :
    (list r).ofJson (.arr items) = .ok xs ↔ List.Forall₂ (fun j x => r.ofJson j = .ok x) items xs := by
  show items.mapM r.ofJson = .ok xs ↔ _
  induction items generalizing xs with
  | nil =>
    constructor
    · intro h
      cases h
      exact .nil
    · intro h
      cases h
      rfl
  | cons j items ih =>
    simp only [List.mapM_cons, bind_eq_ok, ih]
    constructor
    · rintro ⟨x, hx, ys, hys, h⟩
      cases h
      exact .cons hx hys
    · rintro (_ | ⟨hx, hys⟩)
      exact ⟨_, hx, _, hys, rfl⟩

@[simp] theorem record_ofJson_obj {fields : Fields α} :
    (record name fields).ofJson (.obj members) = .ok a ↔ fields.Gives members a := by
  show (fields.ofMembers _ members fields.start () >>= fun x => fields.finish x.1) = _ ↔ _
  rw [bind_eq_ok]
  constructor
  · rintro ⟨⟨s, _⟩, hs, ha⟩
    exact ⟨s, hs, ha⟩
  · rintro ⟨s, hs, ha⟩
    exact ⟨(s, ()), hs, ha⟩

/-- The members under keys that no field has, in key order. -/
theorem openRecord_ofJson_obj {fields : Fields (KeyMap Json → α)} :
    (openRecord name fields).ofJson (.obj members) = .ok a ↔
      ∃ make, fields.Gives members make ∧
        make (KeyMap.ofEntries (members.filter (·.1 ∉ fields.keys))) = a := by
  show (fields.ofMembers _ members fields.start [] >>= fun x => fields.finish x.1 >>= fun make =>
    .ok (make x.2)) = _ ↔ _
  simp only [bind_eq_ok]
  constructor
  · rintro ⟨⟨s, rest⟩, hs, make, hmake, ha⟩
    obtain ⟨hs, hrest⟩ := Fields.ofMembers_eq_ok_iff.mp hs
    obtain rfl := Except.ok.inj ha
    exact ⟨make, ⟨s, hs, hmake⟩, congrArg make hrest⟩
  · rintro ⟨make, ⟨s, hs, hmake⟩, rfl⟩
    exact ⟨(s, _), Fields.ofMembers_eq_ok_iff.mpr ⟨hs, rfl⟩, make, hmake, rfl⟩

end Reader
end WorkflowCanvas
