import WorkflowCanvas.Proofs.Json.Proper

/-! Members of an object that may be `null` or be left out. A description of fields whose readers take
`null` for a missing member reads an object with such members and without them alike: the same value, or
the same misfit. -/
namespace WorkflowCanvas

/-! ### Values with and without such members -/

namespace Json

/-- The members of an object without some that are `null` under spare keys. `inner` is what may become
of a value under a key that stays. -/
inductive Drops (spare : List String) (inner : String → Json → Json → Prop) :
    List (String × Json) → List (String × Json) → Prop
  | nil : Drops spare inner [] []
  | keep {key : String} {j j' : Json} {members members' : List (String × Json)}
    (hj : inner key j j') (h : Drops spare inner members members') :
    Drops spare inner ((key, j) :: members) ((key, j') :: members')
  | drop {key : String} {members members' : List (String × Json)} (hkey : key ∈ spare)
    (h : Drops spare inner members members') : Drops spare inner ((key, .null) :: members) members'

/-- An object without such members, or a value as it is. -/
inductive Sheds (spare : List String) (inner : String → Json → Json → Prop) : Json → Json → Prop
  | same (j : Json) : Sheds spare inner j j
  | obj {members members' : List (String × Json)} (h : Drops spare inner members members') :
    Sheds spare inner (.obj members) (.obj members')

/-- A list item by item, or a value as it is. -/
inductive Each (R : Json → Json → Prop) : Json → Json → Prop
  | same (j : Json) : Each R j j
  | arr {items items' : List Json} (h : List.Forall₂ R items items') : Each R (.arr items) (.arr items')

end Json

/-! ### Fields -/

/-- What the reader makes of a proper value is what it makes of a related one. -/
def Reader.Equates {α : Type} (r : Reader α) (R : Json → Json → Prop) : Prop :=
  ∀ j j', j.Proper → R j j' → r.ofJson j = r.ofJson j'

section
variable {σ τ : Type} {spare : List String} {inner : String → Json → Json → Prop}

/-- One field, where states of reading are the same that differ only in fields that have been read from
`null` in one of them, and not at all in the other. -/
structure Seat.Evens (spare : List String) (inner : String → Json → Json → Prop) (start : σ)
    (Same : σ → σ → Prop) (seat : Seat σ) : Prop where
  free : seat.taken start = false
  equates : seat.read.Equates (inner seat.key)
  step : ∀ j change, seat.read.ofJson j = .ok change →
    ∀ s s', Same s s' → Same (change s) (change s')
  skip : seat.key ∈ spare → ∃ change, seat.read.ofJson .null = .ok change ∧
    ∀ s s', seat.taken s' = false → Same s s' → Same (change s) s'

theorem Seat.Evens.lift {seat : Seat σ} {start : σ} {Same : σ → σ → Prop} {get : τ → σ}
    {change : (σ → σ) → τ → τ} {first : τ} {Both : τ → τ → Prop}
    (h : seat.Evens spare inner start Same) (hfirst : get first = start)
    (hget : ∀ s s', Both s s' → Same (get s) (get s'))
    (hchange : ∀ g g' s s', Both s s' → Same (g (get s)) (g' (get s')) →
      Both (change g s) (change g' s'))
    (hid : ∀ s, change id s = s) : (seat.lift get change).Evens spare inner first Both where
  free := (congrArg seat.taken hfirst).trans h.free
  equates j j' hj hR := congrArg (Except.map change) (h.equates j j' hj hR)
  step j g hread s s' hs := by
    obtain ⟨g, hinner, rfl⟩ := map_eq_ok.mp hread
    exact hchange g g s s' hs (h.step j g hinner _ _ (hget s s' hs))
  skip hkey := by
    obtain ⟨g, hread, hskip⟩ := h.skip hkey
    refine ⟨change g, map_eq_ok.mpr ⟨g, hread, rfl⟩, fun s s' htaken hs => ?_⟩
    have hboth := hchange g id s s' hs (hskip _ _ htaken (hget s s' hs))
    rwa [hid] at hboth

/-- Reading the one field does not take the other. -/
def Seat.Apart (seat other : Seat σ) : Prop :=
  ∀ j change, seat.read.ofJson j = .ok change → ∀ s, other.taken (change s) = other.taken s

theorem Seat.Apart.lift {seat other : Seat σ} {get : τ → σ} {change : (σ → σ) → τ → τ}
    (h : seat.Apart other) (hget : ∀ g s, get (change g s) = g (get s)) :
    (seat.lift get change).Apart (other.lift get change) := by
  intro j g hread s
  obtain ⟨g, hinner, rfl⟩ := map_eq_ok.mp hread
  exact (congrArg other.taken (hget g s)).trans (h j g hinner (get s))

end

namespace Fields
variable {α β : Type} {spare : List String} {inner : String → Json → Json → Prop}

structure Evens (fields : Fields α) (spare : List String) (inner : String → Json → Json → Prop)
    (Same : fields.State → fields.State → Prop) : Prop where
  start : Same fields.start fields.start
  seats : ∀ seat ∈ fields.seats, seat.Evens spare inner fields.start Same
  apart : ∀ seat ∈ fields.seats, ∀ other ∈ fields.seats, other.key ≠ seat.key → seat.Apart other
  finish : ∀ s s', Same s s' → fields.finish s = fields.finish s'

/-- Members that are `null` under spare keys are read as if they were not there. -/
def Spares (fields : Fields α) (spare : List String) (inner : String → Json → Json → Prop) : Prop :=
  ∃ Same, fields.Evens spare inner Same

theorem spares_pure (a : α) : (Pure.pure a : Fields α).Spares spare inner :=
  ⟨fun _ _ => True, trivial, by rintro _ ⟨⟩, by rintro _ ⟨⟩, fun _ _ _ => rfl⟩

theorem forall_seats_ap {f : Fields (α → β)} {x : Fields α} {P : Seat (f.State × x.State) → Prop} :
    (∀ seat ∈ (ap f x).seats, P seat) ↔
      (∀ seat ∈ f.seats, P (seat.lift Prod.fst fun g s => (g s.1, s.2))) ∧
      ∀ seat ∈ x.seats, P (seat.lift Prod.snd fun g s => (s.1, g s.2)) :=
  List.forall_mem_append.trans (and_congr List.forall_mem_map List.forall_mem_map)

theorem Spares.seq {f : Fields (α → β)} {x : Fields α} (hf : f.Spares spare inner)
    (hx : x.Spares spare inner) : (f <*> x).Spares spare inner := by
  obtain ⟨Same, hf⟩ := hf
  obtain ⟨Same', hx⟩ := hx
  show (ap f x).Spares spare inner
  refine ⟨fun s s' => Same s.1 s'.1 ∧ Same' s.2 s'.2, ⟨hf.start, hx.start⟩,
    forall_seats_ap.mpr ⟨fun seat hseat => ?_, fun seat hseat => ?_⟩,
    forall_seats_ap.mpr ⟨fun seat hseat => ?_, fun seat hseat => ?_⟩, fun s s' hs => ?_⟩
  · exact (hf.seats seat hseat).lift rfl (fun _ _ hs => hs.1) (fun _ _ _ _ hs h => ⟨h, hs.2⟩)
      fun _ => rfl
  · exact (hx.seats seat hseat).lift rfl (fun _ _ hs => hs.2) (fun _ _ _ _ hs h => ⟨hs.1, h⟩)
      fun _ => rfl
  · refine forall_seats_ap.mpr ⟨fun other hother hne => ?_, fun other _ _ j g hread s => ?_⟩
    · exact (hf.apart seat hseat other hother hne).lift fun _ _ => rfl
    · obtain ⟨g, -, rfl⟩ := map_eq_ok.mp hread
      rfl
  · refine forall_seats_ap.mpr ⟨fun other _ _ j g hread s => ?_, fun other hother hne => ?_⟩
    · obtain ⟨g, -, rfl⟩ := map_eq_ok.mp hread
      rfl
    · exact (hx.apart seat hseat other hother hne).lift fun _ _ => rfl
  · show (f.finish s.1 >>= fun g => x.finish s.2 >>= fun a => .ok (g a)) = _
    rw [hf.finish s.1 s'.1 hs.1, hx.finish s.2 s'.2 hs.2]
    rfl

theorem Spares.map {f : α → β} {x : Fields α} (hx : x.Spares spare inner) :
    (f <$> x).Spares spare inner := (spares_pure f).seq hx

theorem Spares.one {key : String} {r : Reader α} {absent : Except Misfit α} {ending : Bool}
    (hr : r.Equates (inner key)) (hnull : key ∈ spare → r.ofJson .null = absent ∧ ∃ a, absent = .ok a) :
    (Fields.one key r absent ending).Spares spare inner := by
  refine ⟨fun s s' => (Fields.one key r absent ending).finish s =
      (Fields.one key r absent ending).finish s', rfl,
    List.forall_mem_singleton.mpr ⟨rfl, fun j j' hj hR => congrArg (Except.map _) (hr j j' hj hR), ?_, ?_⟩,
    List.forall_mem_singleton.mpr (List.forall_mem_singleton.mpr fun hne => absurd rfl hne),
    fun _ _ hs => hs⟩
  · intro j change hread s s' _
    obtain ⟨a, -, rfl⟩ := map_eq_ok.mp hread
    rfl
  · intro hkey
    obtain ⟨hread, a, rfl⟩ := hnull hkey
    refine ⟨_, map_eq_ok.mpr ⟨a, hread, rfl⟩, fun s s' htaken _ => ?_⟩
    obtain rfl : s' = none := Option.not_isSome_iff_eq_none.mp (Bool.eq_false_iff.mp htaken)
    rfl

theorem Spares.required {key : String} {r : Reader α} (hr : r.Equates (inner key))
    (hkey : key ∉ spare) : (required key r).Spares spare inner :=
  .one hr fun h => absurd h hkey

/-- A field whose reader takes `null` for its default. -/
theorem Spares.optional {key : String} {r : Reader α} {default : α} (hr : r.Equates (inner key))
    (hnull : key ∈ spare → r.ofJson .null = .ok default) : (optional key r default).Spares spare inner :=
  .one hr fun h => ⟨hnull h, default, rfl⟩

variable {fields : Fields α} {Same : fields.State → fields.State → Prop} {κ : Type}
  {other : String → Json → κ → κ} {members members' : List (String × Json)} {s s' : fields.State}
  {rest : κ}

/-- Both objects are read to states that are the same, or both meet the same misfit. -/
theorem Evens.ofMembers (h : fields.Evens spare inner Same)
    (hspare : ∀ key ∈ spare, key ∈ fields.keys)
    (hother : ∀ key ∉ fields.keys, ∀ j j', inner key j j' → j = j')
    (hdrops : Json.Drops spare inner members members') (hkeys : (members.map (·.1)).Nodup)
    (hproper : ∀ m ∈ members, m.2.Proper) (hs : Same s s')
    (hfree : ∀ seat ∈ fields.seats, seat.key ∈ members.map (·.1) →
      seat.taken s = false ∧ seat.taken s' = false)
    (other : String → Json → κ → κ) (rest : κ) :
    (∃ e, fields.ofMembers other members s rest = .error e ∧
      fields.ofMembers other members' s' rest = .error e) ∨
    ∃ t t' rest', fields.ofMembers other members s rest = .ok (t, rest') ∧
      fields.ofMembers other members' s' rest = .ok (t', rest') ∧ Same t t' := by
  induction hdrops generalizing s s' rest with
  | nil => exact .inr ⟨s, s', rest, by rw [Fields.ofMembers], by rw [Fields.ofMembers], hs⟩
  | @keep key j j' members members' hj _ ih =>
    obtain ⟨hnew, hapart⟩ := List.nodup_cons.mp hkeys
    obtain ⟨hproperj, hvalues⟩ := List.forall_mem_cons.mp hproper
    cases hseat : fields.seat? key with
    | none =>
      obtain rfl := hother key ((fields.seat?_eq_none_iff key).mp hseat) j j' hj
      rw [ofMembers_cons_of_none hseat, ofMembers_cons_of_none hseat]
      exact ih hapart hvalues hs (fun seat hmem hkey => hfree seat hmem (List.mem_cons_of_mem _ hkey)) _
    | some seat =>
      obtain ⟨hmem, -⟩ := seat?_mem hseat
      obtain rfl : seat.key = key := by simpa using List.find?_some hseat
      obtain ⟨htaken, htaken'⟩ := hfree seat hmem List.mem_cons_self
      have hread := (h.seats seat hmem).equates j j' hproperj hj
      rw [Fields.ofMembers, Fields.ofMembers, hseat]
      simp only [htaken, htaken', Bool.false_eq_true, if_false, ← hread]
      cases hchange : seat.read.ofJson j with
      | error e => exact .inl ⟨e, rfl, rfl⟩
      | ok change =>
        refine ih hapart hvalues ((h.seats seat hmem).step j change hchange s s' hs)
          (fun other hmem' hkey => ?_) rest
        have hne : other.key ≠ seat.key := fun heq => hnew (heq ▸ hkey)
        rw [h.apart seat hmem other hmem' hne j change hchange,
          h.apart seat hmem other hmem' hne j change hchange]
        exact hfree other hmem' (List.mem_cons_of_mem _ hkey)
  | @drop key members members' hkey _ ih =>
    obtain ⟨hnew, hapart⟩ := List.nodup_cons.mp hkeys
    have hvalues := (List.forall_mem_cons.mp hproper).2
    obtain ⟨seat, hseat⟩ : ∃ seat, fields.seat? key = some seat := by
      rw [← Option.ne_none_iff_exists', ne_eq, seat?_eq_none_iff, not_not]
      exact hspare key hkey
    obtain ⟨hmem, -⟩ := seat?_mem hseat
    obtain rfl : seat.key = key := by simpa using List.find?_some hseat
    obtain ⟨htaken, htaken'⟩ := hfree seat hmem List.mem_cons_self
    obtain ⟨change, hread, hchange⟩ := (h.seats seat hmem).skip hkey
    rw [Fields.ofMembers, hseat]
    simp only [htaken, Bool.false_eq_true, if_false, hread]
    refine ih hapart hvalues (hchange s s' htaken' hs) (fun other hmem' hkey' => ?_) rest
    have hne : other.key ≠ seat.key := fun heq => hnew (heq ▸ hkey')
    rw [h.apart seat hmem other hmem' hne .null change hread]
    exact hfree other hmem' (List.mem_cons_of_mem _ hkey')

/-- Whatever is made of what the fields give and of the members under other keys, is made of both
objects. -/
theorem Spares.ofMembers {γ : Type} (h : fields.Spares spare inner)
    (hspare : ∀ key ∈ spare, key ∈ fields.keys)
    (hother : ∀ key ∉ fields.keys, ∀ j j', inner key j j' → j = j')
    (hdrops : Json.Drops spare inner members members') (hproper : (Json.obj members).Proper)
    (make : Except Misfit α → κ → Except Misfit γ) :
    (fields.ofMembers other members fields.start rest >>= fun x => make (fields.finish x.1) x.2) =
      fields.ofMembers other members' fields.start rest >>= fun x => make (fields.finish x.1) x.2 := by
  obtain ⟨Same, h⟩ := h
  obtain ⟨hkeys, hvalues⟩ := Json.proper_obj_iff.mp hproper
  have hfree : ∀ seat ∈ fields.seats, seat.taken fields.start = false := fun seat hseat =>
    (h.seats seat hseat).free
  have hread := h.ofMembers hspare hother hdrops hkeys hvalues h.start
    (fun seat hseat _ => ⟨hfree seat hseat, hfree seat hseat⟩) other rest
  obtain ⟨e, hleft, hright⟩ | ⟨t, t', rest', hleft, hright, hsame⟩ := hread
  · rw [hleft, hright]
  · rw [hleft, hright]
    exact congrArg (make · rest') (h.finish t t' hsame)

/-- An item of a list of fields counts for no more than what its field's reader makes of it. -/
theorem ofItems_congr {σ : Type} {seats : List (Seat σ)} {seat : Seat σ} {expected : String}
    {items rest : List Json} {j j' : Json} (hseat : seats[items.length]? = some seat)
    (h : seat.read.ofJson j = seat.read.ofJson j') (count : Nat) (s : σ) :
    ofItems expected count seats (items ++ j :: rest) s =
      ofItems expected count seats (items ++ j' :: rest) s := by
  induction items generalizing seats count s with
  | nil =>
    cases seats with
    | nil => cases hseat
    | cons first seats =>
      obtain rfl : first = seat := by simpa using hseat
      rw [List.nil_append, List.nil_append, ofItems, ofItems, h]
  | cons x items ih =>
    cases seats with
    | nil => cases hseat
    | cons first seats =>
      rw [List.cons_append, List.cons_append, ofItems, ofItems]
      exact congrArg _ (funext fun change => ih hseat (count + 1) (change s))

end Fields

/-! ### Readers -/

namespace Reader
variable {α : Type} {r : Reader α} {R : Json → Json → Prop} {spare : List String}
  {inner : String → Json → Json → Prop} {name : String}

theorem equates_eq (r : Reader α) : r.Equates Eq := fun _ _ _ h => congrArg r.ofJson h

theorem map_ofJson_congr {β : Type} {f : α → β} {j j' : Json} (h : r.ofJson j = r.ofJson j') :
    (r.map f).ofJson j = (r.map f).ofJson j' := congrArg (Except.map f) h

theorem Equates.nullAs {default : α} (hr : r.Equates R) (hleft : ∀ j, R .null j → j = .null)
    (hright : ∀ j, R j .null → j = .null) : (nullAs default r).Equates R := by
  intro j j' hj hR
  by_cases hnull : j = .null
  · subst hnull
    rw [hleft j' hR]
  · have hnull' : j' ≠ .null := fun h => hnull (hright j (h ▸ hR))
    rw [nullAs_ofJson hnull, nullAs_ofJson hnull']
    exact hr j j' hj hR

theorem Equates.list (hr : r.Equates R) : (list r).Equates (Json.Each R) := by
  intro j j' hj h
  cases h with
  | same => rfl
  | arr h =>
    have hproper := Json.proper_arr_iff.mp hj
    show List.mapM _ _ = List.mapM _ _
    clear hj
    induction h with
    | nil => rfl
    | cons hR _ ih =>
      obtain ⟨hj, hproper⟩ := List.forall_mem_cons.mp hproper
      rw [List.mapM_cons, List.mapM_cons, hr _ _ hj hR, ih hproper]

/-- A list, or nothing in its place. -/
theorem Equates.nullAsList {default : List α} (hr : r.Equates R) :
    (Reader.nullAs default (Reader.list r)).Equates (Json.Each R) :=
  hr.list.nullAs (by rintro _ ⟨⟩; rfl) (by rintro _ ⟨⟩; rfl)

theorem Equates.record {fields : Fields α} (h : fields.Spares spare inner)
    (hspare : ∀ key ∈ spare, key ∈ fields.keys)
    (hother : ∀ key ∉ fields.keys, ∀ j j', inner key j j' → j = j') :
    (record name fields).Equates (Json.Sheds spare inner) := by
  intro j j' hj hsheds
  cases hsheds with
  | same => rfl
  | obj hdrops => exact h.ofMembers hspare hother hdrops hj fun read _ => read

theorem record_arr_congr {fields : Fields α} {seat : Seat fields.State} (items : List Json)
    {rest : List Json} {j j' : Json} (hseat : fields.seats[items.length]? = some seat)
    (h : seat.read.ofJson j = seat.read.ofJson j') :
    (Reader.record name fields).ofJson (.arr (items ++ j :: rest)) =
      (Reader.record name fields).ofJson (.arr (items ++ j' :: rest)) := by
  have hlength : (items ++ j :: rest).length = (items ++ j' :: rest).length := by simp
  simp only [Reader.record, hlength, Fields.ofItems_congr hseat h]

theorem Equates.openRecord {fields : Fields (KeyMap Json → α)} (h : fields.Spares spare inner)
    (hspare : ∀ key ∈ spare, key ∈ fields.keys)
    (hother : ∀ key ∉ fields.keys, ∀ j j', inner key j j' → j = j') :
    (openRecord name fields).Equates (Json.Sheds spare inner) := by
  intro j j' hj hsheds
  cases hsheds with
  | same => rfl
  | obj hdrops =>
    exact h.ofMembers hspare hother hdrops hj fun read rest => read >>= fun make => .ok (make rest)

end Reader
end WorkflowCanvas
