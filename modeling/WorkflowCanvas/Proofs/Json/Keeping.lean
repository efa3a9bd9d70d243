import WorkflowCanvas.Proofs.Json.Range

/-! What is read can be held to what its parts can, be it from a value or from a text, and by whichever
form of a record. -/
namespace WorkflowCanvas
open Scan

/-- Whatever is read, from a value that is `H` or from a text, has the property. -/
structure Reader.Keeps {α : Type} (r : Reader α) (P : α → Prop) (H : Json → Prop := Json.Proper) :
    Prop where
  value : ∀ j a, H j → r.ofJson j = .ok a → P a
  text : ∀ c a c', r.ofText c = .ok (a, c') → P a

namespace Reader
variable {α β : Type} {P : α → Prop} {Q : β → Prop} {r : Reader α} {H : Json → Prop}

theorem Keeps.map {f : α → β} (hr : r.Keeps P H) (hf : ∀ a, P a → Q (f a)) : (r.map f).Keeps Q H := by
  refine ⟨fun j b hj hread => ?_, fun c b c' hread => ?_⟩
  · obtain ⟨a, ha, rfl⟩ := map_eq_ok.mp hread
    exact hf a (hr.value j a hj ha)
  · obtain ⟨⟨a, c₁⟩, ha, hb⟩ := map_eq_ok.mp hread
    obtain ⟨rfl, -⟩ := Prod.mk.inj hb
    exact hf a (hr.text c a c₁ ha)

end Reader

/-! ### Fields -/

namespace Fields
variable {α β : Type} {P : α → Prop} {Q : β → Prop} {H : Json → Prop}

/-- A property of what has been read so far that every field keeps, and that gives the property of
what is read in the end. -/
structure Kept (fields : Fields α) (P : α → Prop) (Inv : fields.State → Prop)
    (H : Json → Prop := Json.Proper) : Prop where
  start : Inv fields.start
  step : ∀ seat ∈ fields.seats, seat.read.Keeps (fun change => ∀ s, Inv s → Inv (change s)) H
  finish : ∀ s a, Inv s → fields.finish s = .ok a → P a

/-- Whatever is read of the fields has the property. -/
def Keeps (fields : Fields α) (P : α → Prop) (H : Json → Prop := Json.Proper) : Prop :=
  ∃ Inv, fields.Kept P Inv H

theorem keeps_pure {a : α} (h : P a) : (Pure.pure a : Fields α).Keeps P H :=
  ⟨fun _ => True, trivial, by rintro seat ⟨⟩, fun _ _ _ hfinish => Except.ok.inj hfinish ▸ h⟩

theorem Keeps.seq {f : Fields (α → β)} {x : Fields α} (hf : f.Keeps (fun g => ∀ a, P a → Q (g a)) H)
    (hx : x.Keeps P H) : (f <*> x).Keeps Q H := by
  obtain ⟨Inv, hf⟩ := hf
  obtain ⟨Jnv, hx⟩ := hx
  show (ap f x).Keeps Q H
  refine ⟨fun s => Inv s.1 ∧ Jnv s.2, ⟨hf.start, hx.start⟩, fun seat hseat => ?_, ?_⟩
  · obtain hseat | hseat := List.mem_append.mp hseat
    · obtain ⟨inner, hinner, rfl⟩ := List.mem_map.mp hseat
      exact (hf.step inner hinner).map fun g hg s hs => ⟨hg s.1 hs.1, hs.2⟩
    · obtain ⟨inner, hinner, rfl⟩ := List.mem_map.mp hseat
      exact (hx.step inner hinner).map fun g hg s hs => ⟨hs.1, hg s.2 hs.2⟩
  · intro s b hs hfinish
    obtain ⟨g, hg, hfinish⟩ := bind_eq_ok.mp hfinish
    obtain ⟨a, ha, hb⟩ := bind_eq_ok.mp hfinish
    exact Except.ok.inj hb ▸ hf.finish s.1 g hs.1 hg a (hx.finish s.2 a hs.2 ha)

theorem Keeps.map {f : α → β} {x : Fields α} (hx : x.Keeps P H) (hf : ∀ a, P a → Q (f a)) :
    (f <$> x).Keeps Q H := by
  show ((Pure.pure f : Fields (α → β)) <*> x).Keeps Q H
  exact (keeps_pure (P := fun g : α → β => ∀ a, P a → Q (g a)) hf).seq hx

theorem Keeps.one {key : String} {r : Reader α} {absent : Except Misfit α} {spare : Bool}
    (hr : r.Keeps P H) (habsent : ∀ a, absent = .ok a → P a) : (one key r absent spare).Keeps P H := by
  refine ⟨fun s => ∀ a, s = some a → P a, by rintro a ⟨⟩, fun seat hseat => ?_,
    fun s a hs hfinish => ?_⟩
  · obtain rfl := List.mem_singleton.mp hseat
    exact hr.map fun b hb s hs a ha => Option.some.inj ha ▸ hb
  · cases s with
    | none => exact habsent a hfinish
    | some b => exact Except.ok.inj hfinish ▸ hs b rfl

theorem Keeps.required {key : String} {r : Reader α} (hr : r.Keeps P H) :
    (required key r).Keeps P H :=
  .one hr (by rintro a ⟨⟩)

theorem Keeps.optional {key : String} {r : Reader α} {default : α} (hr : r.Keeps P H)
    (hdefault : P default) : (optional key r default).Keeps P H :=
  .one hr fun _ ha => Except.ok.inj ha ▸ hdefault

variable {fields : Fields α} {Inv : fields.State → Prop}

theorem Kept.ofMembers {κ : Type} {other : String → Json → κ → κ} (h : fields.Kept P Inv H)
    {members : List (String × Json)} (hmembers : ∀ m ∈ members, H m.2) {s s' : fields.State}
    {rest rest' : κ} (hs : Inv s)
    (hread : fields.ofMembers other members s rest = .ok (s', rest')) : Inv s' := by
  induction members generalizing s rest with
  | nil =>
    cases hread
    exact hs
  | cons m members ih =>
    obtain ⟨key, j⟩ := m
    obtain ⟨hj, hmembers⟩ := List.forall_mem_cons.mp hmembers
    cases hseat : fields.seat? key with
    | none => exact ih hmembers hs (ofMembers_cons_of_none hseat ▸ hread)
    | some seat =>
      obtain ⟨-, change, hchange, hread⟩ := (ofMembers_cons_of_some hseat).mp hread
      exact ih hmembers ((h.step seat (seat?_mem hseat).1).value j change hj hchange s hs) hread

theorem Kept.ofItems (h : fields.Kept P Inv H) {expected : String} {count : Nat}
    {seats : List (Seat fields.State)} (hseats : seats ⊆ fields.seats) {items extra : List Json}
    (hitems : ∀ j ∈ items, H j) {s s' : fields.State} (hs : Inv s)
    (hread : Fields.ofItems expected count seats items s = .ok (s', extra)) : Inv s' := by
  induction seats generalizing count items s with
  | nil =>
    rw [Fields.ofItems] at hread
    cases hread
    exact hs
  | cons seat seats ih =>
    obtain ⟨hseat, hseats⟩ := List.cons_subset.mp hseats
    cases items with
    | nil =>
      rw [Fields.ofItems] at hread
      split at hread
      · exact ih hseats hitems hs hread
      · cases hread
    | cons j items =>
      obtain ⟨hj, hitems⟩ := List.forall_mem_cons.mp hitems
      rw [Fields.ofItems] at hread
      obtain ⟨change, hchange, hread⟩ := bind_eq_ok.mp hread
      exact ih hseats hitems ((h.step seat hseat).value j change hj hchange s hs) hread

/-- `K` is a property of what is kept of the members under other keys. -/
theorem Kept.ofMembersText {κ : Type} {other : String → Reader (κ → κ)} {K : κ → Prop}
    (h : fields.Kept P Inv H)
    (hother : ∀ key ∉ fields.keys, (other key).Keeps (fun change => ∀ rest, K rest → K (change rest)) H)
    {fuel : Nat} {first : Bool} {s s' : fields.State} {rest rest' : κ} {c c' : Cursor} (hs : Inv s)
    (hrest : K rest) (hread : fields.ofMembersText other fuel first s rest c = .ok (s', rest', c')) :
    Inv s' ∧ K rest' := by
  induction fuel generalizing first s rest c with
  | zero => cases hread
  | succ fuel ih =>
    rw [Fields.ofMembersText] at hread
    obtain ⟨⟨key?, c₁⟩, -, hread⟩ := bind_eq_ok.mp hread
    cases key? with
    | none =>
      cases hread
      exact ⟨hs, hrest⟩
    | some key =>
      dsimp only at hread
      cases hseat : fields.seat? key with
      | none =>
        rw [hseat] at hread
        obtain ⟨⟨_, c₂⟩, -, hread⟩ := bind_eq_ok.mp hread
        obtain ⟨⟨change, c₃⟩, hchange, hread⟩ := bind_eq_ok.mp hread
        have hkey := (seat?_eq_none_iff fields key).mp hseat
        exact ih hs ((hother key hkey).text _ _ _ (mapError_eq_ok.mp hchange) rest hrest) hread
      | some seat =>
        rw [hseat] at hread
        dsimp only at hread
        split at hread
        · cases hread
        · obtain ⟨⟨_, c₂⟩, -, hread⟩ := bind_eq_ok.mp hread
          obtain ⟨⟨change, c₃⟩, hchange, hread⟩ := bind_eq_ok.mp hread
          have hstep := (h.step seat (seat?_mem hseat).1).text _ _ _ (mapError_eq_ok.mp hchange)
          exact ih (hstep s hs) hrest hread

theorem Kept.ofItemsText (h : fields.Kept P Inv H) {expected : String} {count : Nat}
    {seats : List (Seat fields.State)} (hseats : seats ⊆ fields.seats) {s s' : fields.State}
    {c c' : Cursor} (hs : Inv s)
    (hread : Fields.ofItemsText expected count seats s c = .ok (s', c')) : Inv s' := by
  induction seats generalizing count s c with
  | nil =>
    rw [Fields.ofItemsText] at hread
    cases hread
    exact hs
  | cons seat seats ih =>
    obtain ⟨hseat, hseats⟩ := List.cons_subset.mp hseats
    rw [Fields.ofItemsText] at hread
    obtain ⟨⟨more, c₁⟩, -, hread⟩ := bind_eq_ok.mp hread
    dsimp only at hread
    split at hread
    · obtain ⟨⟨change, c₂⟩, hchange, hread⟩ := bind_eq_ok.mp hread
      exact ih hseats ((h.step seat hseat).text _ _ _ (mapError_eq_ok.mp hchange) s hs) hread
    · split at hread
      · exact ih hseats hs hread
      · cases hread

theorem close_eq_ok {finish : Scan Unit} {read : Except Trouble (α × Cursor)} {a : α} {c' : Cursor}
    (h : close finish read = .ok (a, c')) : ∃ c, read = .ok (a, c) := by
  unfold close at h
  split at h
  · obtain ⟨_, -, h⟩ := bind_eq_ok.mp h
    cases h
    exact ⟨_, rfl⟩
  · cases h
  · cases h

end Fields

/-! ### Readers -/

namespace Reader
variable {α : Type} {P : α → Prop} {r : Reader α} {name : String} {H : Json → Prop} {c c' : Cursor}

theorem keeps_true (r : Reader α) : r.Keeps (fun _ => True) H :=
  ⟨fun _ _ _ _ => trivial, fun _ _ _ _ => trivial⟩

theorem refuse_ne_ok {expected : String} {x : α × Cursor} : (refuse expected : Scan α) c ≠ .ok x := by
  obtain ⟨e, he⟩ := refuse_error (α := α) expected c
  rw [he]
  rintro ⟨⟩

theorem Keeps.nullAs {default : α} (hr : r.Keeps P H) (hdefault : P default) :
    (nullAs default r).Keeps P H := by
  refine ⟨fun j a hj hread => ?_, fun c a c' hread => ?_⟩
  · by_cases hnull : j = .null
    · subst hnull
      exact Except.ok.inj hread ▸ hdefault
    · exact hr.value j a hj (nullAs_ofJson hnull ▸ hread)
  · rw [Reader.nullAs] at hread
    dsimp only at hread
    split at hread
    · obtain ⟨_, -, hread⟩ := bind_eq_ok.mp hread
      obtain ⟨rfl, -⟩ := Prod.mk.inj (Except.ok.inj hread)
      exact hdefault
    · exact hr.text _ _ _ hread

theorem Keeps.itemsOfText (hr : r.Keeps P H) {fuel : Nat} {first : Bool} {xs : List α}
    (hread : itemsOfText r fuel first c = .ok (xs, c')) : ∀ x ∈ xs, P x := by
  induction fuel generalizing first c c' xs with
  | zero => cases hread
  | succ fuel ih =>
    rw [Reader.itemsOfText] at hread
    obtain ⟨⟨more, c₁⟩, -, hread⟩ := bind_eq_ok.mp hread
    dsimp only at hread
    split at hread
    · obtain ⟨⟨x, c₂⟩, hx, hread⟩ := bind_eq_ok.mp hread
      obtain ⟨⟨ys, c₃⟩, hys, hread⟩ := bind_eq_ok.mp hread
      obtain ⟨rfl, -⟩ := Prod.mk.inj (Except.ok.inj hread)
      exact List.forall_mem_cons.mpr ⟨hr.text _ _ _ hx, ih hys⟩
    · obtain ⟨rfl, -⟩ := Prod.mk.inj (Except.ok.inj hread)
      exact List.forall_mem_nil _

variable [Json.Hereditary H]

theorem keeps_json : json.Keeps H H :=
  ⟨fun _ _ hj hread => Except.ok.inj hread ▸ hj,
    fun _ _ _ hread => Json.Hereditary.canonical (canonical_of_json hread)⟩

theorem keeps_members : members.Keeps (fun m => H (.obj m)) H := by
  refine ⟨fun j m hj hread => ?_, fun c m c' hread => ?_⟩
  · cases j with
    | obj members => exact Except.ok.inj hread ▸ hj
    | _ => cases hread
  · rw [Reader.members] at hread
    dsimp only at hread
    split at hread
    · obtain ⟨c₁, -, hread⟩ := bind_eq_ok.mp hread
      obtain ⟨⟨entries, c₂⟩, hentries, hread⟩ := bind_eq_ok.mp hread
      obtain ⟨rfl, -⟩ := Prod.mk.inj (Except.ok.inj hread)
      exact Json.Hereditary.canonical (canonical_of_members hentries)
    · exact absurd hread refuse_ne_ok

theorem Keeps.list (hr : r.Keeps P H) : (list r).Keeps (fun xs => ∀ x ∈ xs, P x) H := by
  refine ⟨fun j xs hj hread => ?_, fun c xs c' hread => ?_⟩
  · cases j with
    | arr items =>
      have hitems := Json.Hereditary.items hj
      have hall := list_ofJson_arr.mp hread
      clear hread hj
      induction hall with
      | nil => exact List.forall_mem_nil _
      | cons hx _ ih =>
        obtain ⟨hj, hitems⟩ := List.forall_mem_cons.mp hitems
        exact List.forall_mem_cons.mpr ⟨hr.value _ _ hj hx, ih hitems⟩
    | _ => cases hread
  · rw [Reader.list] at hread
    dsimp only at hread
    split at hread
    · obtain ⟨c₁, -, hread⟩ := bind_eq_ok.mp hread
      obtain ⟨⟨xs, c₂⟩, hxs, hread⟩ := bind_eq_ok.mp hread
      obtain ⟨rfl, -⟩ := Prod.mk.inj (Except.ok.inj hread)
      exact hr.itemsOfText hxs
    · exact absurd hread refuse_ne_ok

/-- Be it an object or a list. -/
theorem keeps_record {fields : Fields α} (h : fields.Keeps P H) : (record name fields).Keeps P H := by
  obtain ⟨Inv, h⟩ := h
  refine ⟨fun j a hj hread => ?_, fun c a c' hread => ?_⟩
  · cases j with
    | obj members =>
      obtain ⟨s, hs, hfinish⟩ := record_ofJson_obj.mp hread
      exact h.finish s a (h.ofMembers (Json.Hereditary.members hj) h.start hs) hfinish
    | arr items =>
      obtain ⟨⟨s, extra⟩, hs, hread⟩ := bind_eq_ok.mp hread
      obtain ⟨b, hfinish, hread⟩ := bind_eq_ok.mp hread
      have hInv := h.ofItems (List.Subset.refl _) (Json.Hereditary.items hj) h.start hs
      split at hread
      · exact Except.ok.inj hread ▸ h.finish s b hInv hfinish
      · cases hread
    | _ => cases hread
  · rw [record] at hread
    dsimp only at hread
    split at hread
    · obtain ⟨c₁, -, hread⟩ := bind_eq_ok.mp hread
      obtain ⟨c₂, hread⟩ := Fields.close_eq_ok hread
      obtain ⟨⟨s, _, c₃⟩, hs, hread⟩ := bind_eq_ok.mp hread
      obtain ⟨b, hfinish, hread⟩ := bind_eq_ok.mp hread
      obtain ⟨rfl, -⟩ := Prod.mk.inj (Except.ok.inj hread)
      have hInv := (h.ofMembersText (K := fun _ => True) (fun _ _ => ?_) h.start trivial hs).1
      · exact h.finish s b hInv (mapError_eq_ok.mp hfinish)
      · exact ⟨fun _ _ _ _ _ _ => trivial, fun _ _ _ _ _ _ => trivial⟩
    · obtain ⟨c₁, -, hread⟩ := bind_eq_ok.mp hread
      obtain ⟨c₂, hread⟩ := Fields.close_eq_ok hread
      obtain ⟨⟨s, c₃⟩, hs, hread⟩ := bind_eq_ok.mp hread
      obtain ⟨b, hfinish, hread⟩ := bind_eq_ok.mp hread
      obtain ⟨rfl, -⟩ := Prod.mk.inj (Except.ok.inj hread)
      have hInv := h.ofItemsText (List.Subset.refl _) h.start hs
      exact h.finish s b hInv (mapError_eq_ok.mp hfinish)
    · exact absurd hread refuse_ne_ok

theorem keeps_openRecord {fields : Fields (KeyMap Json → α)}
    (h : fields.Keeps (fun make => ∀ rest : KeyMap Json, rest.Beside fields.keys H → P (make rest)) H) :
    (openRecord name fields).Keeps P H := by
  obtain ⟨Inv, h⟩ := h
  refine ⟨fun j a hj hread => ?_, fun c a c' hread => ?_⟩
  · cases j with
    | obj members =>
      have hmembers := Json.Hereditary.members hj
      obtain ⟨make, ⟨s, hs, hfinish⟩, rfl⟩ := openRecord_ofJson_obj.mp hread
      exact h.finish s make (h.ofMembers hmembers h.start hs) hfinish _ (KeyMap.beside_rest hmembers)
    | _ => cases hread
  · rw [openRecord] at hread
    dsimp only at hread
    split at hread
    · obtain ⟨c₁, -, hread⟩ := bind_eq_ok.mp hread
      obtain ⟨c₂, hread⟩ := Fields.close_eq_ok hread
      obtain ⟨⟨s, rest, c₃⟩, hs, hread⟩ := bind_eq_ok.mp hread
      obtain ⟨make, hfinish, hread⟩ := bind_eq_ok.mp hread
      obtain ⟨rfl, -⟩ := Prod.mk.inj (Except.ok.inj hread)
      obtain ⟨hInv, hrest⟩ := h.ofMembersText (K := fun rest => rest.Beside fields.keys H)
        (fun key hkey => keeps_json.map fun j hj rest hrest => hrest.insert hkey hj)
        h.start (KeyMap.beside_nil _) hs
      exact h.finish s make hInv (mapError_eq_ok.mp hfinish) rest hrest
    · exact absurd hread refuse_ne_ok

theorem keeps_float : float.Keeps (fun x => x.isFinite = true) H := by
  have hfinite {n : Number} (hn : (Json.num n).Proper) : n.toFloat.isFinite = true := by
    cases hn with
    | int hlow hhigh => exact Rounding.isFinite_ofInt hlow hhigh
    | float hx => exact hx
  refine ⟨fun j x hj hread => ?_, fun c x c' hread => ?_⟩
  · cases j with
    | num n =>
      obtain rfl := Except.ok.inj hread
      exact hfinite (Json.Hereditary.num hj)
    | _ => cases hread
  · rw [Reader.float] at hread
    dsimp only at hread
    split at hread
    · split at hread
      · obtain ⟨⟨n, c₁⟩, hn, hread⟩ := bind_eq_ok.mp hread
        obtain ⟨rfl, -⟩ := Prod.mk.inj (Except.ok.inj hread)
        exact hfinite (number_proper hn)
      · exact absurd hread refuse_ne_ok
    · cases hread

end Reader
end WorkflowCanvas
