import WorkflowCanvas.Proofs.Json.Spelling

/-! Readers read from a text what they read from the value that it spells. What a reader keeps as JSON is
kept with its members in key order when it comes from a text, so the two are related and not the same. -/
namespace WorkflowCanvas

/-! ### Outcomes -/

/-- Both computations fail, or both succeed with related results. -/
inductive Matches {ε ε' α β : Type} (R : α → β → Prop) : Except ε α → Except ε' β → Prop
  | ok {a : α} {b : β} (h : R a b) : Matches R (.ok a) (.ok b)
  | error {e : ε} {e' : ε'} : Matches R (.error e) (.error e')

namespace Matches
variable {ε ε' ε'' α α' β β' : Type} {R : α → β → Prop} {S : α' → β' → Prop} {x : Except ε α}
  {y : Except ε' β}

theorem imp {R' : α → β → Prop} (h : Matches R x y) (himp : ∀ a b, R a b → R' a b) : Matches R' x y := by
  cases h with
  | ok h => exact .ok (himp _ _ h)
  | error => exact .error

theorem bind {f : α → Except ε α'} {g : β → Except ε' β'} (h : Matches R x y)
    (hnext : ∀ a b, R a b → Matches S (f a) (g b)) : Matches S (x >>= f) (y >>= g) := by
  cases h with
  | ok h => exact hnext _ _ h
  | error => exact .error

theorem map {f : α → α'} {g : β → β'} (h : Matches R x y) (hmap : ∀ a b, R a b → S (f a) (g b)) :
    Matches S (x.map f) (y.map g) := by
  cases h with
  | ok h => exact .ok (hmap _ _ h)
  | error => exact .error

theorem map_right {R' : α → β' → Prop} {g : β → β'} (h : Matches R x y)
    (hmap : ∀ a b, R a b → R' a (g b)) : Matches R' x (y.map g) := by
  cases h with
  | ok h => exact .ok (hmap _ _ h)
  | error => exact .error

theorem mapError {f : ε' → ε''} (h : Matches R x y) : Matches R x (y.mapError f) := by
  cases h with
  | ok h => exact .ok h
  | error => exact .error

/-- What is left of the second computation is the image of what is left of the first. -/
theorem toOption {f : α → β} (h : Matches (fun a b => f a = b) x y) : y.toOption = x.toOption.map f := by
  cases h with
  | ok h => exact congrArg some h.symm
  | error => rfl

theorem of_error {e : ε} (h : ∃ e', y = .error e') : Matches R (.error e : Except ε α) y := by
  obtain ⟨e', rfl⟩ := h
  exact .error

end Matches

namespace Scan
variable {c c' c₁ : Cursor} {j : Json} {first : Bool}

theorem Spells.skipBlank (h : Spells (.value j) c c') : Spells (.value j) c.skipBlank c' := by
  cases h with
  | word h => exact .word (c.skipBlank_skipBlank.symm ▸ h)
  | arr hpeek hopen hitems =>
    exact .arr (c.skipBlank_skipBlank.symm ▸ hpeek) (c.skipBlank_skipBlank.symm ▸ hopen) hitems
  | obj hpeek hopen hmembers =>
    exact .obj (c.skipBlank_skipBlank.symm ▸ hpeek) (c.skipBlank_skipBlank.symm ▸ hopen) hmembers

/-- A list or an object ends before its closing bracket. -/
theorem Spells.close {p : Piece} (h : Spells p c c') : match p with
    | .value _ => True
    | .items .. => c'.peek? = some ']'
    | .members .. => c'.peek? = some '}' := by
  induction h with
  | word | arr | obj => trivial
  | itemsEnd hnext =>
    obtain ⟨hpeek, rfl⟩ := nextItem_false hnext
    exact hpeek
  | item _ _ _ _ ih => exact ih
  | membersEnd hnext =>
    obtain ⟨hpeek, -, rfl⟩ | ⟨_, _, _, -, -, -, hkey, -⟩ := nextKey_cases hnext
    · exact hpeek
    · cases hkey
  | member _ _ _ _ _ ih => exact ih

end Scan

namespace Reader
open Scan
variable {α β : Type} {r : Reader α} {R : α → α → Prop} {c c' : Cursor} {j : Json}

/-- What is read at a place of a text: a result related to `a`, up to the place `c'`. -/
def Ends (R : α → α → Prop) (c' : Cursor) (a : α) (x : α × Cursor) : Prop := R a x.1 ∧ x.2 = c'

/-- A text gives what the value gives that it spells. -/
def Mirrors (r : Reader α) (R : α → α → Prop) : Prop :=
  ∀ c j c', Spells (.value j) c c' → Matches (Ends R c') (r.ofJson j) (r.ofText c)

theorem mirrors_text : text.Mirrors Eq := by
  intro c j c' h
  obtain ⟨ch, hpeek, hch⟩ := h.begins
  by_cases hquote : ch = '"'
  · subst hquote
    obtain ⟨s, rfl⟩ := hch.str
    cases h with
    | word h =>
      cases h with
      | str _ h =>
        show Matches _ (.ok s) (if _ then _ else _)
        rw [if_pos hpeek, h]
        exact .ok ⟨rfl, rfl⟩
  · have hrefuse : text.ofText c = refuse "a string" c.skipBlank :=
      if_neg (by rw [hpeek]; exact fun heq => hquote (Option.some.inj heq))
    rw [hrefuse]
    cases j with
    | str s => exact absurd hch hquote
    | _ => exact .of_error (refuse_error _ _)

theorem mirrors_float : float.Mirrors Eq := by
  intro c j c' h
  obtain ⟨ch, hpeek, hch⟩ := h.begins
  have hread : float.ofText c = if ch = '-' ∨ ch.isDigit = true
      then (Scan.number c.skipBlank).map fun x => (x.1.toFloat, x.2) else refuse "f64" c.skipBlank := by
    simp only [float, hpeek]
    rfl
  rw [hread]
  split
  · next hdigit =>
    obtain ⟨n, rfl⟩ := hch.num hdigit
    cases h with
    | word h =>
      cases h with
      | num _ _ h =>
        rw [h]
        exact .ok ⟨rfl, rfl⟩
  · next hdigit =>
    cases j with
    | num n => exact absurd hch hdigit
    | _ => exact .of_error (refuse_error _ _)

theorem Mirrors.map {f : α → β} {S : β → β → Prop} (hr : r.Mirrors R)
    (hf : ∀ a a', R a a' → S (f a) (f a')) : (r.map f).Mirrors S := by
  intro c j c' h
  exact (hr c j c' h).map fun a x ha => ⟨hf a x.1 ha.1, ha.2⟩

theorem Mirrors.nullAs {default : α} (hr : r.Mirrors R) (hdefault : R default default) :
    (nullAs default r).Mirrors R := by
  intro c j c' h
  obtain ⟨ch, hpeek, hch⟩ := h.begins
  by_cases hnull : ch = 'n'
  · subst hnull
    obtain rfl := hch.null
    cases h with
    | word h =>
      cases h with
      | null _ h =>
        show Matches _ (.ok default) (if _ then (Scan.ident _ _ >>= fun x => pure (default, x.2)) else _)
        rw [if_pos hpeek, h]
        exact .ok ⟨hdefault, rfl⟩
  · have hread : (Reader.nullAs default r).ofText c = r.ofText c.skipBlank :=
      if_neg (by rw [hpeek]; exact fun heq => hnull (Option.some.inj heq))
    rw [hread, nullAs_ofJson fun heq => hnull (by rw [heq] at hch; exact hch)]
    exact hr _ _ _ h.skipBlank

theorem mirrors_text_option : text.option.Mirrors Eq :=
  .nullAs (mirrors_text.map fun _ _ heq => congrArg some heq) rfl

/-! ### Lists and objects -/

theorem Mirrors.items (hr : r.Mirrors R) {first : Bool} {items : List Json}
    (h : Spells (.items first items) c c') {fuel : Nat} (hfuel : c.left < fuel) :
    Matches (Ends (List.Forall₂ R) c') (items.mapM r.ofJson) (itemsOfText r fuel first c) := by
  induction items generalizing c first fuel with
  | nil =>
    obtain ⟨fuel, rfl⟩ : ∃ k, fuel = k + 1 := ⟨fuel - 1, by omega⟩
    cases h with
    | itemsEnd hnext =>
      rw [itemsOfText, hnext]
      exact .ok ⟨.nil, rfl⟩
  | cons j items ih =>
    obtain ⟨fuel, rfl⟩ : ∃ k, fuel = k + 1 := ⟨fuel - 1, by omega⟩
    cases h with
    | item hnext hvalue hitems =>
      have := (beyond_nextItem hnext).left
      have := hvalue.beyond.2
      simp only [Piece.least] at this
      rw [List.mapM_cons, itemsOfText, hnext]
      refine (hr _ _ _ hvalue).bind fun a x ha => ?_
      obtain ⟨x, c₂⟩ := x
      obtain ⟨ha, rfl⟩ := ha
      refine (ih hitems (by omega)).bind fun xs y hxs => ?_
      exact .ok ⟨.cons ha hxs.1, hxs.2⟩

theorem Mirrors.list (hr : r.Mirrors R) : (list r).Mirrors (List.Forall₂ R) := by
  intro c j c' h
  obtain ⟨ch, hpeek, hch⟩ := h.begins
  by_cases hbracket : ch = '['
  · subst hbracket
    obtain ⟨items, rfl⟩ := hch.arr
    cases h with
    | word h => cases h
    | @arr _ _ c₁ c₂ _ hopen hitems =>
      have hread : (Reader.list r).ofText c =
          (itemsOfText r (fuelFor c₁) true c₁).map fun x => (x.1, closeBracket x.2) := by
        refine (if_pos hpeek).trans ?_
        rw [hopen]
        rfl
      rw [hread]
      refine (hr.items hitems (by simp only [fuelFor, Cursor.left]; omega)).map_right fun xs x hxs => ?_
      exact ⟨hxs.1, congrArg closeBracket hxs.2⟩
  · have hrefuse : (Reader.list r).ofText c = refuse "a sequence" c.skipBlank :=
      if_neg (by rw [hpeek]; exact fun heq => hbracket (Option.some.inj heq))
    rw [hrefuse]
    cases j with
    | arr items => exact absurd hch hbracket
    | _ => exact .of_error (refuse_error _ _)

theorem mirrors_members : members.Mirrors fun m m' => KeyMap.ofEntries (Json.sortedMembers m) = m' := by
  intro c j c' h
  obtain ⟨ch, hpeek, hch⟩ := h.begins
  by_cases hbracket : ch = '{'
  · subst hbracket
    obtain ⟨members, rfl⟩ := hch.obj
    cases h with
    | word h => cases h
    | @obj _ _ c₁ c₂ _ hopen hmembers =>
      have hread : Reader.members.ofText c = (Scan.members (fuelFor c₁) true c₁).map fun x =>
          (KeyMap.ofEntries x.1, closeBracket x.2) := by
        refine (if_pos hpeek).trans ?_
        rw [hopen]
        rfl
      have hreads : Scan.members (fuelFor c₁) true c₁ = .ok (Json.sortedMembers members, c₂) :=
        hmembers.reads (by simp only [fuelFor, Cursor.left, Piece.least]; omega)
      rw [hread, hreads]
      exact .ok ⟨rfl, rfl⟩
  · have hrefuse : Reader.members.ofText c = refuse "a map" c.skipBlank :=
      if_neg (by rw [hpeek]; exact fun heq => hbracket (Option.some.inj heq))
    rw [hrefuse]
    cases j with
    | obj members => exact absurd hch hbracket
    | _ => exact .of_error (refuse_error _ _)

end Reader

/-! ### Fields -/

namespace Fields
open Scan
open Reader (Mirrors Ends)
variable {α β : Type} {P : α → α → Prop} {Q : β → β → Prop} {R : α → α → Prop}

/-- A relation of what has been read so far of a value and of its text, which every field keeps. -/
structure Mirroring (fields : Fields α) (P : α → α → Prop) (S : fields.State → fields.State → Prop) :
    Prop where
  start : S fields.start fields.start
  taken : ∀ seat ∈ fields.seats, ∀ s s', S s s' → seat.taken s = seat.taken s'
  step : ∀ seat ∈ fields.seats,
    seat.read.Mirrors fun change change' => ∀ s s', S s s' → S (change s) (change' s')
  finish : ∀ s s', S s s' → Matches P (fields.finish s) (fields.finish s')

/-- The fields of a text are what the fields of the value are. -/
def Mirrored (fields : Fields α) (P : α → α → Prop) : Prop := ∃ S, fields.Mirroring P S

theorem mirrored_pure {a : α} (h : P a a) : (Pure.pure a : Fields α).Mirrored P :=
  ⟨fun _ _ => True, trivial, by rintro seat ⟨⟩, by rintro seat ⟨⟩, fun _ _ _ => .ok h⟩

theorem Mirrored.seq {f : Fields (α → β)} {x : Fields α}
    (hf : f.Mirrored fun g g' => ∀ a a', P a a' → Q (g a) (g' a')) (hx : x.Mirrored P) :
    (f <*> x).Mirrored Q := by
  obtain ⟨S, hf⟩ := hf
  obtain ⟨T, hx⟩ := hx
  show (ap f x).Mirrored Q
  refine ⟨fun s s' => S s.1 s'.1 ∧ T s.2 s'.2, ⟨hf.start, hx.start⟩, fun seat hseat s s' hs => ?_,
    fun seat hseat => ?_, fun s s' hs => ?_⟩
  · obtain hseat | hseat := List.mem_append.mp hseat
    · obtain ⟨inner, hinner, rfl⟩ := List.mem_map.mp hseat
      exact hf.taken inner hinner s.1 s'.1 hs.1
    · obtain ⟨inner, hinner, rfl⟩ := List.mem_map.mp hseat
      exact hx.taken inner hinner s.2 s'.2 hs.2
  · obtain hseat | hseat := List.mem_append.mp hseat
    · obtain ⟨inner, hinner, rfl⟩ := List.mem_map.mp hseat
      exact (hf.step inner hinner).map fun g g' hg s s' hs => ⟨hg s.1 s'.1 hs.1, hs.2⟩
    · obtain ⟨inner, hinner, rfl⟩ := List.mem_map.mp hseat
      exact (hx.step inner hinner).map fun g g' hg s s' hs => ⟨hs.1, hg s.2 s'.2 hs.2⟩
  · exact (hf.finish s.1 s'.1 hs.1).bind fun g g' hg =>
      (hx.finish s.2 s'.2 hs.2).bind fun a a' ha => .ok (hg a a' ha)

theorem Mirrored.map {f : α → β} {x : Fields α} (hx : x.Mirrored P)
    (hf : ∀ a a', P a a' → Q (f a) (f a')) : (f <$> x).Mirrored Q := by
  show ((Pure.pure f : Fields (α → β)) <*> x).Mirrored Q
  exact (mirrored_pure (P := fun g g' : α → β => ∀ a a', P a a' → Q (g a) (g' a')) hf).seq hx

theorem Mirrored.one {key : String} {r : Reader α} {absent : Except Misfit α} {spare : Bool}
    (hr : r.Mirrors P) (habsent : Matches P absent absent) : (one key r absent spare).Mirrored P := by
  refine ⟨Option.Rel P, .none, fun seat hseat s s' hs => ?_, fun seat hseat => ?_, fun s s' hs => ?_⟩
  · obtain rfl := List.mem_singleton.mp hseat
    cases hs <;> rfl
  · obtain rfl := List.mem_singleton.mp hseat
    exact hr.map fun a a' ha s s' _ => .some ha
  · cases hs with
    | some ha => exact .ok ha
    | none => exact habsent

theorem Mirrored.required {key : String} {r : Reader α} (hr : r.Mirrors P) :
    (required key r).Mirrored P := .one hr .error

theorem Mirrored.optional {key : String} {r : Reader α} {default : α} (hr : r.Mirrors P)
    (hdefault : P default default) : (optional key r default).Mirrored P := .one hr (.ok hdefault)

variable {fields : Fields α} {S : fields.State → fields.State → Prop} {c c' : Cursor}

section text
variable {κ : Type} {otherText : String → Reader (κ → κ)} {key : String} {first : Bool} {c₁ c₂ : Cursor}
  {fuel : Nat} {s : fields.State} {rest : κ}

theorem ofMembersText_of_none (hnext : nextKey first c = .ok (some key, c₁))
    (hcolon : colon c₁ = .ok ((), c₂))
    (hseat : fields.seat? key = none) :
    fields.ofMembersText otherText (fuel + 1) first s rest c =
      (place ((otherText key).ofText c₂) >>= fun x =>
        fields.ofMembersText otherText fuel false s (x.1 rest) x.2) := by
  rw [ofMembersText, hnext]
  simp only [place, Except.mapError, bind, Except.bind, hseat, hcolon]

theorem ofMembersText_of_some (hnext : nextKey first c = .ok (some key, c₁))
    (hcolon : colon c₁ = .ok ((), c₂))
    {seat : Seat fields.State} (hseat : fields.seat? key = some seat) :
    fields.ofMembersText otherText (fuel + 1) first s rest c =
      if seat.taken s then .error (.loose (.repeated key) c₁)
      else place (seat.read.ofText c₂) >>= fun x =>
        fields.ofMembersText otherText fuel false (x.1 s) rest x.2 := by
  rw [ofMembersText, hnext]
  simp only [place, Except.mapError, bind, Except.bind, hseat, hcolon]
  rfl

end text

theorem Mirroring.ofMembers {κ : Type} {K : κ → κ → Prop} {other : String → Json → κ → κ}
    {otherText : String → Reader (κ → κ)} (h : fields.Mirroring P S)
    (hother : ∀ key {j c c'}, Spells (.value j) c c' → ∃ change,
      (otherText key).ofText c = .ok (change, c') ∧
        ∀ rest rest', K rest rest' → K (other key j rest) (change rest'))
    {members : List (String × Json)} {first : Bool} (hspells : Spells (.members first members) c c')
    {fuel : Nat} (hfuel : c.left < fuel) {s s' : fields.State} {rest rest' : κ} (hs : S s s')
    (hrest : K rest rest') :
    Matches (fun x y => S x.1 y.1 ∧ K x.2 y.2.1 ∧ y.2.2 = c') (fields.ofMembers other members s rest)
      (fields.ofMembersText otherText fuel first s' rest' c) := by
  induction members generalizing c first fuel s s' rest rest' with
  | nil =>
    obtain ⟨fuel, rfl⟩ : ∃ k, fuel = k + 1 := ⟨fuel - 1, by omega⟩
    cases hspells with
    | membersEnd hnext =>
      rw [ofMembersText, hnext]
      exact .ok ⟨hs, hrest, rfl⟩
  | cons m members ih =>
    obtain ⟨fuel, rfl⟩ : ∃ k, fuel = k + 1 := ⟨fuel - 1, by omega⟩
    cases hspells with
    | @member _ key j _ _ c₁ c₂ c₃ _ hnext hcolon hvalue hmembers =>
      have := (beyond_nextKey hnext).left
      have := (beyond_colon hcolon).left
      have := hvalue.beyond.2
      simp only [Piece.least] at this
      cases hseat : fields.seat? key with
      | none =>
        obtain ⟨change, hchange, hkeep⟩ := hother key hvalue
        rw [ofMembers_cons_of_none hseat, ofMembersText_of_none hnext hcolon hseat, hchange]
        exact ih hmembers (by omega) hs (hkeep rest rest' hrest)
      | some seat =>
        have hmem := (seat?_mem hseat).1
        rw [ofMembers, hseat, ofMembersText_of_some hnext hcolon hseat]
        simp only [← h.taken seat hmem s s' hs]
        split
        · exact .error
        · refine (h.step seat hmem _ _ _ hvalue).mapError.bind fun change x hchange => ?_
          obtain ⟨change', c⟩ := x
          obtain ⟨hchange, rfl⟩ := hchange
          exact ih hmembers (by omega) (hchange s s' hs) hrest

theorem nextItem_close (hpeek : c.peek? = some ']') (first : Bool) : nextItem first c = .ok (false, c) := by
  have hblank : c.skipBlank = c := Cursor.skipBlank_at hpeek rfl
  simp only [nextItem, hblank, hpeek]

/-- A list of fields is read as far as there are fields, and both forms leave the same items. -/
theorem Mirroring.ofItems (h : fields.Mirroring P S) {expected : String} (count : Nat)
    {seats : List (Seat fields.State)} (hseats : seats ⊆ fields.seats) {items : List Json}
    (hspells : Spells (.items (count == 0) items) c c') {s s' : fields.State} (hs : S s s') :
    Matches (fun x y => S x.1 y.1 ∧ ∃ first, Spells (.items first x.2) y.2 c')
      (Fields.ofItems expected count seats items s) (ofItemsText expected count seats s' c) := by
  induction seats generalizing c count items s s' with
  | nil =>
    rw [Fields.ofItems, ofItemsText]
    exact .ok ⟨hs, _, hspells⟩
  | cons seat seats ih =>
    obtain ⟨hseat, hseats⟩ := List.cons_subset.mp hseats
    cases hspells with
    | itemsEnd hnext =>
      rw [Fields.ofItems, ofItemsText, hnext]
      show Matches _ _ (if seat.spare then _ else _)
      split
      · exact ih _ hseats (.itemsEnd (nextItem_close (Spells.itemsEnd hnext).close _)) hs
      · exact .error
    | item hnext hvalue hitems =>
      rw [Fields.ofItems, ofItemsText, hnext]
      refine (h.step seat hseat _ _ _ hvalue).mapError.bind fun change x hchange => ?_
      obtain ⟨change', c₂⟩ := x
      obtain ⟨hchange, rfl⟩ := hchange
      exact ih (count + 1) hseats hitems (hchange s s' hs)

theorem endItems_nil {first : Bool} (h : Spells (.items first []) c c') :
    endItems c = .ok ((), closeBracket c') := by
  cases h with
  | itemsEnd hnext =>
    obtain ⟨hpeek, rfl⟩ := nextItem_false hnext
    simp only [endItems, hpeek]

theorem endItems_cons {first : Bool} {j : Json} {items : List Json}
    (h : Spells (.items first (j :: items)) c c') : ∃ e, endItems c = .error e := by
  cases h with
  | item hnext =>
    obtain ⟨ch, hpeek, hclose, -⟩ := nextItem_true hnext
    rw [endItems]
    dsimp only
    split
    · exact ⟨_, rfl⟩
    · next hfound => exact absurd (Option.some.inj (hpeek.symm.trans hfound)) hclose
    · split <;> exact ⟨_, rfl⟩
    · exact ⟨_, rfl⟩

theorem endMembers_close (hpeek : c.peek? = some '}') : endMembers c = .ok ((), closeBracket c) := by
  have hblank : c.skipBlank = c := Cursor.skipBlank_at hpeek rfl
  simp only [endMembers, hblank, hpeek]

/-- A bracket is closed behind what has been read. -/
theorem close_matches {γ : Type} {T : γ → α × Cursor → Prop} {U : β → α × Cursor → Prop}
    {finish : Scan Unit} {x : Except Misfit γ} {next : γ → Except Misfit β}
    {read : Except Trouble (α × Cursor)} (h : Matches T x read)
    (hnext : ∀ a y, T a y → Matches U (next a) ((finish y.2).map fun z => (y.1, z.2))) :
    Matches U (x >>= next) (close finish read) := by
  cases h with
  | ok h => exact hnext _ _ h
  | @error e trouble => cases trouble <;> exact .error

theorem close_endMembers {γ : Type} {T : γ → α → Prop} {x : Except Misfit γ}
    {read : Except Trouble (α × Cursor)} (h : Matches (fun a y => T a y.1 ∧ y.2 = c) x read)
    (hpeek : c.peek? = some '}') :
    Matches (fun a y => T a y.1 ∧ y.2 = closeBracket c) x (close endMembers read) := by
  cases h with
  | @ok a y h =>
    obtain ⟨b, c⟩ := y
    obtain ⟨h, rfl⟩ := h
    show Matches _ _ (endMembers c >>= fun z => .ok (b, z.2))
    rw [endMembers_close hpeek]
    exact .ok ⟨h, rfl⟩
  | @error e trouble => cases trouble <;> exact .error

/-- An object is read to its end, and what its members gave is put together. -/
theorem Mirroring.object {κ γ : Type} {K : κ → κ → Prop} {T : γ → γ → Prop}
    {other : String → Json → κ → κ} {otherText : String → Reader (κ → κ)} (h : fields.Mirroring P S)
    (hother : ∀ key {j c c'}, Spells (.value j) c c' → ∃ change,
      (otherText key).ofText c = .ok (change, c') ∧
        ∀ rest rest', K rest rest' → K (other key j rest) (change rest'))
    {members : List (String × Json)} (hspells : Spells (.members true members) c c') {rest : κ}
    (hrest : K rest rest) (make : α → κ → γ)
    (hmake : ∀ a a' rest rest', P a a' → K rest rest' → T (make a rest) (make a' rest')) :
    Matches (Ends T (closeBracket c'))
      (fields.ofMembers other members fields.start rest >>= fun x =>
        fields.finish x.1 >>= fun a => .ok (make a x.2))
      (close endMembers (fields.ofMembersText otherText (fuelFor c) true fields.start rest c >>= fun x =>
        looseAt x.2.2 (fields.finish x.1) >>= fun a => .ok (make a x.2.1, x.2.2))) := by
  refine close_endMembers (T := T) ?_ hspells.close
  refine (h.ofMembers hother hspells (by simp only [fuelFor, Cursor.left]; omega) h.start hrest).bind ?_
  rintro ⟨s, rest⟩ ⟨s', rest', c⟩ ⟨hs, hrest, rfl⟩
  exact (h.finish s s' hs).mapError.bind fun a a' ha => .ok ⟨hmake a a' rest rest' ha hrest, rfl⟩

end Fields

namespace Reader
open Scan
variable {α : Type} {P : α → α → Prop} {name : String}

/-- A list of fields is closed where the value has no more items. -/
theorem record_arr_matches {fields : Fields α} {S : fields.State → fields.State → Prop}
    (h : fields.Mirroring P S) {items : List Json} {c c₁ c₂ : Cursor}
    (hpeek : c.skipBlank.peek? = some '[') (hopen : openBracket c.skipBlank = .ok c₁)
    (hitems : Spells (.items true items) c₁ c₂) :
    Matches (Ends P (closeBracket c₂)) ((record name fields).ofJson (.arr items))
      ((record name fields).ofText c) := by
  have htext : (record name fields).ofText c = Fields.close Fields.endItems
      (Fields.ofItemsText (fields.lengthText name) 0 fields.seats fields.start c₁ >>= fun x =>
        Fields.looseAt x.2 (fields.finish x.1) >>= fun a => .ok (a, x.2)) := by
    simp only [record, hpeek, hopen]
    rfl
  have hvalue : (record name fields).ofJson (.arr items) =
      (Fields.ofItems (fields.lengthText name) 0 fields.seats items fields.start >>= fun x =>
        fields.finish x.1 >>= fun a => .ok (a, x.2)) >>= fun x => if x.2.isEmpty then .ok x.1
          else .error (.wrongLength items.length "fewer elements in array") := by
    show (Fields.ofItems _ 0 fields.seats items fields.start >>= fun x => fields.finish x.1 >>= fun a =>
      if x.2.isEmpty then .ok a else .error _) = _
    simp only [bind_assoc]
    rfl
  have hread : Matches (fun x y => P x.1 y.1 ∧ ∃ first, Spells (.items first x.2) y.2 c₂)
      (Fields.ofItems (fields.lengthText name) 0 fields.seats items fields.start >>= fun x =>
        fields.finish x.1 >>= fun a => .ok (a, x.2))
      (Fields.ofItemsText (fields.lengthText name) 0 fields.seats fields.start c₁ >>= fun x =>
        Fields.looseAt x.2 (fields.finish x.1) >>= fun a => .ok (a, x.2)) := by
    refine (h.ofItems 0 (List.Subset.refl _) hitems h.start).bind ?_
    rintro ⟨s, extra⟩ ⟨s', c⟩ ⟨hs, hextra⟩
    exact (h.finish s s' hs).mapError.bind fun a a' ha => .ok ⟨ha, hextra⟩
  rw [htext, hvalue]
  refine Fields.close_matches hread fun x y hxy => ?_
  obtain ⟨a, extra⟩ := x
  obtain ⟨ha, first, hextra⟩ := hxy
  cases extra with
  | nil =>
    rw [Fields.endItems_nil hextra]
    exact .ok ⟨ha, rfl⟩
  | cons j extra =>
    obtain ⟨e, he⟩ := Fields.endItems_cons hextra
    rw [he]
    exact .error

theorem mirrors_record {fields : Fields α} (h : fields.Mirrored P) : (record name fields).Mirrors P := by
  obtain ⟨S, h⟩ := h
  intro c j c' hspells
  obtain ⟨ch, hpeek, hch⟩ := hspells.begins
  cases hspells with
  | word hword =>
    have hrefuse : (record name fields).ofText c = refuse name c.skipBlank := by
      simp only [record]
      split
      · next hfound =>
        obtain rfl := Option.some.inj (hpeek.symm.trans hfound)
        obtain ⟨_, rfl⟩ := hch.obj
        cases hword
      · next hfound =>
        obtain rfl := Option.some.inj (hpeek.symm.trans hfound)
        obtain ⟨_, rfl⟩ := hch.arr
        cases hword
      · rfl
    rw [hrefuse]
    cases hword <;> exact .of_error (refuse_error _ _)
  | arr hpeek hopen hitems => exact record_arr_matches h hpeek hopen hitems
  | @obj members _ c₁ c₂ hpeek hopen hmembers =>
    have htext : (record name fields).ofText c = Fields.close Fields.endMembers
        (fields.ofMembersText (fun _ => ⟨fun _ => .ok id, fun c => (Scan.pass c).map fun x => (id, x.2)⟩)
          (fuelFor c₁) true fields.start () c₁ >>= fun x =>
            Fields.looseAt x.2.2 (fields.finish x.1) >>= fun a => .ok (a, x.2.2)) := by
      simp only [record, hpeek, hopen]
      rfl
    rw [htext, ← bind_pure ((record name fields).ofJson (.obj members))]
    show Matches _ ((fields.ofMembers _ members fields.start () >>= fun x => fields.finish x.1) >>= pure) _
    rw [bind_assoc]
    exact h.object (K := fun _ _ => True)
      (fun _ _ _ _ hj => ⟨id, map_eq_ok.mpr ⟨_, pass_of_spells hj, rfl⟩, fun _ _ _ => trivial⟩) hmembers
      trivial
      (fun a _ => a) fun _ _ _ _ ha _ => ha

theorem sortedMembers_insert (m : KeyMap Json) (key : String) (j : Json) :
    Json.sortedMembers (m.insert key j) = KeyMap.insert (Json.sortedMembers m) key j.sorted := by
  induction m with
  | nil => rfl
  | cons entry m ih =>
    obtain ⟨k, x⟩ := entry
    simp only [KeyMap.insert, Json.sortedMembers]
    split
    · rfl
    · split
      · rfl
      · rw [Json.sortedMembers, ih]

theorem mirrors_openRecord {fields : Fields (KeyMap Json → α)}
    (h : fields.Mirrored fun make make' => ∀ rest, P (make rest) (make' (Json.sortedMembers rest))) :
    (openRecord name fields).Mirrors P := by
  obtain ⟨S, h⟩ := h
  intro c j c' hspells
  obtain ⟨ch, hpeek, hch⟩ := hspells.begins
  by_cases hbracket : ch = '{'
  · subst hbracket
    obtain ⟨members, rfl⟩ := hch.obj
    cases hspells with
    | word h => cases h
    | @obj _ _ c₁ c₂ _ hopen hmembers =>
      have htext : (openRecord name fields).ofText c = Fields.close Fields.endMembers
          (fields.ofMembersText (fun key => json.map fun j rest => KeyMap.insert rest key j)
            (fuelFor c₁) true fields.start [] c₁ >>= fun x =>
              Fields.looseAt x.2.2 (fields.finish x.1) >>= fun make => .ok (make x.2.1, x.2.2)) := by
        refine (if_pos hpeek).trans ?_
        rw [hopen]
        rfl
      rw [htext]
      exact h.object (K := fun rest rest' => Json.sortedMembers rest = rest')
        (fun key j _ _ hj => ⟨_, map_eq_ok.mpr ⟨_, json_of_spells hj, rfl⟩,
          fun rest rest' hrest => hrest ▸ sortedMembers_insert rest key j⟩) hmembers rfl
        (fun make rest => make rest) fun make make' rest rest' hmake hrest => hrest ▸ hmake rest
  · have hrefuse : (openRecord name fields).ofText c = refuse name c.skipBlank :=
      if_neg (by rw [hpeek]; exact fun heq => hbracket (Option.some.inj heq))
    rw [hrefuse]
    cases j with
    | obj members => exact absurd hch hbracket
    | _ => exact .of_error (refuse_error _ _)

/-- A whole text gives what the value gives that it spells. -/
theorem Mirrors.whole {r : Reader α} (hr : r.Mirrors P) {text : String} {j : Json}
    (h : Json.Spelled text j) : Matches P (r.ofJson j) (Scan.whole r.ofText text) := by
  obtain ⟨c, hspells, hend⟩ := h
  have hread := hr _ _ _ hspells
  rw [Scan.whole]
  refine bind_pure (r.ofJson j) ▸ hread.bind fun a x ha => ?_
  obtain ⟨a', c⟩ := x
  obtain ⟨ha, rfl⟩ := ha
  show Matches P _ (if c.skipBlank.rest.isEmpty = true then .ok a' else _)
  rw [if_pos (List.isEmpty_iff.mpr hend)]
  exact .ok ha

end Reader
end WorkflowCanvas
