import WorkflowCanvas.Json.Parser
import WorkflowCanvas.Proofs.Json.Reading

/-! The words of a JSON text as they are read. What a word is depends on the text alone, not on where it
stands or on the room for brackets, and what can be read can be passed over, up to the same place. -/
namespace WorkflowCanvas

/-! ### Cursors -/

namespace Cursor
variable {c c' c'' d : Cursor} {ch : Char}

/-- How much text is left. -/
def left (c : Cursor) : Nat := c.rest.length

@[simp] theorem rest_next (c : Cursor) : c.next.rest = c.rest.tail := by
  rw [next]
  split <;> simp_all

@[simp] theorem room_next (c : Cursor) : c.next.room = c.room := by
  rw [next]
  split <;> rfl

@[simp] theorem rest_skip (c : Cursor) (n : Nat) : (c.skip n).rest = c.rest.drop n := by
  induction n generalizing c with
  | zero => rfl
  | succ n ih => rw [skip, ih, rest_next, List.drop_tail]

@[simp] theorem room_skip (c : Cursor) (n : Nat) : (c.skip n).room = c.room := by
  induction n generalizing c with
  | zero => rfl
  | succ n ih => rw [skip, ih, room_next]

theorem skip_skip (c : Cursor) (m n : Nat) : (c.skip m).skip n = c.skip (m + n) := by
  induction m generalizing c with
  | zero => rw [Nat.zero_add, skip]
  | succ m ih => rw [Nat.succ_add, skip, skip, ih]

theorem peek?_congr (h : d.rest = c.rest) : d.peek? = c.peek? := congrArg List.head? h

section cons
variable {rest : List Char} (hc : c.rest = ch :: rest)
include hc

theorem peek?_of_rest : c.peek? = some ch := congrArg List.head? hc

theorem next_of_rest : c.next.rest = rest := (rest_next c).trans (congrArg List.tail hc)

end cons

theorem left_next (h : c.peek? = some ch) : c.next.left + 1 = c.left := by
  obtain ⟨rest, hrest⟩ := List.head?_eq_some_iff.mp h
  simp [left, hrest]

/-- One place is not before another, with the same room. -/
structure Beyond (c c' : Cursor) : Prop where
  left : c'.left ≤ c.left
  room : c'.room = c.room

theorem Beyond.refl (c : Cursor) : c.Beyond c := ⟨Nat.le_refl _, rfl⟩

theorem Beyond.trans (h : c.Beyond c') (h' : c'.Beyond c'') : c.Beyond c'' :=
  ⟨Nat.le_trans h'.left h.left, h'.room.trans h.room⟩

theorem beyond_skip (c : Cursor) (n : Nat) : c.Beyond (c.skip n) :=
  ⟨by simp [left], room_skip c n⟩

theorem beyond_next (c : Cursor) : c.Beyond c.next := c.beyond_skip 1

theorem beyond_skipBlank (c : Cursor) : c.Beyond c.skipBlank := c.beyond_skip _

theorem skipBlank_of_peek? (h : ∀ ch ∈ c.peek?, isBlank ch = false) : c.skipBlank = c := by
  have hnone : c.rest.takeWhile isBlank = [] := by
    cases hrest : c.rest with
    | nil => rfl
    | cons ch rest => simp [h ch (by rw [peek?, hrest]; rfl)]
  rw [skipBlank, hnone]
  rfl

theorem skipBlank_at (hpeek : c.peek? = some ch) (hch : isBlank ch = false) : c.skipBlank = c :=
  skipBlank_of_peek? (by rw [hpeek]; rintro _ ⟨⟩; exact hch)

theorem peek?_skipBlank (c : Cursor) : ∀ ch ∈ c.skipBlank.peek?, isBlank ch = false := by
  intro ch hch
  have hdrop : c.skipBlank.rest = c.rest.dropWhile isBlank := by
    rw [skipBlank, rest_skip]
    exact (congrArg (List.drop _) List.takeWhile_append_dropWhile).symm.trans List.drop_left
  have hhead := List.head?_dropWhile_not isBlank c.rest
  rw [peek?, hdrop] at hch
  rw [hch] at hhead
  exact Bool.eq_false_iff.mpr (by simpa using hhead)

theorem skipBlank_skipBlank (c : Cursor) : c.skipBlank.skipBlank = c.skipBlank :=
  skipBlank_of_peek? (peek?_skipBlank c)

/-- The same place with other room for brackets. -/
def within (c : Cursor) (room : Nat) : Cursor := { c with room }

@[simp] theorem peek?_within (c : Cursor) (room : Nat) : (c.within room).peek? = c.peek? := rfl

@[simp] theorem next_within (c : Cursor) (room : Nat) : (c.within room).next = c.next.within room := by
  obtain ⟨rest, position, _⟩ := c
  cases rest with
  | nil => rfl
  | cons ch rest =>
    simp only [next, within]
    split <;> rfl

@[simp] theorem skip_within (c : Cursor) (room n : Nat) :
    (c.within room).skip n = (c.skip n).within room := by
  induction n generalizing c with
  | zero => rfl
  | succ n ih => rw [skip, next_within, ih, skip]

@[simp] theorem skipBlank_within (c : Cursor) (room : Nat) :
    (c.within room).skipBlank = c.skipBlank.within room := skip_within c room _

theorem within_of_room (h : c'.room = c.room) : c'.within c.room = c' := by
  rw [← h]
  rfl

end Cursor

namespace Scan
variable {α β : Type} {f g : Scan α} {a : α} {c c' c'' d : Cursor} {ch : Char}

/-! ### Reading the same text -/

/-- From one place to another `a` is read, and wherever else the same text stands. -/
def Takes (f : Scan α) (a : α) (c c' : Cursor) : Prop :=
  ∃ n, c' = c.skip n ∧ ∀ d, d.rest = c.rest → f d = .ok (a, d.skip n)

theorem Takes.ok (h : Takes f a c c') : f c = .ok (a, c') := by
  obtain ⟨n, rfl, h⟩ := h
  exact h c rfl

theorem Takes.beyond (h : Takes f a c c') : c.Beyond c' := by
  obtain ⟨n, rfl, -⟩ := h
  exact c.beyond_skip n

theorem Takes.within (h : Takes f a c c') (room : Nat) : f (c.within room) = .ok (a, c'.within room) := by
  obtain ⟨n, rfl, h⟩ := h
  rw [h (c.within room) rfl, Cursor.skip_within]

theorem Takes.skip {n : Nat} (h : ∀ d, d.rest = c.rest → f d = .ok (a, d.skip n)) :
    Takes f a c (c.skip n) := ⟨n, rfl, h⟩

theorem Takes.congr (h : Takes f a c c') (heq : ∀ d, d.rest = c.rest → g d = f d) : Takes g a c c' := by
  obtain ⟨n, rfl, h⟩ := h
  exact .skip fun d hd => (heq d hd).trans (h d hd)

theorem Takes.map (k : α → β) (h : Takes f a c c') :
    Takes (fun c => (f c).map fun x => (k x.1, x.2)) (k a) c c' := by
  obtain ⟨n, rfl, h⟩ := h
  exact .skip fun d hd => map_eq_ok.mpr ⟨_, h d hd, rfl⟩

theorem Takes.bind (next : α → Scan β) {b : β} (h : Takes f a c c') (h' : Takes (next a) b c' c'') :
    Takes (fun c => f c >>= fun x => next x.1 x.2) b c c'' := by
  obtain ⟨m, rfl, h⟩ := h
  obtain ⟨n, rfl, h'⟩ := h'
  rw [Cursor.skip_skip]
  refine .skip fun d hd => bind_eq_ok.mpr ⟨_, h d hd, ?_⟩
  rw [← Cursor.skip_skip]
  exact h' _ (by simp [hd])

/-- One character, and what is read from behind it. -/
theorem Takes.step (hpeek : c.peek? = some ch) (h : Takes f a c.next c')
    (heq : ∀ d, d.peek? = some ch → g d = f d.next) : Takes g a c c' := by
  obtain ⟨n, rfl, h⟩ := h
  refine ⟨n + 1, rfl, fun d hd => ?_⟩
  rw [heq d (by rw [← hpeek, Cursor.peek?_congr hd])]
  exact h d.next (by simp [hd])

theorem Takes.done (a : α) (c : Cursor) : Takes (fun c => .ok (a, c)) a c c :=
  .skip (n := 0) fun _ _ => rfl

/-- What `scan` reads at a place, it reads wherever the same text stands. -/
def Local (f : Scan α) : Prop := ∀ {c a c'}, f c = .ok (a, c') → Takes f a c c'

/-! ### Strings -/

theorem local_ident (chs : List Char) : Local (ident chs) := by
  intro c u c' h
  induction chs generalizing c with
  | nil =>
    cases h
    exact .done () _
  | cons ch chs ih =>
    rw [ident] at h
    split at h
    · cases h
    · next found hpeek =>
      split at h
      · next hfound =>
        exact .step hpeek (ih h) fun d hd => by rw [ident, hd]; exact if_pos hfound
      · cases h

theorem local_codeUnit : Local codeUnit := by
  intro c n c' h
  rw [codeUnit] at h
  split at h
  · cases h
  · next hsize =>
    split at h
    · next hn =>
      cases h
      exact .skip fun d hd => by rw [codeUnit, hd, if_neg hsize, hn]
    · cases h

theorem local_pairMark (ch : Char) : Local (pairMark ch) := by
  intro c u c' h
  rw [pairMark] at h
  split at h
  · cases h
  · next found hpeek =>
    split at h
    · next hfound =>
      cases h
      exact .step hpeek (.done () c.next) fun d hd => by rw [pairMark, hd]; exact if_pos hfound
    · cases h

/-- A code unit is a character, or one half of it before the other. -/
theorem unicodeEscape_eq_ok : unicodeEscape c = .ok (ch, c') ↔
    ∃ high c₁, codeUnit c = .ok (high, c₁) ∧ isLowSurrogate high = false ∧
      (isHighSurrogate high = false ∧ Char.ofNat high = ch ∧ c₁ = c' ∨
        isHighSurrogate high = true ∧ ∃ c₂ c₃ low, pairMark '\\' c₁ = .ok ((), c₂) ∧
          pairMark 'u' c₂ = .ok ((), c₃) ∧ codeUnit c₃ = .ok (low, c') ∧ isLowSurrogate low = true ∧
          Char.ofNat ((high - 0xD800) * 0x400 + (low - 0xDC00) + 0x10000) = ch) := by
  constructor
  · intro h
    obtain ⟨⟨high, c₁⟩, h₁, h⟩ := bind_eq_ok.mp h
    refine ⟨high, c₁, h₁, ?_⟩
    dsimp only at h
    split at h
    · cases h
    · next hlow =>
      refine ⟨Bool.eq_false_iff.mpr hlow, ?_⟩
      split at h
      · next hhigh =>
        obtain ⟨⟨_, c₂⟩, h₂, h⟩ := bind_eq_ok.mp h
        obtain ⟨⟨_, c₃⟩, h₃, h⟩ := bind_eq_ok.mp h
        obtain ⟨⟨low, c₄⟩, h₄, h⟩ := bind_eq_ok.mp h
        dsimp only at h
        split at h
        · next hsecond =>
          obtain ⟨hch, rfl⟩ := Prod.mk.inj (Except.ok.inj h)
          exact .inr ⟨hhigh, c₂, c₃, low, h₂, h₃, h₄, hsecond, hch⟩
        · cases h
      · next hhigh =>
        obtain ⟨hch, rfl⟩ := Prod.mk.inj (Except.ok.inj h)
        exact .inl ⟨Bool.eq_false_iff.mpr hhigh, hch, rfl⟩
  · rintro ⟨high, c₁, h₁, hlow, ⟨hhigh, rfl, rfl⟩ | ⟨hhigh, c₂, c₃, low, h₂, h₃, h₄, hsecond, rfl⟩⟩
    · refine bind_eq_ok.mpr ⟨_, h₁, ?_⟩
      simp only [hlow, hhigh, Bool.false_eq_true, if_false]
      rfl
    · refine bind_eq_ok.mpr ⟨_, h₁, ?_⟩
      simp only [hlow, hhigh, Bool.false_eq_true, if_false, if_true]
      refine bind_eq_ok.mpr ⟨_, h₂, bind_eq_ok.mpr ⟨_, h₃, bind_eq_ok.mpr ⟨_, h₄, ?_⟩⟩⟩
      exact if_pos hsecond

theorem local_unicodeEscape : Local unicodeEscape := by
  intro c ch c' h
  obtain ⟨high, c₁, h₁, hlow, ⟨hhigh, hch, rfl⟩ | ⟨hhigh, c₂, c₃, low, h₂, h₃, h₄, hsecond, hch⟩⟩ :=
    unicodeEscape_eq_ok.mp h
  · obtain ⟨n, rfl, hunit⟩ := local_codeUnit h₁
    exact .skip fun d hd => unicodeEscape_eq_ok.mpr ⟨high, _, hunit d hd, hlow, .inl ⟨hhigh, hch, rfl⟩⟩
  · obtain ⟨k, rfl, hunit⟩ := local_codeUnit h₁
    obtain ⟨l, rfl, hslash⟩ := local_pairMark _ h₂
    obtain ⟨m, rfl, hmark⟩ := local_pairMark _ h₃
    obtain ⟨n, rfl, hpair⟩ := local_codeUnit h₄
    simp only [Cursor.skip_skip] at hmark hpair ⊢
    refine .skip fun d hd => unicodeEscape_eq_ok.mpr ⟨high, _, hunit d hd, hlow, .inr ⟨hhigh, _, _, low,
      hslash _ (by simp [hd]), hmark _ (by simp [hd, Cursor.skip_skip]), ?_, hsecond, hch⟩⟩
    simpa only [Cursor.skip_skip] using hpair (d.skip (k + l + m)) (by simp [hd])

theorem escape_unicode (hpeek : c.peek? = some 'u') : escape c = unicodeEscape c.next := by
  simp only [escape, hpeek]

theorem escape_short {value : Char} (hpeek : c.peek? = some ch) (hshort : shortEscape? ch = some value) :
    escape c = .ok (value, c.next) := by
  rw [escape]
  split
  · next hnone => cases hnone.symm.trans hpeek
  · next hu =>
    obtain rfl := Option.some.inj (hu.symm.trans hpeek)
    cases hshort
  · next found _ hfound =>
    obtain rfl := Option.some.inj (hfound.symm.trans hpeek)
    simp only [hshort]

theorem escape_cases (h : escape c = .ok (ch, c')) :
    c.peek? = some 'u' ∧ unicodeEscape c.next = .ok (ch, c') ∨
      ∃ found, c.peek? = some found ∧ shortEscape? found = some ch ∧ c' = c.next := by
  rw [escape] at h
  split at h
  · cases h
  · next hpeek => exact .inl ⟨hpeek, h⟩
  · next found _ hpeek =>
    split at h
    · next hshort =>
      cases h
      exact .inr ⟨found, hpeek, hshort, rfl⟩
    · cases h

theorem local_escape : Local escape := by
  intro c ch c' h
  obtain ⟨hpeek, h⟩ | ⟨found, hpeek, hshort, rfl⟩ := escape_cases h
  · exact .step hpeek (local_unicodeEscape h) fun d hd => escape_unicode hd
  · exact .step hpeek (.done ch _) fun d hd => escape_short hd hshort

section quotedChars
variable {fuel : Nat} {chs : List Char}

theorem quotedChars_end (hpeek : c.peek? = some '"') : quotedChars (fuel + 1) c = .ok ([], c.next) := by
  simp only [quotedChars, hpeek]

theorem quotedChars_escape (hpeek : c.peek? = some '\\') :
    quotedChars (fuel + 1) c = (escape c.next >>= fun x =>
      (quotedChars fuel x.2).map fun y => (x.1 :: y.1, y.2)) := by
  simp only [quotedChars, hpeek]
  rfl

/-- A character that stands for itself. -/
def Plain (ch : Char) : Prop := ch ≠ '"' ∧ ch ≠ '\\' ∧ ¬ch.toNat < 32

theorem quotedChars_plain (hpeek : c.peek? = some ch) (hch : Plain ch) :
    quotedChars (fuel + 1) c = (quotedChars fuel c.next).map fun y => (ch :: y.1, y.2) := by
  rw [quotedChars]
  split
  · next hnone => cases hnone.symm.trans hpeek
  · next hfound => exact absurd (Option.some.inj (hpeek.symm.trans hfound)) hch.1
  · next hfound => exact absurd (Option.some.inj (hpeek.symm.trans hfound)) hch.2.1
  · next hfound =>
    obtain rfl := Option.some.inj (hfound.symm.trans hpeek)
    rw [if_neg hch.2.2]
    rfl

theorem quotedChars_cases (h : quotedChars (fuel + 1) c = .ok (chs, c')) :
    c.peek? = some '"' ∧ chs = [] ∧ c' = c.next ∨
    (∃ ch rest c₁, c.peek? = some '\\' ∧ escape c.next = .ok (ch, c₁) ∧
      quotedChars fuel c₁ = .ok (rest, c') ∧ chs = ch :: rest) ∨
    ∃ ch rest, c.peek? = some ch ∧ Plain ch ∧ quotedChars fuel c.next = .ok (rest, c') ∧
      chs = ch :: rest := by
  rw [quotedChars] at h
  split at h
  · cases h
  · next hpeek =>
    cases h
    exact .inl ⟨hpeek, rfl, rfl⟩
  · next hpeek =>
    obtain ⟨⟨ch, c₁⟩, h₁, h⟩ := bind_eq_ok.mp h
    obtain ⟨⟨rest, c₂⟩, h₂, h⟩ := bind_eq_ok.mp h
    cases h
    exact .inr (.inl ⟨ch, rest, c₁, hpeek, h₁, h₂, rfl⟩)
  · next ch hquote hslash hpeek =>
    split at h
    · cases h
    · next hlow =>
      obtain ⟨⟨rest, c₂⟩, h₂, h⟩ := bind_eq_ok.mp h
      cases h
      exact .inr (.inr ⟨ch, rest, hpeek, ⟨hquote, hslash, hlow⟩, h₂, rfl⟩)

theorem local_quotedChars (fuel : Nat) : Local (quotedChars fuel) := by
  induction fuel with
  | zero => rintro c chs c' ⟨⟩
  | succ fuel ih =>
    intro c chs c' h
    obtain ⟨hpeek, rfl, rfl⟩ | ⟨ch, rest, c₁, hpeek, h₁, h₂, rfl⟩ | ⟨ch, rest, hpeek, hch, h₂, rfl⟩ :=
      quotedChars_cases h
    · exact .step hpeek (.done [] _) fun d hd => quotedChars_end hd
    · have hrest := (ih h₂).map (ch :: ·)
      have hchs : Takes (fun c => escape c >>= fun x =>
          (quotedChars fuel x.2).map fun y => (x.1 :: y.1, y.2)) (ch :: rest) c.next c' :=
        (local_escape h₁).bind (fun ch c => (quotedChars fuel c).map fun y => (ch :: y.1, y.2)) hrest
      exact .step hpeek hchs fun d hd => quotedChars_escape hd
    · exact .step hpeek ((ih h₂).map (ch :: ·)) fun d hd => quotedChars_plain hd hch

end quotedChars

theorem local_quoted : Local quoted := by
  intro c s c' h
  obtain ⟨⟨chs, c₁⟩, h₁, h⟩ := bind_eq_ok.mp h
  cases h
  obtain ⟨n, rfl, hchs⟩ := local_quotedChars _ h₁
  refine .skip fun d hd => ?_
  rw [quoted, hd]
  exact bind_eq_ok.mpr ⟨_, hchs d hd, rfl⟩

/-! ### Passing over -/

theorem passEscape_unicode {n : Nat} (hpeek : c.peek? = some 'u') (h : codeUnit c.next = .ok (n, c')) :
    passEscape c = .ok ((), c') := by
  simp only [passEscape, hpeek]
  exact bind_eq_ok.mpr ⟨_, h, rfl⟩

theorem passEscape_short {value : Char} (hpeek : c.peek? = some ch)
    (hshort : shortEscape? ch = some value) : passEscape c = .ok ((), c.next) := by
  rw [passEscape]
  split
  · next hnone => cases hnone.symm.trans hpeek
  · next hu =>
    obtain rfl := Option.some.inj (hu.symm.trans hpeek)
    cases hshort
  · next found _ hfound =>
    obtain rfl := Option.some.inj (hfound.symm.trans hpeek)
    rw [hshort]
    rfl

theorem pairMark_eq_ok {u : Unit} : pairMark ch c = .ok (u, c') ↔ c.peek? = some ch ∧ c' = c.next := by
  rw [pairMark]
  split
  · next hpeek => simp [hpeek, Cursor.fail]
  · next found hpeek =>
    rw [hpeek]
    split
    · next hfound => simp [hfound, eq_comm]
    · next hfound => simp [hfound, Cursor.failHere]

/-- An escape is passed over, or the two that stand for one character are, one after the other. -/
theorem passEscape_of_escape (h : escape c = .ok (ch, c')) :
    passEscape c = .ok ((), c') ∨ ∃ c₁, passEscape c = .ok ((), c₁) ∧ c.Beyond c₁ ∧
      c₁.peek? = some '\\' ∧ passEscape c₁.next = .ok ((), c') ∧ c₁.next.Beyond c' := by
  obtain ⟨hpeek, h⟩ | ⟨found, hpeek, hshort, rfl⟩ := escape_cases h
  · obtain ⟨high, c₁, h₁, -, ⟨-, -, rfl⟩ | ⟨-, c₂, c₃, low, h₂, h₃, h₄, -, -⟩⟩ := unicodeEscape_eq_ok.mp h
    · exact .inl (passEscape_unicode hpeek h₁)
    · obtain ⟨hslash, rfl⟩ := pairMark_eq_ok.mp h₂
      obtain ⟨hu, rfl⟩ := pairMark_eq_ok.mp h₃
      exact .inr ⟨c₁, passEscape_unicode hpeek h₁, c.beyond_next.trans (local_codeUnit h₁).beyond, hslash,
        passEscape_unicode hu h₄, (Cursor.beyond_next _).trans (local_codeUnit h₄).beyond⟩
  · exact .inl (passEscape_short hpeek hshort)

theorem passQuotedChars_escape {fuel : Nat} (hpeek : c.peek? = some '\\')
    (h : passEscape c.next = .ok ((), c')) : passQuotedChars (fuel + 1) c = passQuotedChars fuel c' := by
  simp only [passQuotedChars, hpeek, h]
  rfl

theorem passQuotedChars_plain {fuel : Nat} (hpeek : c.peek? = some ch) (hch : Plain ch) :
    passQuotedChars (fuel + 1) c = passQuotedChars fuel c.next := by
  rw [passQuotedChars]
  split
  · next hnone => cases hnone.symm.trans hpeek
  · next hfound => exact absurd (Option.some.inj (hpeek.symm.trans hfound)) hch.1
  · next hfound => exact absurd (Option.some.inj (hpeek.symm.trans hfound)) hch.2.1
  · next hfound =>
    obtain rfl := Option.some.inj (hfound.symm.trans hpeek)
    rw [if_neg hch.2.2]

theorem passQuotedChars_of_quotedChars {fuel fuel' : Nat} {chs : List Char}
    (h : quotedChars fuel c = .ok (chs, c')) (hfuel : c.left < fuel') :
    passQuotedChars fuel' c = .ok ((), c') := by
  induction fuel generalizing c chs fuel' with
  | zero => cases h
  | succ fuel ih =>
    obtain ⟨fuel', rfl⟩ : ∃ k, fuel' = k + 1 := ⟨fuel' - 1, by omega⟩
    obtain ⟨hpeek, rfl, rfl⟩ | ⟨ch, rest, c₁, hpeek, h₁, h₂, rfl⟩ | ⟨ch, rest, hpeek, hch, h₂, rfl⟩ :=
      quotedChars_cases h
    · simp only [passQuotedChars, hpeek]
    · have hnext := Cursor.left_next hpeek
      have hleft := (local_escape h₁).beyond.left
      obtain hpass | ⟨c₂, hfirst, hmiddle, hslash, hsecond, hlast⟩ := passEscape_of_escape h₁
      · rw [passQuotedChars_escape hpeek hpass]
        exact ih h₂ (by omega)
      · have := Cursor.left_next hslash
        have := hmiddle.left
        have := hlast.left
        obtain ⟨fuel', rfl⟩ : ∃ k, fuel' = k + 1 := ⟨fuel' - 1, by omega⟩
        rw [passQuotedChars_escape hpeek hfirst, passQuotedChars_escape hslash hsecond]
        exact ih h₂ (by omega)
    · have hnext := Cursor.left_next hpeek
      rw [passQuotedChars_plain hpeek hch]
      exact ih h₂ (by omega)

theorem passQuoted_of_quoted {s : String} (h : quoted c = .ok (s, c')) : passQuoted c = .ok ((), c') := by
  obtain ⟨⟨chs, c₁⟩, h₁, h⟩ := bind_eq_ok.mp h
  cases h
  exact passQuotedChars_of_quotedChars h₁ (Nat.lt_succ_self _)

end Scan
end WorkflowCanvas
