import WorkflowCanvas.Proofs.Json.Scanning

/-! Numbers in a JSON text. A number ends where no character goes on with it, so it is the same number
before every such text, and it can be passed over. -/
namespace WorkflowCanvas.Scan
open Cursor
variable {ys : List Char} {c c' c'' d d' d'' : Cursor} {ch : Char}

/-- What a number does not go on with. -/
def Stops (ys : List Char) : Prop := ∀ ch ∈ ys.head?, ch.isDigit = false ∧ ch ≠ '.' ∧ ch ≠ 'e' ∧ ch ≠ 'E'

theorem stops_nil : Stops [] := by rintro ch ⟨⟩

/-! ### Two texts -/

/-- One cursor stands before a text, and the other before the same text with `ys` behind it. -/
def Longer (ys : List Char) (c d : Cursor) : Prop := d.rest = c.rest ++ ys

theorem Longer.peek? (h : Longer ys c d) (hpeek : c.peek? = some ch) : d.peek? = some ch := by
  obtain ⟨rest, hrest⟩ := List.head?_eq_some_iff.mp hpeek
  rw [Cursor.peek?, h, hrest]
  rfl

theorem Longer.peek?_end (h : Longer ys c d) (hpeek : c.peek? = none) : d.peek? = ys.head? := by
  rw [Cursor.peek?, h, List.head?_eq_none_iff.mp hpeek]
  rfl

/-- Two cursors go past as many characters. -/
def Together (c c' d d' : Cursor) : Prop := ∃ n ≤ c.left, c' = c.skip n ∧ d' = d.skip n

theorem Together.refl (c d : Cursor) : Together c c d d := ⟨0, Nat.zero_le _, rfl, rfl⟩

theorem Together.next (hpeek : c.peek? = some ch) : Together c c.next d d.next :=
  ⟨1, by have := left_next hpeek; omega, rfl, rfl⟩

theorem Together.trans (h : Together c c' d d') (h' : Together c' c'' d' d'') :
    Together c c'' d d'' := by
  obtain ⟨m, hm, rfl, rfl⟩ := h
  obtain ⟨n, hn, rfl, rfl⟩ := h'
  rw [skip_skip, skip_skip]
  refine ⟨m + n, ?_, rfl, rfl⟩
  simp only [left, rest_skip, List.length_drop] at hm hn ⊢
  omega

theorem Together.longer (h : Together c c' d d') (hd : Longer ys c d) : Longer ys c' d' := by
  obtain ⟨n, hn, rfl, rfl⟩ := h
  rw [Longer, rest_skip, rest_skip, hd, List.drop_append_of_le_length hn]

/-- How far the one cursor goes says how far the other does. -/
theorem Together.skip_eq (h : Together c c' d d') : c' = c.skip (c.left - c'.left) ∧
    d' = d.skip (c.left - c'.left) := by
  obtain ⟨n, hn, rfl, rfl⟩ := h
  have hleft : c.left - (c.skip n).left = n := by
    simp only [left, rest_skip, List.length_drop] at hn ⊢
    omega
  rw [hleft]
  exact ⟨rfl, rfl⟩

theorem Together.beyond (h : Together c c' d d') : c.Beyond c' := by
  obtain ⟨n, -, rfl, -⟩ := h
  exact c.beyond_skip n

/-! ### Parts -/

theorem digits_longer (hys : Stops ys) (hd : Longer ys c d) {ds : List Nat} (h : c.digits = (ds, c')) :
    ∃ d', d.digits = (ds, d') ∧ Together c c' d d' := by
  have hnone : ys.takeWhile Char.isDigit = [] := by
    cases ys with
    | nil => rfl
    | cons ch ys => rw [List.takeWhile_cons, (hys ch rfl).1]; rfl
  have htake : d.rest.takeWhile Char.isDigit = c.rest.takeWhile Char.isDigit := by
    rw [hd, List.takeWhile_append, hnone]
    split
    · next hlength => rw [List.append_nil, (List.takeWhile_prefix _).eq_of_length hlength]
    · rfl
  obtain ⟨rfl, rfl⟩ := Prod.mk.inj h
  exact ⟨_, by rw [digits, htake], _, (List.takeWhile_prefix _).length_le, rfl, rfl⟩

theorem left_digits (hpeek : c.peek? = some ch) (hdigit : ch.isDigit = true) :
    c.digits.2.left < c.left := by
  obtain ⟨rest, hrest⟩ := List.head?_eq_some_iff.mp hpeek
  have hsome : 0 < (c.rest.takeWhile Char.isDigit).length := by
    rw [hrest, List.takeWhile_cons_of_pos hdigit]
    exact Nat.succ_pos _
  have hrest : 0 < c.left := by
    rw [left, hrest]
    exact Nat.succ_pos _
  show (c.skip _).left < c.left
  rw [left, rest_skip, List.length_drop]
  exact Nat.sub_lt hrest hsome

/-- Before the point stands a zero that no digit follows, or digits. -/
theorem wholePart_eq_ok {atEnd : SyntaxFault} {ds : List Nat} : wholePart atEnd c = .ok (ds, c') ↔
    ∃ ch, c.peek? = some ch ∧ (ch = '0' ∧ (∀ next ∈ c.next.peek?, next.isDigit = false) ∧
        ds = [0] ∧ c' = c.next ∨
      ch ≠ '0' ∧ ch.isDigit = true ∧ c.digits = (ds, c')) := by
  constructor
  · intro h
    rw [wholePart] at h
    split at h
    · cases h
    · next hpeek =>
      refine ⟨'0', hpeek, .inl ⟨rfl, ?_⟩⟩
      split at h
      · next next hnext =>
        split at h
        · cases h
        · next hdigit =>
          cases h
          refine ⟨?_, rfl, rfl⟩
          rw [hnext]
          rintro _ ⟨⟩
          exact Bool.eq_false_iff.mpr hdigit
      · next hnext =>
        cases h
        refine ⟨?_, rfl, rfl⟩
        rw [hnext]
        rintro _ ⟨⟩
    · next ch hzero hpeek =>
      split at h
      · next hdigit => exact ⟨ch, hpeek, .inr ⟨hzero, hdigit, Except.ok.inj h⟩⟩
      · cases h
  · rintro ⟨ch, hpeek, ⟨rfl, hstop, rfl, rfl⟩ | ⟨hzero, hdigit, hdigits⟩⟩
    · simp only [wholePart, hpeek]
      split
      · next next hnext => rw [if_neg (Bool.eq_false_iff.mp (hstop next hnext))]
      · rfl
    · rw [wholePart]
      split
      · next hnone => cases hnone.symm.trans hpeek
      · next hfound => exact absurd (Option.some.inj (hpeek.symm.trans hfound)) hzero
      · next hfound =>
        obtain rfl := Option.some.inj (hfound.symm.trans hpeek)
        rw [if_pos hdigit, hdigits]

theorem wholePart_longer (hys : Stops ys) (hd : Longer ys c d) {atEnd : SyntaxFault} (atEnd' : SyntaxFault)
    {ds : List Nat}
    (h : wholePart atEnd c = .ok (ds, c')) :
    c'.left < c.left ∧ ∃ d', wholePart atEnd' d = .ok (ds, d') ∧ Together c c' d d' := by
  obtain ⟨ch, hpeek, ⟨hzero, hstop, rfl, rfl⟩ | ⟨hzero, hdigit, hdigits⟩⟩ := wholePart_eq_ok.mp h
  · have hnext : Together c c.next d d.next := .next hpeek
    refine ⟨by have := left_next hpeek; omega, d.next, ?_, hnext⟩
    refine wholePart_eq_ok.mpr ⟨ch, hd.peek? hpeek, .inl ⟨hzero, fun next hfound => ?_, rfl, rfl⟩⟩
    cases hend : c.next.peek? with
    | none => exact (hys next ((hnext.longer hd).peek?_end hend ▸ hfound)).1
    | some found =>
      rw [(hnext.longer hd).peek? hend] at hfound
      exact hstop next (hend ▸ hfound)
  · obtain ⟨d', hd', htogether⟩ := digits_longer hys hd hdigits
    refine ⟨?_, d', wholePart_eq_ok.mpr ⟨ch, hd.peek? hpeek, .inr ⟨hzero, hdigit, hd'⟩⟩, htogether⟩
    have hleft := left_digits hpeek hdigit
    rwa [hdigits] at hleft

/-- Behind the whole part stands nothing, or a point with digits. -/
theorem fractionPart_eq_ok {atEnd : SyntaxFault} {fraction : Option (List Nat)} :
    fractionPart atEnd c = .ok (fraction, c') ↔
      c.peek? ≠ some '.' ∧ fraction = none ∧ c' = c ∨
      c.peek? = some '.' ∧ ∃ ds, ds ≠ [] ∧ fraction = some ds ∧ c.next.digits = (ds, c') := by
  constructor
  · intro h
    rw [fractionPart] at h
    split at h
    · next hpeek =>
      split at h
      · split at h <;> cases h
      · next ds c₁ hsome hdigits =>
        cases h
        exact .inr ⟨hpeek, ds, hsome, rfl, hdigits⟩
    · next hpeek =>
      cases h
      exact .inl ⟨hpeek, rfl, rfl⟩
  · rintro (⟨hpeek, rfl, rfl⟩ | ⟨hpeek, ds, hne, rfl, hdigits⟩)
    · rw [fractionPart]
      split
      · next hpoint => exact absurd hpoint hpeek
      · rfl
    · simp only [fractionPart, hpeek, hdigits]

theorem fractionPart_longer (hys : Stops ys) (hd : Longer ys c d) {atEnd : SyntaxFault} (atEnd' : SyntaxFault)
    {fraction : Option (List Nat)} (h : fractionPart atEnd c = .ok (fraction, c')) :
    ∃ d', fractionPart atEnd' d = .ok (fraction, d') ∧ Together c c' d d' := by
  obtain ⟨hpeek, rfl, rfl⟩ | ⟨hpeek, ds, hne, rfl, hdigits⟩ := fractionPart_eq_ok.mp h
  · refine ⟨d, fractionPart_eq_ok.mpr (.inl ⟨fun hpoint => ?_, rfl, rfl⟩), .refl c' d⟩
    cases hend : c'.peek? with
    | none => exact (hys '.' (hd.peek?_end hend ▸ hpoint)).2.1 rfl
    | some ch => exact hpeek (hend.trans ((hd.peek? hend).symm.trans hpoint))
  · have hnext : Together c c.next d d.next := .next hpeek
    obtain ⟨d', hd', htogether⟩ := digits_longer hys (hnext.longer hd) hdigits
    exact ⟨d', fractionPart_eq_ok.mpr (.inr ⟨hd.peek? hpeek, ds, hne, rfl, hd'⟩), hnext.trans htogether⟩

/-- Behind the fraction stands nothing, or an exponent with digits. -/
theorem exponentPart_eq_ok {atEnd : SyntaxFault} {e : Option (Bool × List Nat × Cursor)} :
    exponentPart atEnd c = .ok (e, c') ↔
      (∀ ch ∈ c.peek?, ch ≠ 'e' ∧ ch ≠ 'E') ∧ e = none ∧ c' = c ∨
      ∃ ch ds, c.peek? = some ch ∧ (ch = 'e' ∨ ch = 'E') ∧ ds ≠ [] ∧
        e = some ((exponentSign c.next).1, ds, (exponentSign c.next).2) ∧
        (exponentSign c.next).2.digits = (ds, c') := by
  constructor
  · intro h
    rw [exponentPart] at h
    split at h
    · next ch hpeek =>
      split at h
      · next hch =>
        dsimp only at h
        split at h
        · split at h <;> cases h
        · next ds c₁ hsome hdigits =>
          cases h
          exact .inr ⟨ch, ds, hpeek, hch, hsome, rfl, hdigits⟩
      · next hch =>
        cases h
        refine .inl ⟨?_, rfl, rfl⟩
        rw [hpeek]
        rintro _ ⟨⟩
        exact not_or.mp hch
    · next hpeek =>
      cases h
      refine .inl ⟨?_, rfl, rfl⟩
      rw [hpeek]
      rintro _ ⟨⟩
  · rintro (⟨hpeek, rfl, rfl⟩ | ⟨ch, ds, hpeek, hch, hne, rfl, hdigits⟩)
    · rw [exponentPart]
      split
      · next ch hfound =>
        obtain ⟨hlower, hupper⟩ := hpeek ch hfound
        rw [if_neg (not_or.mpr ⟨hlower, hupper⟩)]
      · rfl
    · simp only [exponentPart, hpeek, if_pos hch, hdigits]

theorem exponentSign_longer (hd : Longer ys c d) (hpeek : c.peek? = some ch) :
    (exponentSign d).1 = (exponentSign c).1 ∧ Together c (exponentSign c).2 d (exponentSign d).2 := by
  have hpeek' := hd.peek? hpeek
  rw [exponentSign, exponentSign, hpeek, hpeek']
  split
  · exact ⟨rfl, .next hpeek⟩
  · exact ⟨rfl, .next hpeek⟩
  · exact ⟨rfl, .refl c d⟩

/-- The exponents are the same, wherever their digits start. -/
def SameExponent (e e' : Option (Bool × List Nat × Cursor)) : Prop :=
  e.map (fun x => (x.1, x.2.1)) = e'.map fun x => (x.1, x.2.1)

theorem exponentPart_longer (hys : Stops ys) (hd : Longer ys c d) {atEnd : SyntaxFault} (atEnd' : SyntaxFault)
    {e : Option (Bool × List Nat × Cursor)} (h : exponentPart atEnd c = .ok (e, c')) :
    ∃ d' e', exponentPart atEnd' d = .ok (e', d') ∧ SameExponent e e' ∧ Together c c' d d' := by
  obtain ⟨hpeek, rfl, rfl⟩ | ⟨ch, ds, hpeek, hch, hne, rfl, hdigits⟩ := exponentPart_eq_ok.mp h
  · refine ⟨d, none, exponentPart_eq_ok.mpr (.inl ⟨fun ch hch => ?_, rfl, rfl⟩), rfl, .refl c' d⟩
    cases hend : c'.peek? with
    | none => exact (hys ch (hd.peek?_end hend ▸ hch)).2.2
    | some found =>
      rw [hd.peek? hend] at hch
      exact hpeek ch (hend ▸ hch)
  · have hnext : Together c c.next d d.next := .next hpeek
    have hlonger := hnext.longer hd
    have hdigit : ∃ next, c.next.peek? = some next := by
      refine Option.ne_none_iff_exists'.mp fun hnone => hne ?_
      have hnil : c.next.rest = [] := List.head?_eq_none_iff.mp hnone
      rw [exponentSign, hnone, digits, hnil] at hdigits
      exact (Prod.mk.inj hdigits).1.symm
    obtain ⟨next, hdigit⟩ := hdigit
    obtain ⟨hsign, hstart⟩ := exponentSign_longer hlonger hdigit
    obtain ⟨d', hd', htogether⟩ := digits_longer hys (hstart.longer hlonger) hdigits
    refine ⟨d', _, exponentPart_eq_ok.mpr (.inr ⟨ch, ds, hd.peek? hpeek, hch, hne, rfl, hd'⟩), ?_,
      hnext.trans (hstart.trans htogether)⟩
    rw [SameExponent, hsign]
    rfl

/-! ### Numbers -/

/-- The cursor behind the sign of a number, and whether there is one. -/
def unsigned (c : Cursor) : Bool × Cursor := if c.peek? = some '-' then (true, c.next) else (false, c)

theorem numeral_eq_ok {atEnd : SyntaxFault} {n : Numeral} : numeral atEnd c = .ok (n, c') ↔
    ∃ c₁ c₂, wholePart atEnd (unsigned c).2 = .ok (n.whole, c₁) ∧
      fractionPart atEnd c₁ = .ok (n.fraction, c₂) ∧ exponentPart atEnd c₂ = .ok (n.exponent, c') ∧
      (unsigned c).1 = n.negative := by
  show (wholePart atEnd (unsigned c).2 >>= fun x => fractionPart atEnd x.2 >>= fun y =>
    exponentPart atEnd y.2 >>= fun z => pure ((⟨(unsigned c).1, x.1, y.1, z.1⟩ : Numeral), z.2)) =
      Except.ok (n, c') ↔ _
  constructor
  · intro h
    obtain ⟨⟨whole, c₁⟩, h₁, h⟩ := bind_eq_ok.mp h
    obtain ⟨⟨fraction, c₂⟩, h₂, h⟩ := bind_eq_ok.mp h
    obtain ⟨⟨exponent, c₃⟩, h₃, h⟩ := bind_eq_ok.mp h
    cases h
    exact ⟨c₁, c₂, h₁, h₂, h₃, rfl⟩
  · rintro ⟨c₁, c₂, h₁, h₂, h₃, hsign⟩
    refine bind_eq_ok.mpr ⟨_, h₁, bind_eq_ok.mpr ⟨_, h₂, bind_eq_ok.mpr ⟨_, h₃, ?_⟩⟩⟩
    rw [hsign]
    rfl

theorem unsigned_longer (hd : Longer ys c d) (hfirst : (unsigned c).2.peek? = some ch) :
    (unsigned d).1 = (unsigned c).1 ∧ Together c (unsigned c).2 d (unsigned d).2 := by
  by_cases hminus : c.peek? = some '-'
  · have hshort : unsigned c = (true, c.next) := if_pos hminus
    have hlong : unsigned d = (true, d.next) := if_pos (hd.peek? hminus)
    rw [hshort, hlong]
    exact ⟨rfl, .next hminus⟩
  · have hshort : unsigned c = (false, c) := if_neg hminus
    rw [hshort] at hfirst ⊢
    have hlong : unsigned d = (false, d) := if_neg (by rwa [hd.peek? hfirst, ← hfirst])
    rw [hlong]
    exact ⟨rfl, .refl c d⟩

/-- The same numeral, wherever the digits of its exponent start. -/
structure Numeral.Same (n n' : Numeral) : Prop where
  negative : n'.negative = n.negative
  whole : n'.whole = n.whole
  fraction : n'.fraction = n.fraction
  exponent : SameExponent n.exponent n'.exponent

theorem numeral_longer (hys : Stops ys) (hd : Longer ys c d) {atEnd : SyntaxFault} (atEnd' : SyntaxFault)
    {n : Numeral}
    (h : numeral atEnd c = .ok (n, c')) :
    c'.left < c.left ∧ ∃ d' n', numeral atEnd' d = .ok (n', d') ∧ Numeral.Same n n' ∧
      Together c c' d d' := by
  obtain ⟨c₁, c₂, h₁, h₂, h₃, hsign⟩ := numeral_eq_ok.mp h
  obtain ⟨first, hfirst, -⟩ := wholePart_eq_ok.mp h₁
  obtain ⟨hnegative, hunsigned⟩ := unsigned_longer hd hfirst
  have hd₀ := hunsigned.longer hd
  obtain ⟨hleft, d₁, hwhole, htogether₁⟩ := wholePart_longer hys hd₀ atEnd' h₁
  have hd₁ := htogether₁.longer hd₀
  obtain ⟨d₂, hfraction, htogether₂⟩ := fractionPart_longer hys hd₁ atEnd' h₂
  have hd₂ := htogether₂.longer hd₁
  obtain ⟨d₃, e, hexponent, hsame, htogether₃⟩ := exponentPart_longer hys hd₂ atEnd' h₃
  have hrest := htogether₂.trans htogether₃
  refine ⟨?_, d₃, ⟨n.negative, n.whole, n.fraction, e⟩, ?_, ⟨rfl, rfl, rfl, hsame⟩,
    hunsigned.trans (htogether₁.trans hrest)⟩
  · have := hunsigned.beyond.left
    have := hrest.beyond.left
    omega
  · exact numeral_eq_ok.mpr ⟨d₁, d₂, hwhole, hfraction, hexponent, hnegative.trans hsign⟩

/-- The value of a numeral is the same wherever it stands. -/
theorem floatValue_same {n n' : Numeral} {x : Number} (hsame : Numeral.Same n n')
    (h : floatValue n c = .ok (x, c')) : c' = c ∧ floatValue n' d = .ok (x, d) := by
  obtain ⟨negative, whole, fraction, e⟩ := n
  obtain ⟨negative', whole', fraction', e'⟩ := n'
  obtain ⟨hnegative, hwhole, hfraction, hexponent⟩ := hsame
  obtain rfl : negative' = negative := hnegative
  obtain rfl : whole' = whole := hwhole
  obtain rfl : fraction' = fraction := hfraction
  rw [floatValue] at h ⊢
  dsimp only at h ⊢
  cases e with
  | none =>
    cases e' with
    | some e' => cases hexponent
    | none =>
      dsimp only at h ⊢
      split at h
      · obtain ⟨rfl, rfl⟩ := Prod.mk.inj (Except.ok.inj h)
        exact ⟨rfl, rfl⟩
      · cases h
  | some e =>
    cases e' with
    | none => cases hexponent
    | some e' =>
      obtain ⟨sign, ds, start⟩ := e
      obtain ⟨sign', ds', start'⟩ := e'
      obtain ⟨rfl, rfl⟩ := Prod.mk.inj (Option.some.inj hexponent)
      dsimp only at h ⊢
      split at h
      · split at h
        · obtain ⟨rfl, rfl⟩ := Prod.mk.inj (Except.ok.inj h)
          exact ⟨rfl, rfl⟩
        · cases h
      · split at h
        · cases h
        · next hrange =>
          obtain ⟨rfl, rfl⟩ := Prod.mk.inj (Except.ok.inj h)
          exact ⟨rfl, if_neg hrange⟩

theorem number_longer (hys : Stops ys) (hd : Longer ys c d) {n : Number} (h : number c = .ok (n, c')) :
    c'.left < c.left ∧ ∃ d', number d = .ok (n, d') ∧ passNumber d = .ok ((), d') ∧
      Together c c' d d' := by
  obtain ⟨⟨parts, c₁⟩, h₁, h⟩ := bind_eq_ok.mp h
  obtain ⟨hleft, d₁, parts', hparts, hsame, htogether⟩ := numeral_longer hys hd .endInValue h₁
  have hexponent : parts'.exponent.isSome = parts.exponent.isSome := by
    have := congrArg Option.isSome hsame.exponent
    rwa [Option.isSome_map, Option.isSome_map, eq_comm] at this
  suffices hvalue : c' = c₁ ∧ number d = .ok (n, d₁) by
    obtain ⟨rfl, hvalue⟩ := hvalue
    obtain ⟨-, d₂, _, hpass, -, hother⟩ := numeral_longer hys hd .invalidNumber h₁
    obtain rfl : d₂ = d₁ := hother.skip_eq.2.trans htogether.skip_eq.2.symm
    exact ⟨hleft, d₂, hvalue, bind_eq_ok.mpr ⟨_, hpass, rfl⟩, htogether⟩
  dsimp only at h
  split at h
  · next hfloat =>
    obtain ⟨rfl, hvalue⟩ := floatValue_same (d := d₁) hsame h
    refine ⟨rfl, bind_eq_ok.mpr ⟨_, hparts, ?_⟩⟩
    dsimp only
    rw [hsame.whole, hsame.fraction, hexponent, if_pos hfloat, hvalue]
  · next hinteger =>
    split at h
    · next hsign =>
      obtain ⟨rfl, rfl⟩ := Prod.mk.inj (Except.ok.inj h)
      refine ⟨rfl, bind_eq_ok.mpr ⟨_, hparts, ?_⟩⟩
      dsimp only
      rw [hsame.whole, hsame.fraction, hexponent, if_neg hinteger, hsame.negative, if_pos hsign]
      rfl
    · next hsign =>
      split at h
      · next hrange =>
        obtain ⟨rfl, rfl⟩ := Prod.mk.inj (Except.ok.inj h)
        refine ⟨rfl, bind_eq_ok.mpr ⟨_, hparts, ?_⟩⟩
        dsimp only
        rw [hsame.whole, hsame.fraction, hexponent, if_neg hinteger, hsame.negative, if_neg hsign,
          if_pos hrange]
        rfl
      · next hrange =>
        obtain ⟨rfl, hvalue⟩ := floatValue_same (d := d₁) hsame h
        refine ⟨rfl, bind_eq_ok.mpr ⟨_, hparts, ?_⟩⟩
        dsimp only
        rw [hsame.whole, hsame.fraction, hexponent, if_neg hinteger, hsame.negative, if_neg hsign,
          if_neg hrange, hvalue]

/-- A number starts with its sign or with a digit. -/
theorem number_first {n : Number} (h : number c = .ok (n, c')) :
    ∃ ch, c.peek? = some ch ∧ (ch = '-' ∨ ch.isDigit = true) := by
  obtain ⟨⟨parts, c₁⟩, h₁, -⟩ := bind_eq_ok.mp h
  obtain ⟨c₂, c₃, hwhole, -⟩ := numeral_eq_ok.mp h₁
  by_cases hminus : c.peek? = some '-'
  · exact ⟨'-', hminus, .inl rfl⟩
  · have hunsigned : unsigned c = (false, c) := if_neg hminus
    rw [hunsigned] at hwhole
    obtain ⟨ch, hpeek, ⟨rfl, -⟩ | ⟨-, hdigit, -⟩⟩ := wholePart_eq_ok.mp hwhole
    · exact ⟨'0', hpeek, .inr (by decide)⟩
    · exact ⟨ch, hpeek, .inr hdigit⟩

theorem longer_nil (hd : d.rest = c.rest) : Longer [] c d := by rw [Longer, hd, List.append_nil]

theorem local_number : Local number := by
  intro c n c' h
  have hnumber {d : Cursor} (hd : d.rest = c.rest) :
      c' = c.skip (c.left - c'.left) ∧ number d = .ok (n, d.skip (c.left - c'.left)) := by
    obtain ⟨-, d', hd', -, htogether⟩ := number_longer stops_nil (longer_nil hd) h
    obtain ⟨hc', rfl⟩ := htogether.skip_eq
    exact ⟨hc', hd'⟩
  exact ⟨c.left - c'.left, (hnumber rfl).1, fun d hd => (hnumber hd).2⟩

theorem passNumber_of_number {n : Number} (h : number c = .ok (n, c')) : passNumber c = .ok ((), c') := by
  obtain ⟨-, d', -, hpass, htogether⟩ := number_longer stops_nil (longer_nil (c := c) rfl) h
  rwa [htogether.skip_eq.1, ← htogether.skip_eq.2]

end WorkflowCanvas.Scan
