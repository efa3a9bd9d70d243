import Mathlib.Algebra.Group.Int.Defs
import Mathlib.Data.List.TakeWhile
import WorkflowCanvas.Proofs.Json.Spelling

/-! The text of a value on one line spells the value, where every number in it reads back from its own text
and no bracket stands too deep. Integers read back, and strings do. -/
namespace WorkflowCanvas
open Scan

/-! ### Numbers -/

/-- The number is read from its text. -/
def Number.Legible (n : Number) : Prop :=
  ∃ c, Scan.number (Cursor.start n.text) = .ok (n, c) ∧ c.rest = []

/-- The number is read from its text wherever that stands. -/
theorem Number.Legible.number {n : Number} (h : n.Legible) {ys : List Char} (hys : Stops ys) {c : Cursor}
    (hc : c.rest = n.text.toList ++ ys) : ∃ c', Scan.number c = .ok (n, c') ∧ c'.rest = ys := by
  obtain ⟨d, hd, hrest⟩ := h
  have hlonger : Longer ys (Cursor.start n.text) c := hc
  obtain ⟨-, c', hc', -, htogether⟩ := number_longer hys hlonger hd
  refine ⟨c', hc', ?_⟩
  have := htogether.longer hlonger
  rwa [Longer, hrest, List.nil_append] at this

/-- The digits of a number start with a zero only if it is zero. -/
theorem toDigits_head {n : Nat} (hn : 0 < n) : ∃ d ds, Nat.toDigits 10 n = d :: ds ∧ d ≠ '0' := by
  induction n using Nat.strongRecOn with
  | ind n ih =>
    by_cases hlt : n < 10
    · have hdigit : ∀ n < 10, 0 < n → n.digitChar ≠ '0' := by decide
      exact ⟨_, [], Nat.toDigits_of_lt_base hlt, hdigit n hlt hn⟩
    · obtain ⟨d, ds, hds, hd⟩ := ih (n / 10) (by omega) (by omega)
      rw [Nat.toDigits_of_base_le (by decide) (by omega), hds]
      exact ⟨d, _, rfl, hd⟩

def digitValues (ds : List Char) : List Nat := ds.map fun ch => ch.toNat - '0'.toNat

theorem le_ofDigitChars (ds : List Char) (n : Nat) : n ≤ Nat.ofDigitChars 10 ds n := by
  rw [Nat.ofDigitChars_eq_ofDigitChars_zero]
  have := Nat.le_mul_of_pos_left n (Nat.pow_pos (n := ds.length) (show 0 < 10 by decide))
  omega

theorem absorb_digitValues {ds : List Char} {n : Nat} (h : Nat.ofDigitChars 10 ds n ≤ maxSignificand) :
    absorb n (digitValues ds) = (Nat.ofDigitChars 10 ds n, []) := by
  induction ds generalizing n with
  | nil => rfl
  | cons d ds ih =>
    rw [Nat.ofDigitChars_cons] at h ⊢
    rw [digitValues, List.map_cons, absorb, Nat.mul_comm n, if_pos]
    · exact ih h
    · exact Nat.le_trans (le_ofDigitChars ds _) h

theorem wholePart_toDigits (atEnd : SyntaxFault) {n : Nat} {c : Cursor} (hc : c.rest = Nat.toDigits 10 n) :
    ∃ c', wholePart atEnd c = .ok (digitValues (Nat.toDigits 10 n), c') ∧ c'.rest = [] := by
  obtain rfl | hn := Nat.eq_zero_or_pos n
  · refine ⟨c.next, wholePart_eq_ok.mpr ⟨'0', Cursor.peek?_of_rest hc, .inl ⟨rfl, ?_, rfl, rfl⟩⟩, ?_⟩
    · rw [Cursor.peek?, Cursor.rest_next, hc]
      rintro _ ⟨⟩
    · exact Cursor.next_of_rest hc
  · obtain ⟨d, ds, hds, hd⟩ := toDigits_head hn
    have hdigits : ∀ ch ∈ Nat.toDigits 10 n, ch.isDigit = true := fun ch hch =>
      Nat.isDigit_of_mem_toDigits (by decide) (by decide) hch
    have htake : c.rest.takeWhile Char.isDigit = Nat.toDigits 10 n := by
      rw [hc, List.takeWhile_eq_self_iff]
      exact hdigits
    refine ⟨c.digits.2, wholePart_eq_ok.mpr ⟨d, by rw [Cursor.peek?, hc, hds]; rfl,
      .inr ⟨hd, hdigits d (hds ▸ List.mem_cons_self), ?_⟩⟩, ?_⟩
    · rw [Cursor.digits, htake]
      rfl
    · rw [Cursor.digits, htake, Cursor.rest_skip, hc, List.drop_length]

/-- Digits with or without a sign are a numeral without fraction and exponent. -/
theorem numeral_toDigits (atEnd : SyntaxFault) {n : Nat} {c : Cursor}
    (hc : (unsigned c).2.rest = Nat.toDigits 10 n) :
    ∃ c', numeral atEnd c =
      .ok (⟨(unsigned c).1, digitValues (Nat.toDigits 10 n), none, none⟩, c') ∧ c'.rest = [] := by
  obtain ⟨c', hwhole, hend⟩ := wholePart_toDigits atEnd hc
  have hpeek : c'.peek? = none := by rw [Cursor.peek?, hend]; rfl
  refine ⟨c', numeral_eq_ok.mpr ⟨c', c', hwhole, fractionPart_eq_ok.mpr (.inl ⟨?_, rfl, rfl⟩),
    exponentPart_eq_ok.mpr (.inl ⟨?_, rfl, rfl⟩), rfl⟩, hend⟩
  · rw [hpeek]
    rintro ⟨⟩
  · rw [hpeek]
    rintro _ ⟨⟩

theorem Number.legible_int {i : Int} (hlow : -2 ^ 63 ≤ i) (hhigh : i < 2 ^ 64) :
    (Number.int i).Legible := by
  unfold Number.Legible
  have hmax : maxSignificand = 18446744073709551615 := rfl
  have habsorb {n : Nat} (hn : n ≤ maxSignificand) :
      absorb 0 (digitValues (Nat.toDigits 10 n)) = (n, []) := by
    rw [absorb_digitValues] <;> rw [Nat.ofDigitChars_ten_toDigits]
    exact hn
  cases i with
  | ofNat n =>
    have hrest : (Cursor.start (Number.int (.ofNat n)).text).rest = Nat.toDigits 10 n := Nat.toList_repr
    generalize Cursor.start (Number.int (.ofNat n)).text = c at hrest ⊢
    have hsign : c.peek? ≠ some '-' := by
      intro hpeek
      have hmem : '-' ∈ Nat.toDigits 10 n := hrest ▸ List.mem_of_mem_head? hpeek
      exact absurd (Nat.isDigit_of_mem_toDigits (by decide) (by decide) hmem) (by decide)
    have hunsigned : unsigned c = (false, c) := if_neg hsign
    obtain ⟨c', hnumeral, hend⟩ := numeral_toDigits .endInValue (c := c) (by rw [hunsigned, hrest])
    refine ⟨c', bind_eq_ok.mpr ⟨_, hnumeral, ?_⟩, hend⟩
    have hn : n ≤ maxSignificand := by
      have hhigh : (n : Int) < 2 ^ 64 := hhigh
      omega
    rw [hunsigned]
    dsimp only
    rw [habsorb hn]
    rfl
  | negSucc n =>
    have hrest : (Cursor.start (Number.int (.negSucc n)).text).rest = '-' :: Nat.toDigits 10 (n + 1) := by
      show ("-" ++ (n + 1).repr).toList = _
      rw [String.toList_append, Nat.toList_repr]
      rfl
    generalize Cursor.start (Number.int (.negSucc n)).text = c at hrest ⊢
    have hunsigned : unsigned c = (true, c.next) := if_pos (Cursor.peek?_of_rest hrest)
    obtain ⟨c', hnumeral, hend⟩ := numeral_toDigits .endInValue (c := c) (n := n + 1)
      (by rw [hunsigned, Cursor.rest_next, hrest]; rfl)
    refine ⟨c', bind_eq_ok.mpr ⟨_, hnumeral, ?_⟩, hend⟩
    rw [hunsigned]
    dsimp only
    rw [habsorb (show n + 1 ≤ maxSignificand by omega)]
    have hrange : n + 1 ≠ 0 ∧ n + 1 ≤ Nat.pow 2 63 :=
      ⟨n.succ_ne_zero, show n + 1 ≤ 9223372036854775808 by omega⟩
    show (if n + 1 ≠ 0 ∧ n + 1 ≤ Nat.pow 2 63 then Except.ok (Number.int (.negSucc n), c') else _) = _
    rw [if_pos hrange]

/-! ### Strings -/

/-- The escape of a character, from behind its backslash. -/
def Escapes (ch : Char) (es : List Char) : Prop :=
  ∀ (c : Cursor) ys, c.rest = es ++ ys → ∃ c', escape c = .ok (ch, c') ∧ c'.rest = ys

theorem escapes_short {ch e : Char} (h : shortEscape? e = some ch) : Escapes ch [e] := by
  intro c ys hc
  have hpeek : c.peek? = some e := Cursor.peek?_of_rest hc
  refine ⟨c.next, escape_short hpeek h, ?_⟩
  rw [Cursor.rest_next, hc]
  rfl

/-- The code unit of a control character. -/
theorem hexNumber?_control : ∀ n < 32, (String.ofList
      ['0', '0', Json.hexDigit (n / 16), Json.hexDigit (n % 16)]).utf8ByteSize = 4 ∧
    hexNumber? ['0', '0', Json.hexDigit (n / 16), Json.hexDigit (n % 16)] = some n ∧
    isLowSurrogate n = false ∧ isHighSurrogate n = false := by decide

theorem escapes_control {ch : Char} (h : ch.toNat < 32) :
    Escapes ch ['u', '0', '0', Json.hexDigit (ch.toNat / 16), Json.hexDigit (ch.toNat % 16)] := by
  intro c ys hc
  obtain ⟨hsize, hvalue, hlow, hhigh⟩ := hexNumber?_control _ h
  have htake : c.next.rest.take 4 =
      ['0', '0', Json.hexDigit (ch.toNat / 16), Json.hexDigit (ch.toNat % 16)] := by
    rw [Cursor.next_of_rest hc]
    rfl
  have hunit : codeUnit c.next = .ok (ch.toNat, c.next.skip 4) := by
    rw [codeUnit, htake, hsize, hvalue]
    rfl
  refine ⟨c.next.skip 4, ?_, ?_⟩
  · rw [escape_unicode (Cursor.peek?_of_rest hc)]
    exact unicodeEscape_eq_ok.mpr ⟨_, _, hunit, hlow, .inl ⟨hhigh, Char.ofNat_toNat ch, rfl⟩⟩
  · rw [Cursor.rest_skip, Cursor.rest_next, hc]
    rfl

/-- The characters with an escape of their own, each behind the letter that stands for it. -/
def shortEscapes : List (Char × Char) :=
  [('"', '"'), ('\\', '\\'), ('n', '\n'), ('r', '\r'), ('t', '\t'), ('b', '\x08'), ('f', '\x0c')]

theorem escapeChar_short : ∀ m ∈ shortEscapes,
    Json.escapeChar m.2 = ['\\', m.1] ∧ shortEscape? m.1 = some m.2 := by
  decide

/-- A character stands for itself inside quotes, or is escaped. -/
theorem escapeChar_cases (ch : Char) : Plain ch ∧ Json.escapeChar ch = [ch] ∨
    ∃ es, Json.escapeChar ch = '\\' :: es ∧ Escapes ch es := by
  by_cases hshort : ch ∈ shortEscapes.map (·.2)
  · obtain ⟨⟨e, ch⟩, hmem, rfl⟩ := List.mem_map.mp hshort
    obtain ⟨htext, hread⟩ := escapeChar_short _ hmem
    exact .inr ⟨[e], htext, escapes_short hread⟩
  · simp only [shortEscapes, List.map_cons, List.map_nil, List.mem_cons, List.not_mem_nil, or_false,
      not_or] at hshort
    obtain ⟨hquote, hslash, hn, hr, ht, hb, hf⟩ := hshort
    rw [Json.escapeChar, if_neg hquote, if_neg hslash, if_neg hn, if_neg hr, if_neg ht, if_neg hb, if_neg hf]
    by_cases hlow : ch.toNat < 32
    · rw [if_pos hlow]
      exact .inr ⟨_, rfl, escapes_control hlow⟩
    · rw [if_neg hlow]
      exact .inl ⟨⟨hquote, hslash, hlow⟩, rfl⟩

theorem quotedChars_escapeChar {chs ys : List Char} {c : Cursor}
    (hc : c.rest = chs.flatMap Json.escapeChar ++ '"' :: ys) (fuel : Nat) (hfuel : chs.length < fuel) :
    ∃ c', quotedChars fuel c = .ok (chs, c') ∧ c'.rest = ys := by
  induction chs generalizing c fuel with
  | nil =>
    obtain ⟨fuel, rfl⟩ : ∃ k, fuel = k + 1 := ⟨fuel - 1, by omega⟩
    refine ⟨c.next, quotedChars_end (Cursor.peek?_of_rest hc), ?_⟩
    exact Cursor.next_of_rest hc
  | cons ch chs ih =>
    obtain ⟨fuel, rfl⟩ : ∃ k, fuel = k + 1 := ⟨fuel - 1, by omega⟩
    simp only [List.length_cons] at hfuel
    rw [List.flatMap_cons, List.append_assoc] at hc
    obtain ⟨hplain, hch⟩ | ⟨es, hch, hescape⟩ := escapeChar_cases ch
    · rw [hch] at hc
      have hpeek : c.peek? = some ch := Cursor.peek?_of_rest hc
      obtain ⟨c', hrest, hend⟩ := ih (c := c.next) (Cursor.next_of_rest hc) fuel (by omega)
      exact ⟨c', by rw [quotedChars_plain hpeek hplain, hrest]; rfl, hend⟩
    · rw [hch] at hc
      have hpeek : c.peek? = some '\\' := Cursor.peek?_of_rest hc
      obtain ⟨c₁, hfirst, hmiddle⟩ := hescape c.next _ (Cursor.next_of_rest hc)
      obtain ⟨c', hrest, hend⟩ := ih hmiddle fuel (by omega)
      refine ⟨c', ?_, hend⟩
      rw [quotedChars_escape hpeek, hfirst]
      show (quotedChars fuel c₁).map _ = _
      rw [hrest]
      rfl

theorem length_le_flatMap_escapeChar (chs : List Char) :
    chs.length ≤ (chs.flatMap Json.escapeChar).length := by
  induction chs with
  | nil => exact Nat.le_refl _
  | cons ch chs ih =>
    have hch : 1 ≤ (Json.escapeChar ch).length := by
      obtain ⟨-, hch⟩ | ⟨es, hch, -⟩ := escapeChar_cases ch <;> simp [hch]
    rw [List.flatMap_cons, List.length_append, List.length_cons]
    omega

theorem toList_quoted (s : String) :
    (Json.quoted s).toList = '"' :: (s.toList.flatMap Json.escapeChar ++ ['"']) := by
  simp [Json.quoted]

/-- A quoted text is read from behind its quote. -/
theorem quoted_text {s : String} {ys : List Char} {c : Cursor}
    (hc : c.rest = (Json.quoted s).toList ++ ys) :
    c.peek? = some '"' ∧ ∃ c', quoted c.next = .ok (s, c') ∧ c'.rest = ys := by
  rw [toList_quoted, List.cons_append, List.append_assoc] at hc
  have hnext : c.next.rest = s.toList.flatMap Json.escapeChar ++ '"' :: ys := by
    exact Cursor.next_of_rest hc
  refine ⟨Cursor.peek?_of_rest hc, ?_⟩
  have hlength := length_le_flatMap_escapeChar s.toList
  obtain ⟨c', hchs, hend⟩ := quotedChars_escapeChar hnext (c.next.rest.length + 1)
    (by rw [hnext, List.length_append]; omega)
  refine ⟨c', bind_eq_ok.mpr ⟨_, hchs, ?_⟩, hend⟩
  exact congrArg (fun s => Except.ok (s, c')) String.ofList_toList

/-! ### Values -/

/-- Every number in a value can be read from its text, and brackets nest at most so deep. -/
inductive Json.Legible : Nat → Json → Prop
  | null {room : Nat} : Legible room .null
  | bool {room : Nat} (b : Bool) : Legible room (.bool b)
  | num {room : Nat} {n : Number} (h : n.Legible) : Legible room (.num n)
  | str {room : Nat} (s : String) : Legible room (.str s)
  | arr {room : Nat} {items : List Json} (hitems : ∀ j ∈ items, Legible room j) :
    Legible (room + 1) (.arr items)
  | obj {room : Nat} {members : List (String × Json)} (hmembers : ∀ m ∈ members, Legible room m.2) :
    Legible (room + 1) (.obj members)

namespace Json
variable {room : Nat} {items : List Json} {members : List (String × Json)}

@[simp] theorem legible_str (s : String) : (Json.str s).Legible room := .str s

@[simp] theorem legible_int {i : Int} (hlow : -2 ^ 63 ≤ i) (hhigh : i < 2 ^ 64) :
    (Json.int i).Legible room :=
  .num (Number.legible_int hlow hhigh)

@[simp] theorem legible_arr_iff : (Json.arr items).Legible (room + 1) ↔ ∀ j ∈ items, j.Legible room :=
  ⟨by rintro ⟨⟩; assumption, .arr⟩

@[simp] theorem legible_obj_iff :
    (Json.obj members).Legible (room + 1) ↔ ∀ m ∈ members, m.2.Legible room :=
  ⟨by rintro ⟨⟩; assumption, .obj⟩

end Json

/-- Texts with a comma before each of them, but not before the first one of all. -/
def commas : Bool → List String → List Char
  | _, [] => []
  | first, text :: texts => (if first then [] else [',']) ++ (text.toList ++ commas false texts)

theorem toList_intercalate (texts : List String) : (",".intercalate texts).toList = commas true texts := by
  induction texts with
  | nil => simp [commas]
  | cons text texts ih =>
    cases texts with
    | nil => simp [commas]
    | cons next texts =>
      rw [String.intercalate_cons_cons, String.toList_append, String.toList_append, ih]
      simp [commas]

theorem Json.toList_compact_arr (items : List Json) :
    (Json.arr items).compact.toList = '[' :: (commas true (compactItems items) ++ [']']) := by
  rw [compact, String.toList_append, String.toList_append, toList_intercalate]
  rfl

theorem Json.toList_compact_obj (members : List (String × Json)) :
    (Json.obj members).compact.toList = '{' :: (commas true (compactMembers members) ++ ['}']) := by
  rw [compact, String.toList_append, String.toList_append, toList_intercalate]
  rfl

namespace Scan
variable {c : Cursor} {ch : Char} {j : Json} {rest ys : List Char}

theorem Begins.ne (h : Begins ch j) : Cursor.isBlank ch = false ∧ ch ≠ ']' := by
  have hmem : ch ∉ [' ', '\n', '\t', '\r', ']'] := by
    intro hmem
    unfold Begins at h
    split at h
    case h_4 =>
      simp only [List.mem_cons, List.not_mem_nil, or_false] at hmem
      obtain rfl | rfl | rfl | rfl | rfl := hmem <;> exact absurd h (by decide)
    all_goals
      subst h
      exact absurd hmem (by decide)
  simp only [List.mem_cons, List.not_mem_nil, or_false, not_or] at hmem
  exact ⟨by simp [Cursor.isBlank, hmem], hmem.2.2.2.2⟩

/-- The comma before an item is passed over. -/
theorem nextItem_text {first : Bool} (ch : Char) (hc : c.rest = (if first then [] else [',']) ++ ch :: rest)
    (hch : Cursor.isBlank ch = false ∧ ch ≠ ']') :
    ∃ c₁, nextItem first c = .ok (true, c₁) ∧ c₁.rest = ch :: rest := by
  obtain ⟨hblank, hclose⟩ := hch
  have hchar {d : Cursor} (hd : d.rest = ch :: rest) : d.peek? = some ch := Cursor.peek?_of_rest hd
  cases first with
  | true =>
    have hc : c.rest = ch :: rest := hc
    refine ⟨c, ?_, hc⟩
    rw [nextItem, Cursor.skipBlank_at (Cursor.peek?_of_rest hc) hblank]
    dsimp only
    split
    · next hnone => cases hnone.symm.trans (hchar hc)
    · next hfound => exact absurd (Option.some.inj ((hchar hc).symm.trans hfound)) hclose
    · rfl
  | false =>
    have hc : c.rest = ',' :: ch :: rest := hc
    have hcomma : c.peek? = some ',' := Cursor.peek?_of_rest hc
    have hnext : c.next.rest = ch :: rest := Cursor.next_of_rest hc
    refine ⟨c.next, ?_, hnext⟩
    rw [nextItem, Cursor.skipBlank_at (Cursor.peek?_of_rest hc) (by decide)]
    simp only [hcomma, Cursor.skipBlank_at (Cursor.peek?_of_rest hnext) hblank]
    split
    · next hnone => cases hnone
    · next hfound => exact absurd (Option.some.inj hfound) (by decide)
    · next hfound =>
      rw [if_neg Bool.false_ne_true, if_pos (Option.some.inj hfound).symm]
      split
      · next hnone => cases hnone.symm.trans (hchar hnext)
      · next hfound => exact absurd (Option.some.inj ((hchar hnext).symm.trans hfound)) hclose
      · rfl

/-- The comma before a key is passed over, and the key is read. -/
theorem nextKey_text {first : Bool} {key : String}
    (hc : c.rest = (if first then [] else [',']) ++ ((Json.quoted key).toList ++ ys)) :
    ∃ c₁, nextKey first c = .ok (some key, c₁) ∧ c₁.rest = ys := by
  have hkey (start : Cursor) (hstart : start.rest = (Json.quoted key).toList ++ ys) :
      start.skipBlank = start ∧ start.peek? = some '"' ∧
        ∃ c₁, nextKey.key start = .ok (some key, c₁) ∧ c₁.rest = ys := by
    obtain ⟨hpeek, c₁, hquoted, hrest⟩ := quoted_text hstart
    exact ⟨Cursor.skipBlank_at hpeek rfl, hpeek, c₁,
      bind_eq_ok.mpr ⟨_, hquoted, rfl⟩, hrest⟩
  cases first with
  | true =>
    rw [if_pos rfl, List.nil_append] at hc
    obtain ⟨hblank, hpeek, c₁, hread, hrest⟩ := hkey c hc
    refine ⟨c₁, ?_, hrest⟩
    rw [nextKey, hblank]
    simp only [hpeek]
    exact hread
  | false =>
    have hc : c.rest = ',' :: ((Json.quoted key).toList ++ ys) := hc
    have hcomma : c.peek? = some ',' := Cursor.peek?_of_rest hc
    obtain ⟨hblank, hpeek, c₁, hread, hrest⟩ := hkey c.next (Cursor.next_of_rest hc)
    refine ⟨c₁, ?_, hrest⟩
    rw [nextKey, Cursor.skipBlank_at (Cursor.peek?_of_rest hc) (by decide)]
    simp only [hcomma, hblank, hpeek]
    exact hread

theorem ident_text {chs : List Char} (hc : c.rest = chs ++ ys) :
    ∃ c', ident chs c = .ok ((), c') ∧ c'.rest = ys := by
  induction chs generalizing c with
  | nil => exact ⟨c, rfl, hc⟩
  | cons ch chs ih =>
    obtain ⟨c', hread, hrest⟩ := ih (c := c.next) (Cursor.next_of_rest hc)
    have hpeek : c.peek? = some ch := Cursor.peek?_of_rest hc
    refine ⟨c', ?_, hrest⟩
    simp only [ident, hpeek, if_true]
    exact hread

/-- A name is read from behind its first character. -/
theorem ident_word (chs : List Char) (hc : c.rest = ch :: (chs ++ ys)) (hch : Cursor.isBlank ch = false) :
    c.skipBlank = c ∧ c.peek? = some ch ∧ ∃ c', ident chs c.next = .ok ((), c') ∧ c'.rest = ys :=
  ⟨Cursor.skipBlank_at (Cursor.peek?_of_rest hc) hch, Cursor.peek?_of_rest hc,
    ident_text (Cursor.next_of_rest hc)⟩

theorem colon_text (hc : c.rest = ':' :: ys) : ∃ c', colon c = .ok ((), c') ∧ c'.rest = ys := by
  have hpeek : c.peek? = some ':' := Cursor.peek?_of_rest hc
  refine ⟨c.next, ?_, Cursor.next_of_rest hc⟩
  rw [colon, Cursor.skipBlank_at (Cursor.peek?_of_rest hc) (by decide)]
  simp only [hpeek]

theorem openBracket_text {room : Nat} (hc : c.rest = ch :: ys) (hroom : room + 1 ≤ c.room) :
    ∃ c₁, openBracket c = .ok c₁ ∧ c₁.rest = ys ∧ room ≤ c₁.room := by
  obtain ⟨room', hroom'⟩ : ∃ k, c.room = k + 1 := ⟨c.room - 1, by omega⟩
  refine ⟨{ c.next with room := room' }, ?_, ?_, ?_⟩
  · rw [openBracket]
    split
    · next hnone => cases hnone.symm.trans hroom'
    · next hfound => cases hfound.symm.trans hroom'; rfl
  · show c.next.rest = ys
    exact Cursor.next_of_rest hc
  · show room ≤ room'
    omega

/-- A value is spelled by its text, whatever the text goes on with. -/
def SpelledByCompact (room : Nat) (j : Json) : Prop :=
  ∀ {c : Cursor} {ys : List Char}, c.rest = j.compact.toList ++ ys → Stops ys → room ≤ c.room →
    ∃ c', Spells (.value j) c c' ∧ c'.rest = ys

theorem stops_commas {texts : List String} {ch : Char} (hch : ch = ']' ∨ ch = '}') :
    Stops (commas false texts ++ ch :: ys) := by
  cases texts with
  | nil => obtain rfl | rfl := hch <;> (rintro _ ⟨⟩; decide)
  | cons text texts => rintro _ ⟨⟩; decide

end Scan

open Scan

/-- The first character of a value's text. -/
theorem Json.Legible.begins {room : Nat} {j : Json} (h : j.Legible room) :
    ∃ ch rest, j.compact.toList = ch :: rest ∧ Begins ch j := by
  cases h with
  | null => exact ⟨'n', _, rfl, rfl⟩
  | bool b =>
    cases b
    · exact ⟨'f', _, rfl, rfl⟩
    · exact ⟨'t', _, rfl, rfl⟩
  | @num _ n h =>
    obtain ⟨c, hc, -⟩ := h
    obtain ⟨ch, hpeek, hch⟩ := number_first hc
    obtain ⟨rest, hrest⟩ := List.head?_eq_some_iff.mp hpeek
    exact ⟨ch, rest, hrest, hch⟩
  | str s => exact ⟨'"', _, toList_quoted s, rfl⟩
  | arr => exact ⟨'[', _, toList_compact_arr _, rfl⟩
  | obj => exact ⟨'{', _, toList_compact_obj _, rfl⟩

theorem spells_items {room : Nat} {items : List Json} (hlegible : ∀ j ∈ items, j.Legible room)
    (hitems : ∀ j ∈ items, SpelledByCompact room j) {first : Bool} {c : Cursor} {ys : List Char}
    (hc : c.rest = commas first (Json.compactItems items) ++ ']' :: ys) (hroom : room ≤ c.room) :
    ∃ c', Spells (.items first items) c c' ∧ c'.rest = ']' :: ys := by
  induction items generalizing first c with
  | nil =>
    have hc : c.rest = ']' :: ys := hc
    have hpeek : c.peek? = some ']' := Cursor.peek?_of_rest hc
    refine ⟨c, .itemsEnd ?_, hc⟩
    rw [nextItem, Cursor.skipBlank_at (Cursor.peek?_of_rest hc) (by decide)]
    simp only [hpeek]
  | cons j items ih =>
    obtain ⟨hj, htail⟩ := List.forall_mem_cons.mp hitems
    obtain ⟨hbegins, hrest⟩ := List.forall_mem_cons.mp hlegible
    obtain ⟨ch, text, htext, hch⟩ := hbegins.begins
    rw [Json.compactItems, commas, List.append_assoc, List.append_assoc] at hc
    obtain ⟨c₁, hnext, hc₁⟩ := nextItem_text ch (by rw [hc, htext]; rfl) hch.ne
    have hroom₁ : room ≤ c₁.room := (beyond_nextItem hnext).room ▸ hroom
    obtain ⟨c₂, hvalue, hc₂⟩ := hj (hc₁.trans (by rw [htext]; rfl)) (stops_commas (.inl rfl)) hroom₁
    obtain ⟨c₃, hspells, hc₃⟩ := ih hrest htail hc₂ (hvalue.beyond.1.room ▸ hroom₁)
    exact ⟨c₃, .item hnext hvalue hspells, hc₃⟩

theorem spells_members {room : Nat} {members : List (String × Json)}
    (hmembers : ∀ m ∈ members, SpelledByCompact room m.2) {first : Bool} {c : Cursor} {ys : List Char}
    (hc : c.rest = commas first (Json.compactMembers members) ++ '}' :: ys) (hroom : room ≤ c.room) :
    ∃ c', Spells (.members first members) c c' ∧ c'.rest = '}' :: ys := by
  induction members generalizing first c with
  | nil =>
    have hc : c.rest = '}' :: ys := hc
    have hpeek : c.peek? = some '}' := Cursor.peek?_of_rest hc
    refine ⟨c, .membersEnd ?_, hc⟩
    rw [nextKey, Cursor.skipBlank_at (Cursor.peek?_of_rest hc) (by decide)]
    simp only [hpeek]
  | cons m members ih =>
    obtain ⟨key, j⟩ := m
    obtain ⟨hj, hrest⟩ := List.forall_mem_cons.mp hmembers
    have hsplit : (Json.quoted key ++ ":" ++ j.compact).toList =
        (Json.quoted key).toList ++ ':' :: j.compact.toList := by
      rw [String.toList_append, String.toList_append, List.append_assoc]
      rfl
    rw [Json.compactMembers, commas, hsplit, List.append_assoc, List.append_assoc, List.append_assoc] at hc
    obtain ⟨c₁, hnext, hc₁⟩ := nextKey_text hc
    obtain ⟨c₂, hcolon, hc₂⟩ := colon_text hc₁
    have hroom₂ : room ≤ c₂.room := ((beyond_nextKey hnext).trans (beyond_colon hcolon)).room ▸ hroom
    obtain ⟨c₃, hvalue, hc₃⟩ := hj hc₂ (stops_commas (.inr rfl)) hroom₂
    obtain ⟨c₄, hspells, hc₄⟩ := ih hrest hc₃ (hvalue.beyond.1.room ▸ hroom₂)
    exact ⟨c₄, .member hnext hcolon hvalue hspells, hc₄⟩

theorem Json.Legible.spells {room : Nat} {j : Json} (h : j.Legible room) : SpelledByCompact room j := by
  induction h with
  | null =>
    intro c ys hc _ _
    obtain ⟨hblank, hpeek, c', hread, hrest⟩ := ident_word ['u', 'l', 'l'] hc (by decide)
    exact ⟨c', .word (hblank.symm ▸ .null hpeek hread), hrest⟩
  | bool b =>
    intro c ys hc _ _
    cases b with
    | true =>
      obtain ⟨hblank, hpeek, c', hread, hrest⟩ := ident_word ['r', 'u', 'e'] hc (by decide)
      exact ⟨c', .word (hblank.symm ▸ .yes hpeek hread), hrest⟩
    | false =>
      obtain ⟨hblank, hpeek, c', hread, hrest⟩ := ident_word ['a', 'l', 's', 'e'] hc (by decide)
      exact ⟨c', .word (hblank.symm ▸ .no hpeek hread), hrest⟩
  | @num _ n h =>
    intro c ys hc hys _
    obtain ⟨c', hread, hrest⟩ := h.number hys hc
    obtain ⟨ch, hpeek, hch⟩ := number_first hread
    have hbegins : Begins ch (.num n) := hch
    have hblank : c.skipBlank = c := Cursor.skipBlank_at hpeek hbegins.ne.1
    exact ⟨c', .word (hblank.symm ▸ .num hpeek hch hread), hrest⟩
  | str s =>
    intro c ys hc _ _
    obtain ⟨hpeek, c', hread, hrest⟩ := quoted_text hc
    have hblank : c.skipBlank = c := Cursor.skipBlank_at hpeek rfl
    exact ⟨c', .word (hblank.symm ▸ .str hpeek hread), hrest⟩
  | @arr room items hlegible ih =>
    intro c ys hc _ hroom
    rw [toList_compact_arr, List.cons_append, List.append_assoc] at hc
    obtain ⟨c₁, hopen, hc₁, hroom₁⟩ := openBracket_text hc hroom
    obtain ⟨c₂, hitems, hc₂⟩ := spells_items hlegible ih hc₁ hroom₁
    have hblank := Cursor.skipBlank_at (Cursor.peek?_of_rest hc) (by decide)
    refine ⟨closeBracket c₂, .arr ?_ (hblank.symm ▸ hopen) hitems, ?_⟩
    · rw [hblank, Cursor.peek?, hc]
      rfl
    · show c₂.next.rest = ys
      exact Cursor.next_of_rest hc₂
  | @obj room members hlegible ih =>
    intro c ys hc _ hroom
    rw [toList_compact_obj, List.cons_append, List.append_assoc] at hc
    obtain ⟨c₁, hopen, hc₁, hroom₁⟩ := openBracket_text hc hroom
    obtain ⟨c₂, hmembers, hc₂⟩ := spells_members ih hc₁ hroom₁
    have hblank := Cursor.skipBlank_at (Cursor.peek?_of_rest hc) (by decide)
    refine ⟨closeBracket c₂, .obj ?_ (hblank.symm ▸ hopen) hmembers, ?_⟩
    · rw [hblank, Cursor.peek?, hc]
      rfl
    · show c₂.next.rest = ys
      exact Cursor.next_of_rest hc₂

/-- The text of a value on one line spells the value. -/
theorem Json.Legible.spelled {j : Json} (h : j.Legible Cursor.maxDepth) : Json.Spelled j.compact j := by
  obtain ⟨c, hspells, hend⟩ := h.spells (c := Cursor.start j.compact) (List.append_nil _).symm stops_nil
    (Nat.le_refl _)
  refine ⟨c, hspells, ?_⟩
  rw [Cursor.skipBlank_of_peek? (by rw [Cursor.peek?, hend]; rintro _ ⟨⟩), hend]

end WorkflowCanvas
