import WorkflowCanvas.Proofs.Json.Numeral

/-! How a JSON text spells a value. The grammar follows the reading step by step, but needs no fuel, and
its values have their members in the order of the text, each as often as it stands there. -/
namespace WorkflowCanvas

/-- What stands at a place of a text: a value, or what is left of a list or of an object. -/
inductive Piece where
  | value (j : Json)
  | items (first : Bool) (items : List Json)
  | members (first : Bool) (members : List (String × Json))

/-- How many characters a piece has at least. -/
def Piece.least : Piece → Nat
  | .value _ => 1
  | .items .. | .members .. => 0

namespace Scan
variable {c c' c₁ : Cursor} {j : Json} {first : Bool}

/-- A value without brackets, from its first character on. -/
inductive Word (c : Cursor) : Json → Cursor → Prop
  | null {c' : Cursor} (hpeek : c.peek? = some 'n')
      (h : ident ['u', 'l', 'l'] c.next = .ok ((), c')) : Word c .null c'
  | yes {c' : Cursor} (hpeek : c.peek? = some 't')
      (h : ident ['r', 'u', 'e'] c.next = .ok ((), c')) : Word c (.bool true) c'
  | no {c' : Cursor} (hpeek : c.peek? = some 'f')
      (h : ident ['a', 'l', 's', 'e'] c.next = .ok ((), c')) : Word c (.bool false) c'
  | str {s : String} {c' : Cursor} (hpeek : c.peek? = some '"') (h : quoted c.next = .ok (s, c')) :
      Word c (.str s) c'
  | num {ch : Char} {n : Number} {c' : Cursor} (hpeek : c.peek? = some ch)
      (hch : ch = '-' ∨ ch.isDigit = true) (h : number c = .ok (n, c')) : Word c (.num n) c'

/-- A piece as it is spelled from one place to another. -/
inductive Spells : Piece → Cursor → Cursor → Prop
  | word {j : Json} {c c' : Cursor} (h : Word c.skipBlank j c') : Spells (.value j) c c'
  | arr {items : List Json} {c c₁ c₂ : Cursor} (hpeek : c.skipBlank.peek? = some '[')
      (hopen : openBracket c.skipBlank = .ok c₁) (hitems : Spells (.items true items) c₁ c₂) :
      Spells (.value (.arr items)) c (closeBracket c₂)
  | obj {members : List (String × Json)} {c c₁ c₂ : Cursor} (hpeek : c.skipBlank.peek? = some '{')
      (hopen : openBracket c.skipBlank = .ok c₁) (hmembers : Spells (.members true members) c₁ c₂) :
      Spells (.value (.obj members)) c (closeBracket c₂)
  | itemsEnd {first : Bool} {c c' : Cursor} (hnext : nextItem first c = .ok (false, c')) :
      Spells (.items first []) c c'
  | item {first : Bool} {j : Json} {items : List Json} {c c₁ c₂ c₃ : Cursor}
      (hnext : nextItem first c = .ok (true, c₁)) (hvalue : Spells (.value j) c₁ c₂)
      (hitems : Spells (.items false items) c₂ c₃) : Spells (.items first (j :: items)) c c₃
  | membersEnd {first : Bool} {c c' : Cursor} (hnext : nextKey first c = .ok (none, c')) :
      Spells (.members first []) c c'
  | member {first : Bool} {key : String} {j : Json} {members : List (String × Json)}
      {c c₁ c₂ c₃ c₄ : Cursor} (hnext : nextKey first c = .ok (some key, c₁))
      (hcolon : colon c₁ = .ok ((), c₂)) (hvalue : Spells (.value j) c₂ c₃)
      (hmembers : Spells (.members false members) c₃ c₄) :
      Spells (.members first ((key, j) :: members)) c c₄

/-! ### Separators -/

theorem nextItem_false (h : nextItem first c = .ok (false, c')) :
    c.skipBlank.peek? = some ']' ∧ c' = c.skipBlank := by
  rw [nextItem] at h
  dsimp only at h
  split at h
  · cases h
  · next hpeek =>
    cases h
    exact ⟨hpeek, rfl⟩
  · split at h
    · cases h
    · split at h
      · split at h <;> cases h
      · cases h

/-- Where an item starts: at once, or behind a comma. -/
theorem nextItem_true (h : nextItem first c = .ok (true, c')) :
    ∃ ch, c.skipBlank.peek? = some ch ∧ ch ≠ ']' ∧ (first = true ∧ c' = c.skipBlank ∨
      first = false ∧ ch = ',' ∧ c' = c.skipBlank.next.skipBlank) := by
  rw [nextItem] at h
  dsimp only at h
  split at h
  · cases h
  · cases h
  · next ch hclose hpeek =>
    refine ⟨ch, hpeek, hclose, ?_⟩
    split at h
    · next hfirst =>
      cases h
      exact .inl ⟨hfirst, rfl⟩
    · next hfirst =>
      split at h
      · next hcomma =>
        split at h
        · cases h
        · cases h
        · cases h
          exact .inr ⟨Bool.eq_false_iff.mpr hfirst, hcomma, rfl⟩
      · cases h

theorem beyond_nextItem {more : Bool} (h : nextItem first c = .ok (more, c')) : c.Beyond c' := by
  cases more with
  | false =>
    obtain ⟨-, rfl⟩ := nextItem_false h
    exact c.beyond_skipBlank
  | true =>
    obtain ⟨ch, -, -, ⟨-, rfl⟩ | ⟨-, -, rfl⟩⟩ := nextItem_true h
    · exact c.beyond_skipBlank
    · exact c.beyond_skipBlank.trans ((Cursor.beyond_next _).trans (Cursor.beyond_skipBlank _))

theorem key_eq_ok {name : Option String} (h : nextKey.key c = .ok (name, c')) :
    ∃ key, name = some key ∧ quoted c.next = .ok (key, c') := by
  obtain ⟨⟨key, c₁⟩, h₁, h⟩ := bind_eq_ok.mp h
  cases h
  exact ⟨key, rfl, h₁⟩

/-- Where a member starts, at once or behind a comma, stands a key; or there is a closing bracket. -/
theorem nextKey_cases {name : Option String} (h : nextKey first c = .ok (name, c')) :
    c.skipBlank.peek? = some '}' ∧ name = none ∧ c' = c.skipBlank ∨
    ∃ ch key start, c.skipBlank.peek? = some ch ∧ ch ≠ '}' ∧
      (first = true ∧ start = c.skipBlank ∨
        first = false ∧ ch = ',' ∧ start = c.skipBlank.next.skipBlank) ∧
      name = some key ∧ start.peek? = some '"' ∧ quoted start.next = .ok (key, c') := by
  rw [nextKey] at h
  dsimp only at h
  split at h
  · cases h
  · next hpeek =>
    cases h
    exact .inl ⟨hpeek, rfl, rfl⟩
  · next ch hclose hpeek =>
    right
    split at h
    · next hfirst =>
      split at h
      · next hquote =>
        obtain ⟨key, rfl, hkey⟩ := key_eq_ok h
        exact ⟨ch, key, _, hpeek, hclose, .inl ⟨hfirst, rfl⟩, rfl, hquote ▸ hpeek, hkey⟩
      · cases h
    · next hfirst =>
      split at h
      · next hcomma =>
        split at h
        · cases h
        · next hquote =>
          obtain ⟨key, rfl, hkey⟩ := key_eq_ok h
          exact ⟨ch, key, _, hpeek, hclose, .inr ⟨Bool.eq_false_iff.mpr hfirst, hcomma, rfl⟩, rfl, hquote,
            hkey⟩
        · cases h
        · cases h
      · cases h

theorem beyond_nextKey {name : Option String} (h : nextKey first c = .ok (name, c')) : c.Beyond c' := by
  obtain ⟨-, -, rfl⟩ | ⟨ch, key, start, -, -, hstart, -, -, hkey⟩ := nextKey_cases h
  · exact c.beyond_skipBlank
  · have hquoted := start.beyond_next.trans (local_quoted hkey).beyond
    obtain ⟨-, rfl⟩ | ⟨-, -, rfl⟩ := hstart
    · exact c.beyond_skipBlank.trans hquoted
    · exact c.beyond_skipBlank.trans ((Cursor.beyond_next _).trans
        ((Cursor.beyond_skipBlank _).trans hquoted))

theorem colon_eq_ok {u : Unit} (h : colon c = .ok (u, c')) :
    c.skipBlank.peek? = some ':' ∧ c' = c.skipBlank.next := by
  rw [colon] at h
  split at h
  · cases h
  · next hpeek =>
    cases h
    exact ⟨hpeek, rfl⟩
  · cases h

theorem beyond_colon {u : Unit} (h : colon c = .ok (u, c')) : c.Beyond c' := by
  obtain ⟨-, rfl⟩ := colon_eq_ok h
  exact c.beyond_skipBlank.trans (Cursor.beyond_next _)

/-! ### Going on -/

theorem openBracket_ok (h : openBracket c = .ok c₁) : c₁.rest = c.rest.tail ∧ c₁.room + 1 = c.room := by
  rw [openBracket] at h
  split at h
  · cases h
  · next hroom =>
    cases h
    exact ⟨Cursor.rest_next c, hroom.symm⟩

theorem left_openBracket {ch : Char} (hpeek : c.peek? = some ch) (h : openBracket c = .ok c₁) :
    c₁.left + 1 = c.left := by
  rw [← Cursor.left_next hpeek, Cursor.left, Cursor.left, (openBracket_ok h).1, Cursor.rest_next]

theorem left_opened {ch : Char} (hpeek : c.skipBlank.peek? = some ch)
    (hopen : openBracket c.skipBlank = .ok c₁) : c₁.left < c.left := by
  have hopened := left_openBracket hpeek hopen
  have hblank := c.beyond_skipBlank.left
  omega

/-- From before a bracket to behind the one that closes it. -/
theorem beyond_brackets {ch : Char} {c₂ : Cursor} (hpeek : c.skipBlank.peek? = some ch)
    (hopen : openBracket c.skipBlank = .ok c₁) (h : c₁.Beyond c₂) :
    c.Beyond (closeBracket c₂) ∧ (closeBracket c₂).left < c.left := by
  have hroom := (openBracket_ok hopen).2
  have hopened := left_opened hpeek hopen
  have hclose : (closeBracket c₂).left ≤ c₂.left := c₂.beyond_next.left
  have hinner := h.left
  have hlt : (closeBracket c₂).left < c.left := by omega
  refine ⟨⟨Nat.le_of_lt hlt, ?_⟩, hlt⟩
  rw [← c.beyond_skipBlank.room, ← hroom, ← h.room]
  rfl

theorem Word.beyond (h : Word c j c') : c.Beyond c' ∧ c'.left < c.left := by
  have hnext {ch : Char} (hpeek : c.peek? = some ch) (h : c.next.Beyond c') :
      c.Beyond c' ∧ c'.left < c.left := by
    have := Cursor.left_next hpeek
    have := h.left
    exact ⟨c.beyond_next.trans h, by omega⟩
  cases h with
  | null hpeek h => exact hnext hpeek (local_ident _ h).beyond
  | yes hpeek h => exact hnext hpeek (local_ident _ h).beyond
  | no hpeek h => exact hnext hpeek (local_ident _ h).beyond
  | str hpeek h => exact hnext hpeek (local_quoted h).beyond
  | num hpeek hch h => exact ⟨(local_number h).beyond, (number_longer stops_nil (longer_nil rfl) h).1⟩

theorem Spells.beyond {p : Piece} (h : Spells p c c') : c.Beyond c' ∧ c'.left + p.least ≤ c.left := by
  induction h with
  | @word j c c' h =>
    obtain ⟨hbeyond, hleft⟩ := h.beyond
    have hblank := c.beyond_skipBlank
    exact ⟨hblank.trans hbeyond, Nat.lt_of_lt_of_le hleft hblank.left⟩
  | arr hpeek hopen hitems ih => exact beyond_brackets hpeek hopen ih.1
  | obj hpeek hopen hmembers ih => exact beyond_brackets hpeek hopen ih.1
  | itemsEnd hnext => exact ⟨beyond_nextItem hnext, (beyond_nextItem hnext).left⟩
  | item hnext hvalue hitems ihvalue ihitems =>
    have h := (beyond_nextItem hnext).trans (ihvalue.1.trans ihitems.1)
    exact ⟨h, h.left⟩
  | membersEnd hnext => exact ⟨beyond_nextKey hnext, (beyond_nextKey hnext).left⟩
  | member hnext hcolon hvalue hmembers ihvalue ihmembers =>
    have h := (beyond_nextKey hnext).trans ((beyond_colon hcolon).trans (ihvalue.1.trans ihmembers.1))
    exact ⟨h, h.left⟩

/-! ### First characters -/

/-- What a value starts with. -/
def Begins (ch : Char) : Json → Prop
  | .null => ch = 'n'
  | .bool true => ch = 't'
  | .bool false => ch = 'f'
  | .num _ => ch = '-' ∨ ch.isDigit = true
  | .str _ => ch = '"'
  | .arr _ => ch = '['
  | .obj _ => ch = '{'

theorem Begins.str (h : Begins '"' j) : ∃ s, j = .str s := by
  unfold Begins at h
  split at h <;> simp_all

theorem Begins.null (h : Begins 'n' j) : j = .null := by
  unfold Begins at h
  split at h <;> simp_all

theorem Begins.num {ch : Char} (h : Begins ch j) (hch : ch = '-' ∨ ch.isDigit = true) :
    ∃ n, j = .num n := by
  unfold Begins at h
  split at h <;> simp_all

theorem Begins.arr (h : Begins '[' j) : ∃ items, j = .arr items := by
  unfold Begins at h
  split at h <;> simp_all

theorem Begins.obj (h : Begins '{' j) : ∃ members, j = .obj members := by
  unfold Begins at h
  split at h <;> simp_all

theorem Spells.begins (h : Spells (.value j) c c') : ∃ ch, c.skipBlank.peek? = some ch ∧ Begins ch j := by
  cases h with
  | word h =>
    cases h with
    | null hpeek | yes hpeek | no hpeek | str hpeek => exact ⟨_, hpeek, rfl⟩
    | num hpeek hch => exact ⟨_, hpeek, hch⟩
  | arr hpeek => exact ⟨_, hpeek, rfl⟩
  | obj hpeek => exact ⟨_, hpeek, rfl⟩

/-! ### Reading -/

/-- A value without brackets is read with whatever fuel. -/
theorem Word.value (h : Word c.skipBlank j c') (fuel : Nat) : value (fuel + 1) c = .ok (j, c') := by
  rw [Scan.value]
  cases h with
  | null hpeek h => simp only [hpeek]; exact bind_eq_ok.mpr ⟨_, h, rfl⟩
  | yes hpeek h => simp only [hpeek]; exact bind_eq_ok.mpr ⟨_, h, rfl⟩
  | no hpeek h => simp only [hpeek]; exact bind_eq_ok.mpr ⟨_, h, rfl⟩
  | str hpeek h => simp only [hpeek]; exact bind_eq_ok.mpr ⟨_, h, rfl⟩
  | num hpeek hch h =>
    simp only [hpeek]
    split
    · next heq => cases heq
    iterate 6
      · next heq =>
        obtain rfl := Option.some.inj heq
        exact absurd hch (by decide)
    · next heq =>
      obtain rfl := Option.some.inj heq
      rw [if_pos hch]
      exact bind_eq_ok.mpr ⟨_, h, rfl⟩

theorem Word.sorted (h : Word c j c') : j.sorted = j := by
  cases h <;> rfl

/-- A piece is read with the members of its objects in key order, given enough fuel. -/
def Reads (fuel : Nat) (c c' : Cursor) : Piece → Prop
  | .value j => value fuel c = .ok (j.sorted, c')
  | .items first js => items fuel first c = .ok (Json.sortedItems js, c')
  | .members first ms => members fuel first c = .ok (Json.sortedMembers ms, c')

theorem Spells.reads {p : Piece} (h : Spells p c c') {fuel : Nat}
    (hfuel : 2 * c.left + 2 ≤ fuel + p.least) : Reads fuel c c' p := by
  induction h generalizing fuel with
  | word h =>
    simp only [Piece.least] at hfuel
    obtain ⟨fuel, rfl⟩ : ∃ k, fuel = k + 1 := ⟨fuel - 1, by omega⟩
    rw [Reads, h.sorted]
    exact h.value fuel
  | @arr items c c₁ c₂ hpeek hopen hitems ih =>
    simp only [Piece.least] at hfuel ih
    obtain ⟨fuel, rfl⟩ : ∃ k, fuel = k + 1 := ⟨fuel - 1, by omega⟩
    have := left_opened hpeek hopen
    rw [Reads, Scan.value]
    simp only [hpeek]
    exact bind_eq_ok.mpr ⟨_, hopen, bind_eq_ok.mpr ⟨_, ih (by omega), rfl⟩⟩
  | @obj members c c₁ c₂ hpeek hopen hmembers ih =>
    simp only [Piece.least] at hfuel ih
    obtain ⟨fuel, rfl⟩ : ∃ k, fuel = k + 1 := ⟨fuel - 1, by omega⟩
    have := left_opened hpeek hopen
    rw [Reads, Scan.value]
    simp only [hpeek]
    exact bind_eq_ok.mpr ⟨_, hopen, bind_eq_ok.mpr ⟨_, ih (by omega), rfl⟩⟩
  | itemsEnd hnext =>
    simp only [Piece.least] at hfuel
    obtain ⟨fuel, rfl⟩ : ∃ k, fuel = k + 1 := ⟨fuel - 1, by omega⟩
    rw [Reads, Scan.items]
    exact bind_eq_ok.mpr ⟨_, hnext, rfl⟩
  | item hnext hvalue hitems ihvalue ihitems =>
    simp only [Piece.least] at hfuel ihvalue ihitems
    obtain ⟨fuel, rfl⟩ : ∃ k, fuel = k + 1 := ⟨fuel - 1, by omega⟩
    have := (beyond_nextItem hnext).left
    have := hvalue.beyond.2
    simp only [Piece.least] at this
    rw [Reads, Scan.items]
    exact bind_eq_ok.mpr ⟨_, hnext, bind_eq_ok.mpr ⟨_, ihvalue (by omega),
      bind_eq_ok.mpr ⟨_, ihitems (by omega), rfl⟩⟩⟩
  | membersEnd hnext =>
    simp only [Piece.least] at hfuel
    obtain ⟨fuel, rfl⟩ : ∃ k, fuel = k + 1 := ⟨fuel - 1, by omega⟩
    rw [Reads, Scan.members]
    exact bind_eq_ok.mpr ⟨_, hnext, rfl⟩
  | member hnext hcolon hvalue hmembers ihvalue ihmembers =>
    simp only [Piece.least] at hfuel ihvalue ihmembers
    obtain ⟨fuel, rfl⟩ : ∃ k, fuel = k + 1 := ⟨fuel - 1, by omega⟩
    have := (beyond_nextKey hnext).left
    have := (beyond_colon hcolon).left
    have := hvalue.beyond.2
    simp only [Piece.least] at this
    rw [Reads, Scan.members]
    exact bind_eq_ok.mpr ⟨_, hnext, bind_eq_ok.mpr ⟨_, hcolon, bind_eq_ok.mpr ⟨_, ihvalue (by omega),
      bind_eq_ok.mpr ⟨_, ihmembers (by omega), rfl⟩⟩⟩⟩

/-- What is read as a value is a word, or stands between brackets. -/
theorem value_cases {fuel : Nat} {v : Json} (h : value (fuel + 1) c = .ok (v, c')) :
    Word c.skipBlank v c' ∨
    (∃ vs c₁ c₂, c.skipBlank.peek? = some '[' ∧ openBracket c.skipBlank = .ok c₁ ∧
      items fuel true c₁ = .ok (vs, c₂) ∧ v = .arr vs ∧ c' = closeBracket c₂) ∨
    ∃ entries c₁ c₂, c.skipBlank.peek? = some '{' ∧ openBracket c.skipBlank = .ok c₁ ∧
      members fuel true c₁ = .ok (entries, c₂) ∧ v = .obj (KeyMap.ofEntries entries) ∧
      c' = closeBracket c₂ := by
  rw [Scan.value] at h
  dsimp only at h
  split at h
  · cases h
  · next hpeek =>
    obtain ⟨⟨_, c₁⟩, h₁, h⟩ := bind_eq_ok.mp h
    cases h
    exact .inl (.null hpeek h₁)
  · next hpeek =>
    obtain ⟨⟨_, c₁⟩, h₁, h⟩ := bind_eq_ok.mp h
    cases h
    exact .inl (.yes hpeek h₁)
  · next hpeek =>
    obtain ⟨⟨_, c₁⟩, h₁, h⟩ := bind_eq_ok.mp h
    cases h
    exact .inl (.no hpeek h₁)
  · next hpeek =>
    obtain ⟨⟨s, c₁⟩, h₁, h⟩ := bind_eq_ok.mp h
    cases h
    exact .inl (.str hpeek h₁)
  · next hpeek =>
    obtain ⟨c₁, hopen, h⟩ := bind_eq_ok.mp h
    obtain ⟨⟨vs, c₂⟩, hvs, h⟩ := bind_eq_ok.mp h
    cases h
    exact .inr (.inl ⟨vs, c₁, c₂, hpeek, hopen, hvs, rfl, rfl⟩)
  · next hpeek =>
    obtain ⟨c₁, hopen, h⟩ := bind_eq_ok.mp h
    obtain ⟨⟨entries, c₂⟩, hentries, h⟩ := bind_eq_ok.mp h
    cases h
    exact .inr (.inr ⟨entries, c₁, c₂, hpeek, hopen, hentries, rfl, rfl⟩)
  · next hpeek =>
    split at h
    · next hch =>
      obtain ⟨⟨n, c₁⟩, h₁, h⟩ := bind_eq_ok.mp h
      cases h
      exact .inl (.num hpeek hch h₁)
    · cases h

theorem items_cases {fuel : Nat} {vs : List Json} (h : items (fuel + 1) first c = .ok (vs, c')) :
    nextItem first c = .ok (false, c') ∧ vs = [] ∨
    ∃ v rest c₁ c₂, nextItem first c = .ok (true, c₁) ∧ value fuel c₁ = .ok (v, c₂) ∧
      items fuel false c₂ = .ok (rest, c') ∧ vs = v :: rest := by
  rw [Scan.items] at h
  obtain ⟨⟨more, c₁⟩, hnext, h⟩ := bind_eq_ok.mp h
  cases more with
  | false =>
    cases h
    exact .inl ⟨hnext, rfl⟩
  | true =>
    obtain ⟨⟨v, c₂⟩, hv, h⟩ := bind_eq_ok.mp h
    obtain ⟨⟨rest, c₃⟩, hrest, h⟩ := bind_eq_ok.mp h
    cases h
    exact .inr ⟨v, rest, c₁, c₂, hnext, hv, hrest, rfl⟩

theorem members_cases {fuel : Nat} {vs : List (String × Json)}
    (h : members (fuel + 1) first c = .ok (vs, c')) :
    nextKey first c = .ok (none, c') ∧ vs = [] ∨
    ∃ key v rest c₁ c₂ c₃, nextKey first c = .ok (some key, c₁) ∧ colon c₁ = .ok ((), c₂) ∧
      value fuel c₂ = .ok (v, c₃) ∧ members fuel false c₃ = .ok (rest, c') ∧ vs = (key, v) :: rest := by
  rw [Scan.members] at h
  obtain ⟨⟨key?, c₁⟩, hnext, h⟩ := bind_eq_ok.mp h
  cases key? with
  | none =>
    cases h
    exact .inl ⟨hnext, rfl⟩
  | some key =>
    obtain ⟨⟨_, c₂⟩, hcolon, h⟩ := bind_eq_ok.mp h
    obtain ⟨⟨v, c₃⟩, hv, h⟩ := bind_eq_ok.mp h
    obtain ⟨⟨rest, c₄⟩, hrest, h⟩ := bind_eq_ok.mp h
    cases h
    exact .inr ⟨key, v, rest, c₁, c₂, c₃, hnext, hcolon, hv, hrest, rfl⟩

/-- What is read is spelled there. -/
theorem spells_of_reads (fuel : Nat) :
    (∀ {c c' v}, value fuel c = .ok (v, c') → ∃ j, Spells (.value j) c c' ∧ v = j.sorted) ∧
    (∀ {c c' first vs}, items fuel first c = .ok (vs, c') →
      ∃ js, Spells (.items first js) c c' ∧ vs = Json.sortedItems js) ∧
    (∀ {c c' first vs}, members fuel first c = .ok (vs, c') →
      ∃ ms, Spells (.members first ms) c c' ∧ vs = Json.sortedMembers ms) := by
  induction fuel with
  | zero => exact ⟨by rintro _ _ _ ⟨⟩, by rintro _ _ _ _ ⟨⟩, by rintro _ _ _ _ ⟨⟩⟩
  | succ fuel ih =>
    obtain ⟨ihvalue, ihitems, ihmembers⟩ := ih
    refine ⟨fun h => ?value, fun h => ?items, fun h => ?members⟩
    case value =>
      obtain hword | ⟨vs, c₁, c₂, hpeek, hopen, hvs, rfl, rfl⟩ |
        ⟨entries, c₁, c₂, hpeek, hopen, hentries, rfl, rfl⟩ := value_cases h
      · exact ⟨_, .word hword, hword.sorted.symm⟩
      · obtain ⟨js, hjs, rfl⟩ := ihitems hvs
        exact ⟨.arr js, .arr hpeek hopen hjs, rfl⟩
      · obtain ⟨ms, hms, rfl⟩ := ihmembers hentries
        exact ⟨.obj ms, .obj hpeek hopen hms, rfl⟩
    case items =>
      obtain ⟨hnext, rfl⟩ | ⟨v, rest, c₁, c₂, hnext, hv, hrest, rfl⟩ := items_cases h
      · exact ⟨[], .itemsEnd hnext, rfl⟩
      · obtain ⟨j, hj, rfl⟩ := ihvalue hv
        obtain ⟨js, hjs, rfl⟩ := ihitems hrest
        exact ⟨j :: js, .item hnext hj hjs, rfl⟩
    case members =>
      obtain ⟨hnext, rfl⟩ | ⟨key, v, rest, c₁, c₂, c₃, hnext, hcolon, hv, hrest, rfl⟩ := members_cases h
      · exact ⟨[], .membersEnd hnext, rfl⟩
      · obtain ⟨j, hj, rfl⟩ := ihvalue hv
        obtain ⟨ms, hms, rfl⟩ := ihmembers hrest
        exact ⟨(key, j) :: ms, .member hnext hcolon hj hms, rfl⟩

theorem json_of_spells (h : Spells (.value j) c c') : json c = .ok (j.sorted, c') :=
  h.reads (by simp only [fuelFor, Cursor.left]; omega)

theorem spells_of_json {v : Json} (h : json c = .ok (v, c')) :
    ∃ j, Spells (.value j) c c' ∧ v = j.sorted := (spells_of_reads _).1 h

/-! ### Passing over -/

theorem Word.pass (h : Word c.skipBlank j c') (fuel room : Nat) :
    passValue (fuel + 1) (c.within room) = .ok ((), c'.within room) := by
  rw [passValue, Cursor.skipBlank_within]
  cases h with
  | null hpeek h =>
    simp only [Cursor.peek?_within, hpeek, Cursor.next_within]
    exact (local_ident _ h).within room
  | yes hpeek h =>
    simp only [Cursor.peek?_within, hpeek, Cursor.next_within]
    exact (local_ident _ h).within room
  | no hpeek h =>
    simp only [Cursor.peek?_within, hpeek, Cursor.next_within]
    exact (local_ident _ h).within room
  | str hpeek h =>
    simp only [Cursor.peek?_within, hpeek, Cursor.next_within]
    exact passQuoted_of_quoted ((local_quoted h).within room)
  | num hpeek hch h =>
    simp only [Cursor.peek?_within, hpeek]
    split
    · next heq => cases heq
    iterate 6
      · next heq =>
        obtain rfl := Option.some.inj heq
        exact absurd hch (by decide)
    · next heq =>
      obtain rfl := Option.some.inj heq
      rw [if_pos hch]
      exact passNumber_of_number ((local_number h).within room)

theorem passValue_skipBlank (fuel : Nat) (c : Cursor) :
    passValue (fuel + 1) c.skipBlank = passValue (fuel + 1) c := by
  rw [passValue, passValue, Cursor.skipBlank_skipBlank]

/-- A piece is passed over, a list or an object up to behind its closing bracket. -/
def Passes (fuel room : Nat) (c c' : Cursor) : Piece → Prop
  | .value _ => passValue fuel (c.within room) = .ok ((), c'.within room)
  | .items first _ => passItems fuel first (c.within room) = .ok ((), c'.next.within room)
  | .members first _ => passMembers fuel first (c.within room) = .ok ((), c'.next.within room)

theorem colon_within {u : Unit} (h : colon c = .ok (u, c')) (room : Nat) :
    colon (c.within room) = .ok ((), c'.within room) := by
  obtain ⟨hpeek, rfl⟩ := colon_eq_ok h
  simp only [colon, Cursor.skipBlank_within, Cursor.peek?_within, hpeek, Cursor.next_within]

theorem openBracket_within (h : openBracket c = .ok c₁) (room : Nat) :
    c.next.within room = c₁.within room := by
  rw [openBracket] at h
  split at h
  · cases h
  · cases h
    rfl

/-- A list is passed over from where an item starts, if the item and the rest are. The separator is
behind the blanks before it, and a value passes over blanks of its own. -/
theorem passItems_item {fuel room : Nat} {c₂ c₃ : Cursor} (hnext : nextItem first c = .ok (true, c₁))
    (hvalue : passValue fuel (c₁.within room) = .ok ((), c₂))
    (hrest : passItems fuel false c₂ = .ok ((), c₃)) :
    passItems (fuel + 1) first (c.within room) = .ok ((), c₃) := by
  obtain ⟨ch, hpeek, hclose, hstart⟩ := nextItem_true hnext
  rw [passItems, Cursor.skipBlank_within]
  split
  · next hnone => cases hnone.symm.trans hpeek
  · next hfound => exact absurd (Option.some.inj (hpeek.symm.trans hfound)) hclose
  · next hfound =>
    obtain rfl := Option.some.inj (hfound.symm.trans hpeek)
    obtain ⟨rfl, rfl⟩ | ⟨rfl, rfl, rfl⟩ := hstart
    · exact bind_eq_ok.mpr ⟨_, rfl, bind_eq_ok.mpr ⟨_, hvalue, hrest⟩⟩
    · cases fuel with
      | zero => cases hvalue
      | succ fuel =>
        rw [← Cursor.skipBlank_within, passValue_skipBlank] at hvalue
        refine bind_eq_ok.mpr ⟨c.skipBlank.next.within room, ?_, bind_eq_ok.mpr ⟨_, hvalue, hrest⟩⟩
        simp only [Cursor.next_within]
        rfl

theorem passMembers_member {fuel room : Nat} {key : String} {c₂ c₃ c₄ : Cursor}
    (hnext : nextKey first c = .ok (some key, c₁)) (hcolon : colon c₁ = .ok ((), c₂))
    (hvalue : passValue fuel (c₂.within room) = .ok ((), c₃))
    (hrest : passMembers fuel false c₃ = .ok ((), c₄)) :
    passMembers (fuel + 1) first (c.within room) = .ok ((), c₄) := by
  obtain ⟨-, hkey, -⟩ | ⟨ch, _, start, hpeek, hclose, hstart, -, hquote, hkey⟩ := nextKey_cases hnext
  · cases hkey
  · have hmember : (passQuoted (start.within room).next >>= fun x => colon x.2 >>= fun x =>
        passValue fuel x.2 >>= fun x => passMembers fuel false x.2) = .ok ((), c₄) := by
      refine bind_eq_ok.mpr ⟨((), c₁.within room), ?_, bind_eq_ok.mpr ⟨((), c₂.within room), ?_,
        bind_eq_ok.mpr ⟨_, hvalue, hrest⟩⟩⟩
      · rw [Cursor.next_within]
        exact passQuoted_of_quoted ((local_quoted hkey).within room)
      · exact colon_within hcolon room
    rw [passMembers, Cursor.skipBlank_within]
    split
    · next hnone => cases hnone.symm.trans hpeek
    · next hfound => exact absurd (Option.some.inj (hpeek.symm.trans hfound)) hclose
    · next hfound =>
      obtain rfl := Option.some.inj (hfound.symm.trans hpeek)
      obtain ⟨rfl, rfl⟩ | ⟨rfl, rfl, rfl⟩ := hstart
      · simp only [if_true, pure_bind, Cursor.peek?_within, hquote]
        exact hmember
      · simp only [Bool.false_eq_true, if_false, if_true, pure_bind, Cursor.next_within,
          Cursor.skipBlank_within, Cursor.peek?_within, hquote]
        rwa [← Cursor.next_within]

theorem Spells.passes {p : Piece} (h : Spells p c c') {fuel : Nat}
    (hfuel : 2 * c.left + 2 ≤ fuel + p.least) (room : Nat) : Passes fuel room c c' p := by
  induction h generalizing fuel with
  | word h =>
    simp only [Piece.least] at hfuel
    obtain ⟨fuel, rfl⟩ : ∃ k, fuel = k + 1 := ⟨fuel - 1, by omega⟩
    exact h.pass fuel room
  | @arr items c c₁ c₂ hpeek hopen hitems ih =>
    simp only [Piece.least] at hfuel ih
    obtain ⟨fuel, rfl⟩ : ∃ k, fuel = k + 1 := ⟨fuel - 1, by omega⟩
    have := left_opened hpeek hopen
    rw [Passes, passValue, Cursor.skipBlank_within]
    simp only [Cursor.peek?_within, hpeek, Cursor.next_within, openBracket_within hopen]
    exact ih (by omega)
  | @obj members c c₁ c₂ hpeek hopen hmembers ih =>
    simp only [Piece.least] at hfuel ih
    obtain ⟨fuel, rfl⟩ : ∃ k, fuel = k + 1 := ⟨fuel - 1, by omega⟩
    have := left_opened hpeek hopen
    rw [Passes, passValue, Cursor.skipBlank_within]
    simp only [Cursor.peek?_within, hpeek, Cursor.next_within, openBracket_within hopen]
    exact ih (by omega)
  | itemsEnd hnext =>
    simp only [Piece.least] at hfuel
    obtain ⟨fuel, rfl⟩ : ∃ k, fuel = k + 1 := ⟨fuel - 1, by omega⟩
    obtain ⟨hpeek, rfl⟩ := nextItem_false hnext
    rw [Passes, passItems, Cursor.skipBlank_within]
    simp only [Cursor.peek?_within, hpeek, Cursor.next_within]
  | item hnext hvalue hitems ihvalue ihitems =>
    simp only [Piece.least] at hfuel ihvalue ihitems
    obtain ⟨fuel, rfl⟩ : ∃ k, fuel = k + 1 := ⟨fuel - 1, by omega⟩
    have := (beyond_nextItem hnext).left
    have := hvalue.beyond.2
    simp only [Piece.least] at this
    exact passItems_item hnext (ihvalue (by omega)) (ihitems (by omega))
  | @membersEnd first c c' hnext =>
    simp only [Piece.least] at hfuel
    obtain ⟨fuel, rfl⟩ : ∃ k, fuel = k + 1 := ⟨fuel - 1, by omega⟩
    obtain ⟨hpeek, -, rfl⟩ | ⟨ch, key, start, -, -, -, hkey, -, -⟩ := nextKey_cases hnext
    · rw [Passes, passMembers, Cursor.skipBlank_within]
      simp only [Cursor.peek?_within, hpeek, Cursor.next_within]
    · cases hkey
  | member hnext hcolon hvalue hmembers ihvalue ihmembers =>
    simp only [Piece.least] at hfuel ihvalue ihmembers
    obtain ⟨fuel, rfl⟩ : ∃ k, fuel = k + 1 := ⟨fuel - 1, by omega⟩
    have := (beyond_nextKey hnext).left
    have := (beyond_colon hcolon).left
    have := hvalue.beyond.2
    simp only [Piece.least] at this
    exact passMembers_member hnext hcolon (ihvalue (by omega)) (ihmembers (by omega))

/-- What is spelled can be passed over. -/
theorem pass_of_spells (h : Spells (.value j) c c') : pass c = .ok ((), c') := by
  have hpass : Passes (fuelFor c) c.room c c' (.value j) :=
    h.passes (by simp only [fuelFor, Cursor.left, Piece.least]; omega) c.room
  rwa [Passes, Cursor.within_of_room rfl, Cursor.within_of_room h.beyond.1.room] at hpass

/-! ### Whole texts -/

theorem whole_eq_ok {α : Type} {scan : Scan α} {text : String} {a : α} :
    whole scan text = .ok a ↔ ∃ c, scan (Cursor.start text) = .ok (a, c) ∧ c.skipBlank.rest = [] := by
  rw [whole, bind_eq_ok]
  constructor
  · rintro ⟨⟨b, c⟩, hread, h⟩
    dsimp only at h
    split at h
    · next hend =>
      cases h
      exact ⟨c, hread, List.isEmpty_iff.mp hend⟩
    · cases h
  · rintro ⟨c, hread, hend⟩
    exact ⟨(a, c), hread, if_pos (List.isEmpty_iff.mpr hend)⟩

end Scan

/-- The text spells the value, with nothing but blanks around it. -/
def Json.Spelled (text : String) (j : Json) : Prop :=
  ∃ c, Scan.Spells (.value j) (Cursor.start text) c ∧ c.skipBlank.rest = []

/-- A text is parsed as the value that it spells, in key order. -/
theorem Json.parse_eq_ok {text : String} {v : Json} :
    Json.parse text = .ok v ↔ ∃ j, Json.Spelled text j ∧ j.sorted = v := by
  rw [Json.parse, Scan.whole_eq_ok]
  constructor
  · rintro ⟨c, hread, hend⟩
    obtain ⟨j, hspells, rfl⟩ := Scan.spells_of_json hread
    exact ⟨j, ⟨c, hspells, hend⟩, rfl⟩
  · rintro ⟨j, ⟨c, hspells, hend⟩, rfl⟩
    exact ⟨c, Scan.json_of_spells hspells, hend⟩

end WorkflowCanvas
