import WorkflowCanvas.Proofs.Float.Quotient
import WorkflowCanvas.Proofs.Json.Proper
import WorkflowCanvas.Proofs.Json.Spelling

/-! Numbers that are read from a text are in range: integers have 64 bits, and floats are finite. So a text
is parsed as a value as there are. -/
namespace WorkflowCanvas
namespace Scan
variable {c c' : Cursor}

/-! ### Numbers -/

theorem absorb_le {n : Nat} (h : n ≤ maxSignificand) (ds : List Nat) : (absorb n ds).1 ≤ maxSignificand := by
  induction ds generalizing n with
  | nil => exact h
  | cons d ds ih =>
    rw [absorb]
    split
    · next hd => exact ih hd
    · exact h

theorem isFinite_div_power {x : Float} (hx : x.isFinite = true) {n : Nat} (hpos : 1 ≤ n) (hn : n ≤ 308) :
    (x / power n).isFinite = true :=
  Rounding.isFinite_div hx (Rounding.sizable_ofScientific hpos hn)

theorem isFinite_of_scaled {fuel : Nat} {x y : Float} {exponent : Int} (hx : x.isFinite = true)
    (h : scaled? fuel x exponent = some y) : y.isFinite = true := by
  induction fuel generalizing x exponent with
  | zero =>
    cases h
    exact hx
  | succ fuel ih =>
    rw [scaled?] at h
    split at h
    · next hsmall =>
      split at h
      · dsimp only at h
        split at h
        · next hfinite =>
          cases h
          exact hfinite
        · cases h
      · next hnegative =>
        cases h
        exact isFinite_div_power hx (by omega) hsmall
    · split at h
      · cases h
        exact hx
      · split at h
        · cases h
        · exact ih (isFinite_div_power hx (by decide) (Nat.le_refl _)) h

theorem isFinite_signed {x : Float} (hx : x.isFinite = true) (negative : Bool) :
    (signed negative x).isFinite = true := by
  cases negative with
  | false => exact hx
  | true => exact Rounding.isFinite_neg hx

theorem floatValue_proper {n : Numeral} {x : Number} (h : floatValue n c = .ok (x, c')) :
    (Json.num x).Proper := by
  have hwhole := absorb_le (Nat.zero_le _) n.whole
  have hfraction := absorb_le hwhole (n.fraction.getD [])
  have hmax : maxSignificand < 2 ^ 64 := by decide
  have hsignificand := Rounding.isFinite_ofNat (hfraction.trans_lt hmax)
  rw [floatValue] at h
  dsimp only at h
  cases hexponent : n.exponent with
  | none =>
    rw [hexponent] at h
    dsimp only at h
    split at h
    · next hscaled =>
      obtain ⟨rfl, -⟩ := Prod.mk.inj (Except.ok.inj h)
      exact .float (isFinite_signed (isFinite_of_scaled hsignificand hscaled) _)
    · cases h
  | some e =>
    rw [hexponent] at h
    dsimp only at h
    split at h
    · split at h
      · next hscaled =>
        obtain ⟨rfl, -⟩ := Prod.mk.inj (Except.ok.inj h)
        exact .float (isFinite_signed (isFinite_of_scaled hsignificand hscaled) _)
      · cases h
    · split at h
      · cases h
      · obtain ⟨rfl, -⟩ := Prod.mk.inj (Except.ok.inj h)
        exact .float (isFinite_signed (by decide) _)

/-- A number that is read is in range. -/
theorem number_proper {n : Number} (h : number c = .ok (n, c')) : (Json.num n).Proper := by
  obtain ⟨⟨parts, c₁⟩, -, h⟩ := bind_eq_ok.mp h
  have hsignificand := absorb_le (Nat.zero_le _) parts.whole
  have hmax : maxSignificand = 2 ^ 64 - 1 := rfl
  dsimp only at h
  split at h
  · exact floatValue_proper h
  · split at h
    · obtain ⟨rfl, -⟩ := Prod.mk.inj (Except.ok.inj h)
      exact .int (by omega) (by omega)
    · split at h
      · next hrange =>
        obtain ⟨rfl, -⟩ := Prod.mk.inj (Except.ok.inj h)
        have hlow : (absorb 0 parts.whole).1 ≤ 2 ^ 63 := hrange.2
        exact .int (by omega) (by omega)
      · exact floatValue_proper h

end Scan

/-! ### Values -/

namespace Json
variable {items : List Json} {members : List (String × Json)}

theorem canonical_arr (h : ∀ j ∈ items, j.Canonical) : (Json.arr items).Canonical :=
  ⟨.arr fun j hj => (h j hj).proper, .arr fun j hj => (h j hj).ordered⟩

/-- Members are put in key order, and the last one under a key is taken. -/
theorem canonical_ofEntries (h : ∀ m ∈ members, m.2.Canonical) :
    (Json.obj (KeyMap.ofEntries members)).Canonical := by
  have hkeys := KeyMap.sorted_ofEntries members
  have hvalues : ∀ m ∈ KeyMap.ofEntries members, m.2.Canonical :=
    fun m hm => h m (KeyMap.mem_of_mem_ofEntries hm)
  exact ⟨.obj hkeys.nodup fun m hm => (hvalues m hm).proper,
    .obj hkeys fun m hm => (hvalues m hm).ordered⟩

end Json

namespace Scan
variable {c c' : Cursor} {p : Piece}

theorem Word.canonical {j : Json} (h : Word c j c') : j.Canonical := by
  cases h with
  | null => exact ⟨.null, .null⟩
  | yes => exact ⟨.bool true, .bool true⟩
  | no => exact ⟨.bool false, .bool false⟩
  | str => exact ⟨.str _, .str _⟩
  | num _ _ h => exact ⟨number_proper h, .num _⟩

/-- Whatever a text spells is a value as there are, once it is in key order. -/
theorem Spells.canonical (h : Spells p c c') : match p with
    | .value j => j.sorted.Canonical
    | .items _ js => ∀ j ∈ Json.sortedItems js, j.Canonical
    | .members _ ms => ∀ m ∈ Json.sortedMembers ms, m.2.Canonical := by
  induction h with
  | word h =>
    show Json.Canonical _
    rw [h.sorted]
    exact h.canonical
  | arr _ _ _ ih => exact Json.canonical_arr ih
  | obj _ _ _ ih => exact Json.canonical_ofEntries ih
  | itemsEnd => exact List.forall_mem_nil _
  | item _ _ _ ihvalue ihitems => exact List.forall_mem_cons.mpr ⟨ihvalue, ihitems⟩
  | membersEnd => exact List.forall_mem_nil _
  | member _ _ _ _ ihvalue ihmembers => exact List.forall_mem_cons.mpr ⟨ihvalue, ihmembers⟩

theorem canonical_of_json {v : Json} (h : json c = .ok (v, c')) : v.Canonical := by
  obtain ⟨j, hspells, rfl⟩ := spells_of_json h
  exact hspells.canonical

theorem canonical_of_members {fuel : Nat} {first : Bool} {ms : List (String × Json)}
    (h : members fuel first c = .ok (ms, c')) : (Json.obj (KeyMap.ofEntries ms)).Canonical := by
  obtain ⟨ms, hspells, rfl⟩ := (spells_of_reads fuel).2.2 h
  exact Json.canonical_ofEntries hspells.canonical

end Scan

/-- What is parsed is a value as there are. -/
theorem Json.canonical_of_parse {text : String} {v : Json} (h : Json.parse text = .ok v) : v.Canonical := by
  obtain ⟨c, hread, -⟩ := Scan.whole_eq_ok.mp h
  exact Scan.canonical_of_json hread

end WorkflowCanvas
