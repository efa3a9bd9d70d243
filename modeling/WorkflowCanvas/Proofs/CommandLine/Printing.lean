import WorkflowCanvas.Proofs.CommandLine.Script
import WorkflowCanvas.Proofs.Event.Delivery

/-! What is printed of the events of a run, by the turns that the printing task takes while they are
sent. -/
namespace WorkflowCanvas

/-- A log ends with its last event and no earlier one. -/
def EndsLast (log : List Happening) : Prop :=
  ∀ i h, log[i]? = some h → (h.isEnd = true ↔ i + 1 = log.length)

theorem endsLast_concat {before : List Happening} {last : Happening}
    (hbefore : ∀ h ∈ before, h.isEnd = false) (hlast : last.isEnd = true) :
    EndsLast (before ++ [last]) := by
  intro i h hi
  obtain hlt | rfl | hgt := Nat.lt_trichotomy i before.length
  · rw [List.getElem?_append_left hlt] at hi
    have hend := hbefore h (List.mem_of_getElem? hi)
    simp [hend]
    omega
  · obtain rfl : last = h := by simpa using hi
    simp [hlast]
  · rw [List.getElem?_eq_none (by simp; omega)] at hi
    cases hi

namespace Command
open Script (Shows)

variable {bus : Bus Happening} {p : Printer} {log later full : List Happening} {h : Happening}
  {k : Nat} {pace : Nat → Nat}

/-! ### Turns -/

namespace Printer

theorem turn_ended (hended : p.ended = true) : p.turn bus = ([], p) := by
  rw [turn, if_pos hended]

theorem turn_lagged (hgoing : p.ended = false) (hbus : bus.Carries log)
    (hlate : p.receiver.position + bus.room < log.length) :
    (p.turn bus).1 = [] ∧ (p.turn bus).2.ended = true := by
  simp [turn, hgoing, hbus.receive_lagged hlate]

theorem turn_message (hgoing : p.ended = false) (hbus : bus.Carries log)
    (hearly : log.length ≤ p.receiver.position + bus.room)
    (hmessage : log[p.receiver.position]? = some h) :
    p.turn bus = ((eventLine? h).toList, ⟨⟨p.receiver.position + 1⟩, h.isEnd⟩) := by
  simp [turn, hgoing, hbus.receive_message hearly hmessage]

theorem turn_empty (hgoing : p.ended = false) (hbus : bus.Carries log)
    (hposition : p.receiver.position = log.length) : p.turn bus = ([], p) := by
  rw [turn, if_neg (by simp [hgoing]), hbus.receive_empty hposition, ← hgoing]

/-- A task that has nothing to do has nothing to do in later turns. -/
theorem turns_idle (hidle : p.turn bus = ([], p)) (count : Nat) : p.turns bus count = ([], p) := by
  induction count with
  | zero => rfl
  | succ count ih => simp [turns, hidle, ih]

/-- A task that has come to its end does not go on. -/
theorem going_of_turns {count : Nat} (hgoing : (p.turns bus count).2.ended = false) :
    p.ended = false := by
  by_contra hended
  rw [turns_idle (turn_ended (by simpa using hended))] at hgoing
  exact hended hgoing

/-- What is missed is missed in the first turn, and the others print nothing either. -/
theorem turns_lagged (hgoing : p.ended = false) (hbus : bus.Carries log)
    (hlate : p.receiver.position + bus.room < log.length) (count : Nat) :
    (p.turns bus (count + 1)).1 = [] ∧ (p.turns bus (count + 1)).2.ended = true := by
  obtain ⟨hnothing, hstop⟩ := turn_lagged hgoing hbus hlate
  simp [turns, hnothing, turns_idle (turn_ended hstop), hstop]

/-- The task has dealt with the first `k` events of a log. It has come to its end only with that of the
log, or where more events come behind those `k` than there is room for. -/
structure Past (p : Printer) (room : Nat) (full : List Happening) (k : Nat) : Prop where
  going : p.ended = false → p.receiver.position = k
  ended : p.ended = true → k = full.length ∨ k + room < full.length

/-- A turn prints the next event, if there is one and none is missed. -/
theorem Past.turn (hpast : p.Past bus.room full k) (hfull : EndsLast full) (hbus : bus.Carries log)
    (hlog : log <+: full) (hk : k ≤ log.length) :
    ∃ k', k' ≤ log.length ∧ (p.turn bus).2.Past bus.room full k' ∧
      (full.take k).filterMap eventLine? ++ (p.turn bus).1 = (full.take k').filterMap eventLine? ∧
      ((p.turn bus).2.ended = false → k' = min (k + 1) log.length) := by
  have hlength := hlog.length_le
  cases hended : p.ended with
  | true =>
    rw [turn_ended hended]
    exact ⟨k, hk, hpast, by simp, by simp [hended]⟩
  | false =>
  obtain rfl := hpast.going hended
  by_cases hlate : p.receiver.position + bus.room < log.length
  · obtain ⟨hnothing, hstop⟩ := turn_lagged hended hbus hlate
    refine ⟨_, hk, ⟨by simp [hstop], fun _ => .inr (by omega)⟩, by simp [hnothing], by simp [hstop]⟩
  · obtain heq | hlt := Nat.eq_or_lt_of_le hk
    · rw [turn_empty hended hbus heq]
      exact ⟨_, hk, hpast, by simp, fun _ => by omega⟩
    · have hmessage : log[p.receiver.position]? = some log[p.receiver.position] :=
        List.getElem?_eq_getElem hlt
      have hsame : full[p.receiver.position]? = some log[p.receiver.position] := by
        obtain ⟨later, rfl⟩ := hlog
        rw [List.getElem?_append_left hlt, hmessage]
      rw [turn_message hended hbus (by omega) hmessage]
      refine ⟨p.receiver.position + 1, hlt, ⟨fun _ => rfl, fun hend => .inl ?_⟩, ?_, fun _ => by omega⟩
      · exact (hfull _ _ hsame).mp hend
      · rw [List.take_add_one, hsame, List.filterMap_append]
        cases heventLine : eventLine? log[p.receiver.position] <;> simp [heventLine]

theorem Past.turns (hpast : p.Past bus.room full k) (hfull : EndsLast full)
    (hbus : bus.Carries log) (hlog : log <+: full) (hk : k ≤ log.length) (count : Nat) :
    ∃ k', k' ≤ log.length ∧ (p.turns bus count).2.Past bus.room full k' ∧
      (full.take k).filterMap eventLine? ++ (p.turns bus count).1 =
        (full.take k').filterMap eventLine? ∧
      ((p.turns bus count).2.ended = false → k' = min (k + count) log.length) := by
  induction count generalizing p k with
  | zero => exact ⟨k, hk, hpast, by simp [Printer.turns], fun _ => by omega⟩
  | succ count ih =>
    obtain ⟨k₁, hk₁, hpast₁, hlines₁, hplace₁⟩ := hpast.turn hfull hbus hlog hk
    obtain ⟨k₂, hk₂, hpast₂, hlines₂, hplace₂⟩ := ih hpast₁ hk₁
    refine ⟨k₂, hk₂, hpast₂, ?_, fun hgoing => ?_⟩
    · simp only [Printer.turns]
      rw [← List.append_assoc, hlines₁, hlines₂]
    · have h₁ := hplace₁ (going_of_turns hgoing)
      have h₂ := hplace₂ hgoing
      omega

end Printer

/-! ### Reports -/

/-- The lines that are printed while the given events are sent, and after them. -/
def report (pace : Nat → Nat) : Bus Happening → Printer → List Happening → List String
  | bus, p, [] => (p.turns bus (bus.kept.length + 1)).1
  | bus, p, h :: later =>
    let next := p.turns (bus.send h) (pace bus.sent)
    next.1 ++ report pace (bus.send h) next.2 later

theorem follow_shows (server : Request → Reply) {d : Disk} (pace : Nat → Nat) (now : Nat)
    (bus : Bus Happening) (p : Printer) (moments : List Moment) :
    Shows server d (follow pace now bus p moments)
      (report pace bus p (moments.map (·.happening))) (.ok ()) := by
  induction moments generalizing now bus p with
  | nil => exact .sayAll _
  | cons m moments ih =>
    have hwait : ∀ {next : Script Unit} {lines : List String},
        Shows server d next lines (.ok ()) → Shows server d (if now < m.time then
          Script.wait (m.time - now) (.done ()) >>= fun _ => next else next) lines (.ok ()) := by
      intro next lines hnext
      split
      · exact Shows.silent rfl hnext
      · exact hnext
    exact hwait ((Shows.sayAll _).bind (ih m.time _ _))

/-- What is printed after the last event is sent. -/
theorem Printer.Past.last (hpast : p.Past bus.room full k) (hfull : EndsLast full)
    (hbus : bus.Carries full) (hk : k ≤ full.length) :
    ∃ k', (k' = full.length ∨ k' + bus.room < full.length) ∧
      (full.take k).filterMap eventLine? ++ (p.turns bus (bus.kept.length + 1)).1 =
        (full.take k').filterMap eventLine? := by
  obtain ⟨k', hk', hpast', hlines, hplace⟩ :=
    hpast.turns hfull hbus (List.prefix_refl full) hk (bus.kept.length + 1)
  refine ⟨k', ?_, hlines⟩
  cases hended : (p.turns bus (bus.kept.length + 1)).2.ended with
  | true => exact hpast'.ended hended
  | false =>
    -- A task that goes on has not fallen behind, and the bus keeps no more than it has turns for.
    left
    have hgoing : p.ended = false := Printer.going_of_turns hended
    have hearly : full.length ≤ k + bus.room := by
      by_contra hlate
      have hstop := (Printer.turns_lagged hgoing hbus (by rw [hpast.going hgoing]; omega)
        bus.kept.length).2
      rw [hended] at hstop
      cases hstop
    have hkept : bus.kept.length = full.length - (full.length - bus.room) := by
      rw [hbus.kept, List.length_drop]
    have := hplace hended
    omega

/-- A task that is past all it gets to print prints no more. -/
theorem Printer.Past.turns_done (hpast : p.Past bus.room full k) (hbus : bus.Carries full)
    (hk : k = full.length ∨ k + bus.room < full.length) (count : Nat) :
    (p.turns bus (count + 1)).1 = [] := by
  cases hended : p.ended with
  | true => rw [Printer.turns_idle (Printer.turn_ended hended)]
  | false =>
    have hposition := hpast.going hended
    obtain heq | hlate := hk
    · rw [Printer.turns_idle (Printer.turn_empty hended hbus (hposition.trans heq))]
    · exact (Printer.turns_lagged hended hbus (by omega) count).1

/-- At any pace, the lines of the first events are printed: of all of them, or of some behind which more
were sent than the bus has room for. -/
theorem report_take (hfull : EndsLast full) (hbus : bus.Carries log) (hsplit : full = log ++ later)
    (hpast : p.Past bus.room full k) (hk : k ≤ log.length) (pace : Nat → Nat) :
    ∃ k', (k' = full.length ∨ k' + bus.room < full.length) ∧
      (full.take k).filterMap eventLine? ++ report pace bus p later =
        (full.take k').filterMap eventLine? := by
  induction later generalizing bus p log k with
  | nil =>
    obtain rfl : full = log := by simpa using hsplit
    exact hpast.last hfull hbus hk
  | cons h later ih =>
    have hsplit' : full = (log ++ [h]) ++ later := by simpa using hsplit
    have hprefix : log ++ [h] <+: full := ⟨later, hsplit'.symm⟩
    have hpast' : p.Past (bus.send h).room full k := hpast
    obtain ⟨k₁, hk₁, hpast₁, hlines₁, -⟩ :=
      hpast'.turns hfull (hbus.send h) hprefix (by simp; omega) (pace bus.sent)
    obtain ⟨k₂, hk₂, hlines₂⟩ := ih (hbus.send h) hsplit' hpast₁ hk₁
    refine ⟨k₂, hk₂, ?_⟩
    rw [report, ← List.append_assoc, hlines₁, hlines₂]

/-- One turn after each of the first events, and none from then on until all are sent. -/
def upTo (k : Nat) : Nat → Nat := fun sent => if sent < k then 1 else 0

/-- At that pace just the first events are printed, if more come than the bus has room for. -/
theorem report_upTo (hfull : EndsLast full) (hbus : bus.Carries log) (hsplit : full = log ++ later)
    (hroom : 0 < bus.room) (hk : k = full.length ∨ k + bus.room < full.length)
    (hposition : p.receiver.position = min log.length k)
    (hended : p.ended = true → log.length = full.length ∧ k = full.length) :
    report (upTo k) bus p later = (later.take (k - log.length)).filterMap eventLine? := by
  induction later generalizing bus p log with
  | nil =>
    obtain rfl : full = log := by simpa using hsplit
    have hpast : p.Past bus.room full k :=
      ⟨fun _ => by omega, fun hend => .inl (hended hend).2⟩
    simp [report, hpast.turns_done hbus hk]
  | cons h later ih =>
    have hsplit' : full = (log ++ [h]) ++ later := by simpa using hsplit
    have hlength : full.length = log.length + 1 + later.length := by
      simp [hsplit]
      omega
    have hgoing : p.ended = false := by
      by_contra hend
      have := (hended (by simpa using hend)).1
      omega
    by_cases hlt : log.length < k
    · have hplace : p.receiver.position = log.length := by omega
      have hmessage : (log ++ [h])[p.receiver.position]? = some h := by simp [hplace]
      have hturn := Printer.turn_message hgoing (hbus.send h) (by simp [hplace]; omega) hmessage
      have hpace : upTo k bus.sent = 1 := by rw [upTo, hbus.sent, if_pos hlt]
      have hend : h.isEnd = true ↔ log.length + 1 = full.length :=
        hfull log.length h (by simp [hsplit])
      have hrest := ih (p := ⟨⟨log.length + 1⟩, h.isEnd⟩) (hbus.send h) hsplit' hroom hk
        (by simp; omega) fun hstop => ⟨by simpa using hend.mp hstop, by have := hend.mp hstop; omega⟩
      obtain ⟨count, hcount⟩ : ∃ count, k - log.length = count + 1 := ⟨k - log.length - 1, by omega⟩
      have hcount' : k - (log ++ [h]).length = count := by simp; omega
      rw [hcount'] at hrest
      rw [report, hpace, hcount, List.take_succ_cons]
      simp only [Printer.turns, hturn, hplace, hrest]
      cases heventLine : eventLine? h <;> simp [heventLine]
    · have hpace : upTo k bus.sent = 0 := by rw [upTo, hbus.sent, if_neg hlt]
      have hrest := ih (p := p) (hbus.send h) hsplit' hroom hk (by simp; omega)
        fun hend => absurd hend (by simp [hgoing])
      have hnone : k - log.length = 0 := by omega
      have hnone' : k - (log ++ [h]).length = 0 := by simp; omega
      rw [hnone'] at hrest
      rw [report, hpace, hnone]
      simpa [Printer.turns] using hrest

end Command
end WorkflowCanvas
