import WorkflowCanvas.Event.Bus
import Mathlib.Algebra.Order.Ring.Nat
import Mathlib.Order.Bounds.Basic

/-! What a bus keeps of the messages sent on it, and what a receiver gets that reads until there is
nothing more. -/
namespace WorkflowCanvas.Bus
variable {α : Type} {bus bus' : Bus α} {log : List α} {r r' : Receiver}
  {received : List (Received α)}

/-! ### The room -/

theorem powerFrom_eq_two_pow (n : Nat) : ∃ k, powerFrom n = 2 ^ k := by
  unfold powerFrom
  split
  · exact ⟨0, rfl⟩
  · exact ⟨_, rfl⟩

theorem le_powerFrom (n : Nat) : n ≤ powerFrom n := by
  unfold powerFrom
  split
  · assumption
  · have hlt : n - 1 < 2 ^ ((n - 1).log2 + 1) := Nat.lt_log2_self
    change n ≤ 2 ^ ((n - 1).log2 + 1)
    omega

theorem powerFrom_pos (n : Nat) : 0 < powerFrom n := by
  obtain ⟨k, hk⟩ := powerFrom_eq_two_pow n
  rw [hk]
  exact Nat.two_pow_pos k

theorem powerFrom_le {n k : Nat} (h : n ≤ 2 ^ k) : powerFrom n ≤ 2 ^ k := by
  unfold powerFrom
  split
  · exact Nat.one_le_two_pow
  · next hn =>
    have hlog : (n - 1).log2 < k := (Nat.log2_lt (by omega)).mpr (by omega)
    exact Nat.pow_le_pow_right Nat.two_pos hlog

/-- A bus has the room of the least power of two that is enough, and room for one message always. -/
theorem withCapacity_room (capacity : Nat) :
    IsLeast {room | max capacity 1 ≤ room ∧ ∃ k, room = 2 ^ k}
      (withCapacity capacity : Bus α).room := by
  refine ⟨⟨max_le (le_powerFrom capacity) (powerFrom_pos capacity), powerFrom_eq_two_pow capacity⟩, ?_⟩
  rintro room ⟨hroom, k, rfl⟩
  exact powerFrom_le ((le_max_left capacity 1).trans hroom)

/-! ### Sending -/

/-- A bus has carried the messages of a log: it has counted them all and kept the newest. -/
structure Carries (bus : Bus α) (log : List α) : Prop where
  sent : bus.sent = log.length
  kept : bus.kept = log.drop (log.length - bus.room)

theorem withCapacity_carries (capacity : Nat) : (withCapacity capacity : Bus α).Carries [] :=
  ⟨rfl, List.drop_nil.symm⟩

@[simp] theorem send_room (bus : Bus α) (m : α) : (bus.send m).room = bus.room := rfl

@[simp] theorem sendAll_room (bus : Bus α) (log : List α) : (bus.sendAll log).room = bus.room := rfl

/-- The newest of all messages are among the newest of some and the later ones. -/
theorem drop_newest (log later : List α) (room : Nat) :
    (log.drop (log.length - room) ++ later).drop
      ((log.drop (log.length - room) ++ later).length - room) =
    (log ++ later).drop ((log ++ later).length - room) := by
  have hlength : (log.drop (log.length - room) ++ later).length =
      (log ++ later).length - (log.length - room) := by
    simp only [List.length_append, List.length_drop]
    omega
  have hdrop : log.drop (log.length - room) ++ later =
      (log ++ later).drop (log.length - room) :=
    (List.drop_append_of_le_length (Nat.sub_le _ _)).symm
  rw [hlength, hdrop, List.drop_drop]
  congr 1
  simp only [List.length_append]
  omega

namespace Carries

theorem sendAll (h : bus.Carries log) (later : List α) :
    (bus.sendAll later).Carries (log ++ later) where
  sent := by simp [Bus.sendAll, h.sent]
  kept := by
    simp only [Bus.sendAll, h.kept]
    exact drop_newest log later bus.room

theorem send (h : bus.Carries log) (m : α) : (bus.send m).Carries (log ++ [m]) := h.sendAll [m]

/-- The log and the room of a bus say all about it. -/
theorem unique (h : bus.Carries log) (h' : bus'.Carries log) (hroom : bus.room = bus'.room) :
    bus = bus' := by
  obtain ⟨room, sent, kept⟩ := bus
  obtain ⟨room', sent', kept'⟩ := bus'
  obtain rfl : room = room' := hroom
  obtain rfl : sent = sent' := h.sent.trans h'.sent.symm
  obtain rfl : kept = kept' := h.kept.trans h'.kept.symm
  rfl

/-- A whole log is sent message by message. -/
theorem foldl_send (h : bus.Carries log) (later : List α) :
    later.foldl Bus.send bus = bus.sendAll later := by
  have hfold : ∀ (later log : List α) (bus : Bus α), bus.Carries log →
      (later.foldl Bus.send bus).Carries (log ++ later) ∧
      (later.foldl Bus.send bus).room = bus.room := by
    intro later
    induction later with
    | nil => exact fun log bus h => ⟨by simpa using h, rfl⟩
    | cons m later ih =>
      intro log bus h
      obtain ⟨hcarries, hroom⟩ := ih _ _ (h.send m)
      exact ⟨by simpa using hcarries, hroom⟩
  obtain ⟨hcarries, hroom⟩ := hfold later log bus h
  exact hcarries.unique (h.sendAll later) hroom

theorem oldest (h : bus.Carries log) : bus.sent - bus.kept.length = log.length - bus.room := by
  rw [h.sent, h.kept, List.length_drop]
  omega

/-! ### Receiving -/

/-- A receiver that has fallen behind goes on with the oldest message kept. -/
theorem receive_lagged (h : bus.Carries log) (hlate : r.position + bus.room < log.length) :
    bus.receive r =
      (.lagged (log.length - bus.room - r.position), ⟨log.length - bus.room⟩) := by
  simp only [Bus.receive, h.oldest]
  rw [if_pos (by omega)]

theorem getElem?_kept (h : bus.Carries log) (hearly : log.length ≤ r.position + bus.room) :
    bus.kept[r.position - (log.length - bus.room)]? = log[r.position]? := by
  rw [h.kept, List.getElem?_drop]
  congr 1
  omega

/-- A receiver that has not fallen behind gets the message at its position. -/
theorem receive_message (h : bus.Carries log) (hearly : log.length ≤ r.position + bus.room) {m : α}
    (hmessage : log[r.position]? = some m) :
    bus.receive r = (.message m, ⟨r.position + 1⟩) := by
  simp only [Bus.receive, h.oldest, h.getElem?_kept hearly, hmessage]
  exact if_neg (by omega)

theorem receive_empty (h : bus.Carries log) (hposition : r.position = log.length) :
    bus.receive r = (.empty, r) := by
  have hnone : log[r.position]? = none := by simp [hposition]
  simp only [Bus.receive, h.oldest, h.getElem?_kept (r := r) (by omega), hnone]
  exact if_neg (by omega)

end Carries

/-- What a receiver gets that reads until there is nothing more, and how far it is then. -/
inductive Reads (bus : Bus α) : Receiver → List (Received α) → Receiver → Prop where
  | done {r : Receiver} (h : bus.receive r = (.empty, r)) : Reads bus r [] r
  | next {r next last : Receiver} {x : Received α} {rest : List (Received α)}
    (h : bus.receive r = (x, next)) (hx : x ≠ .empty) (hrest : Reads bus next rest last) :
    Reads bus r (x :: rest) last

theorem Reads.unique {first second : List (Received α)} {last last' : Receiver}
    (h : bus.Reads r first last) (h' : bus.Reads r second last') : first = second ∧ last = last' := by
  induction h generalizing second with
  | done hempty =>
    cases h' with
    | done => exact ⟨rfl, rfl⟩
    | next hx hne => exact absurd (Prod.mk.inj (hx.symm.trans hempty)).1 hne
  | next hx hne _ ih =>
    cases h' with
    | done hempty => exact absurd (Prod.mk.inj (hx.symm.trans hempty)).1 hne
    | next hy _ hrest =>
      obtain ⟨rfl, rfl⟩ := Prod.mk.inj (hx.symm.trans hy)
      obtain ⟨rfl, rfl⟩ := ih hrest
      exact ⟨rfl, rfl⟩

namespace Carries

/-- From a place that the bus still keeps, a receiver reads all that is behind it. -/
theorem reads_rest (h : bus.Carries log) (hearly : log.length ≤ r.position + bus.room)
    (hr : r.position ≤ log.length) :
    bus.Reads r ((log.drop r.position).map .message) ⟨log.length⟩ := by
  -- By the number of messages that are left to read.
  induction hleft : log.length - r.position generalizing r with
  | zero =>
    obtain ⟨position⟩ := r
    obtain rfl : position = log.length := by
      change log.length - position = 0 at hleft
      exact Nat.le_antisymm hr (by omega)
    rw [List.drop_length]
    exact .done (h.receive_empty rfl)
  | succ left ih =>
    have hlt : r.position < log.length := by omega
    rw [List.drop_eq_getElem_cons hlt, List.map_cons]
    have hreceive := h.receive_message hearly (List.getElem?_eq_getElem hlt)
    exact .next hreceive nofun (ih (by change _ ≤ r.position + 1 + _; omega) hlt
      (by change _ - (r.position + 1) = _; omega))

/-- A receiver that reads to the end is told first how many of the messages since its last one are
lost, if there are any, and then gets all others. -/
theorem reads_iff (h : bus.Carries log) (hr : r.position ≤ log.length) :
    bus.Reads r received r' ↔
      received = (if 0 < log.length - r.position - bus.room
          then [.lagged (log.length - r.position - bus.room)] else [])
        ++ ((log.drop r.position).drop (log.length - r.position - bus.room)).map .message ∧
      r' = ⟨log.length⟩ := by
  suffices hreads : bus.Reads r ((if 0 < log.length - r.position - bus.room
          then [.lagged (log.length - r.position - bus.room)] else [])
        ++ ((log.drop r.position).drop (log.length - r.position - bus.room)).map .message)
      ⟨log.length⟩ by
    constructor
    · exact fun hreceived => hreceived.unique hreads
    · rintro ⟨rfl, rfl⟩
      exact hreads
  rw [List.drop_drop]
  by_cases hlate : r.position + bus.room < log.length
  · have hlost : log.length - bus.room - r.position = log.length - r.position - bus.room := by omega
    have hplace : r.position + (log.length - r.position - bus.room) = log.length - bus.room := by
      omega
    have hreceive := h.receive_lagged hlate
    rw [hlost] at hreceive
    rw [if_pos (by omega), hplace]
    exact .next hreceive nofun (h.reads_rest (by change _ ≤ log.length - bus.room + _; omega)
      (Nat.sub_le _ _))
  · have hlost : log.length - r.position - bus.room = 0 := by omega
    rw [hlost, if_neg (Nat.lt_irrefl 0), Nat.add_zero]
    exact h.reads_rest (by omega) hr

/-- One who subscribes before a log is sent and reads only after it gets the newest messages of it. -/
theorem reads_sendAll (h : bus.Carries log) (later : List α) :
    (bus.sendAll later).Reads bus.subscribe received r' ↔
      received = (if 0 < later.length - bus.room
          then [.lagged (later.length - bus.room)] else [])
        ++ (later.drop (later.length - bus.room)).map .message ∧
      r' = (bus.sendAll later).subscribe := by
  have hposition : bus.subscribe.position = log.length := h.sent
  have hlast : (bus.sendAll later).subscribe = ⟨(log ++ later).length⟩ :=
    congrArg Receiver.mk (h.sendAll later).sent
  have hlength : (log ++ later).length - log.length = later.length := by simp
  rw [(h.sendAll later).reads_iff (by simp [hposition]), hposition, hlast, hlength, sendAll_room,
    List.drop_left]

/-- All that is there for a receiver is what it gets when it reads to the end. -/
theorem reads_drain (h : bus.Carries log) (hr : r.position ≤ log.length) :
    bus.Reads r (bus.drain r).1 (bus.drain r).2 := by
  rw [h.reads_iff hr]
  refine ⟨?_, congrArg Receiver.mk h.sent⟩
  have hnotice : (if r.position < bus.sent - bus.kept.length then
      [Received.lagged (bus.sent - bus.kept.length - r.position)] else []) =
      (if 0 < log.length - r.position - bus.room
        then [.lagged (log.length - r.position - bus.room)] else [] : List (Received α)) := by
    rw [h.oldest]
    have hlost : log.length - bus.room - r.position = log.length - r.position - bus.room := by omega
    rw [hlost]
    exact if_congr (by omega) rfl rfl
  have hrest : bus.kept.drop (r.position - (bus.sent - bus.kept.length)) =
      (log.drop r.position).drop (log.length - r.position - bus.room) := by
    rw [h.oldest, h.kept, List.drop_drop, List.drop_drop]
    congr 1
    omega
  simp only [Bus.drain, hnotice, hrest]

end Carries
end WorkflowCanvas.Bus
