import WorkflowCanvas.Event.Basic

/-! The bus on which the events of a run are sent. It keeps the newest events; a receiver that has
fallen behind is told how many it missed and goes on with the oldest one kept. -/
namespace WorkflowCanvas

/-- A bus for messages of type `α`: how many it keeps, how many were sent, and those still kept, the
oldest first. -/
structure Bus (α : Type) where
  room : Nat
  sent : Nat := 0
  kept : List α := []

/-- A receiver is known by the number of messages that it has dealt with. -/
structure Receiver where
  position : Nat
  deriving DecidableEq, Repr

/-- What a receiver gets. -/
inductive Received (α : Type) where
  | message (m : α)
  /-- So many messages were lost. -/
  | lagged (count : Nat)
  | empty

namespace Bus
variable {α : Type}

/-- The least power of two that is not below `n`. -/
def powerFrom (n : Nat) : Nat := if n ≤ 1 then 1 else Nat.pow 2 (Nat.log2 (n - 1) + 1)

/-- A bus with room for at least `capacity` messages, and for one. Capacities are below `2 ^ 63`: there is
no bus with more room than that. -/
def withCapacity (capacity : Nat) : Bus α := { room := powerFrom capacity }

def send (bus : Bus α) (m : α) : Bus α :=
  let kept := bus.kept ++ [m]
  { bus with sent := bus.sent + 1, kept := kept.drop (kept.length - bus.room) }

/-- A receiver of the messages from now on. -/
def subscribe (bus : Bus α) : Receiver := ⟨bus.sent⟩

/-- The next thing for a receiver, and the receiver after it. -/
def receive (bus : Bus α) (r : Receiver) : Received α × Receiver :=
  let oldest := bus.sent - bus.kept.length
  if r.position < oldest then (.lagged (oldest - r.position), ⟨oldest⟩)
  else
    match bus.kept[r.position - oldest]? with
    | some m => (.message m, ⟨r.position + 1⟩)
    | none => (.empty, r)

/-- Everything that is there for a receiver. -/
def drain (bus : Bus α) (r : Receiver) : List (Received α) × Receiver :=
  let oldest := bus.sent - bus.kept.length
  let notice := if r.position < oldest then [.lagged (oldest - r.position)] else []
  (notice ++ (bus.kept.drop (r.position - oldest)).map .message, bus.subscribe)

/-- The bus after a whole log of messages. -/
def sendAll (bus : Bus α) (log : List α) : Bus α :=
  let kept := bus.kept ++ log
  { bus with sent := bus.sent + log.length, kept := kept.drop (kept.length - bus.room) }

end Bus
end WorkflowCanvas
