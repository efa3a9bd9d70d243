import WorkflowCanvas.Record

/-! Stores of pipeline records, and the store that keeps them in memory. -/
namespace WorkflowCanvas

/-- What can go wrong between a store and its server. -/
inductive HttpFault where
  /-- The address cannot be used. -/
  | address
  | connect
  /-- The answer is not what was asked for. -/
  | decode
  | other
  deriving DecidableEq, Repr

def HttpFault.message : HttpFault → String
  | .address => "builder error"
  | .connect => "error sending request"
  | .decode => "error decoding response body"
  | .other => "request failed"

/-- Why records could not be listed or saved. -/
inductive StoreError where
  | http (fault : HttpFault)
  | status (code : Nat) (body : String)
  | notFound (id : String)
  deriving DecidableEq, Repr

def StoreError.message : StoreError → String
  | .http fault => s!"HTTP error: {fault.message}"
  | .status code body => s!"Backend returned {code}: {body}"
  | .notFound id => s!"Pipeline not found: {id}"

/-- The records of a list, or none if it could not be got. -/
def listOrEmpty (listed : Except StoreError (List Record)) : List Record :=
  match listed with
  | .ok records => records
  | .error _ => []

/-- Records kept in memory, in the order in which they were first saved. -/
structure MemoryStore where
  records : List Record := []

namespace MemoryStore

def list (s : MemoryStore) : List Record := s.records

/-- Put a record in the place of the first one with its id. -/
def replace (id : String) (r : Record) : List Record → Option (List Record)
  | [] => none
  | old :: rest =>
    if old.id = some id then some (r :: rest) else (replace id r rest).map (old :: ·)

/-- Save a record: under the id `fresh` if it has none, and else in the place of the record that has
its id. -/
def save (s : MemoryStore) (fresh : String) (r : Record) : Except StoreError (Record × MemoryStore) :=
  match r.id with
  | none =>
    let saved := { r with id := some fresh }
    .ok (saved, ⟨s.records ++ [saved]⟩)
  | some id =>
    match replace id r s.records with
    | some records => .ok (r, ⟨records⟩)
    | none => .error (.notFound id)

end MemoryStore
end WorkflowCanvas
