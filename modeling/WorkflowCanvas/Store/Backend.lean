import WorkflowCanvas.Store.Basic
import WorkflowCanvas.Web.Url

/-! The store behind a web address. Listing and saving are calls: one request, and the reading of the
reply to it. -/
namespace WorkflowCanvas

inductive Method where
  | get | put | post
  deriving DecidableEq, Repr

def Method.name : Method → String
  | .get => "GET"
  | .put => "PUT"
  | .post => "POST"

structure Request where
  method : Method
  url : Url
  body : Option Json := none

/-- What comes back: nothing if the server cannot be reached, or else a status and a text. -/
inductive Reply where
  | down
  | answer (status : Nat) (body : String)
  deriving DecidableEq, Repr

namespace Reply

/-- Replies with these statuses have no body. -/
def bare (status : Nat) : Bool := status == 101 || status == 204 || status == 304

/-- Whether a status has three digits and ends an exchange. The first statuses announce that a reply is to
come, all but the one that changes the protocol. -/
def isFinal (status : Nat) : Bool := status == 101 || (200 ≤ status && status ≤ 999)

/-- A text without the mark of byte order that may stand before it. -/
def unmarked (body : String) : String :=
  match body.toList with
  | '\ufeff' :: rest => String.ofList rest
  | _ => body

/-- The body of a reply that reports success. -/
def body : Reply → Except StoreError String
  | .down => .error (.http .connect)
  | .answer status text =>
    let text := if bare status then "" else text
    if !isFinal status then .error (.http .other)
    else if 200 ≤ status ∧ status ≤ 299 then .ok text
    else .error (.status status (unmarked text))

end Reply

/-- A request, unless its address cannot be used, and the reading of a reply's body. -/
structure Call (α : Type) where
  address : String
  method : Method
  content : Option Json := none
  read : String → Option α

namespace Call
variable {α : Type}

def request (call : Call α) : Except StoreError Request :=
  match Url.parse? call.address with
  | some url => .ok ⟨call.method, url, call.content⟩
  | none => .error (.http .address)

def receive (call : Call α) (reply : Reply) : Except StoreError α := do
  match call.read (← reply.body) with
  | some a => return a
  | none => throw (.http .decode)

/-- The outcome of the call over a connection. -/
def run (call : Call α) (send : Request → Reply) : Except StoreError α := do
  call.receive (send (← call.request))

end Call

/-- A server by its address. -/
structure Backend where
  address : String
  deriving DecidableEq, Repr

namespace Backend

/-- The address without slashes at its end. -/
def base (b : Backend) : String :=
  String.ofList (b.address.toList.reverse.dropWhile (· == '/')).reverse

def collection (b : Backend) : String := b.base ++ "/orchestrator/pipelines"

/-- The records of a body: a list of them, or an object with such a list under `pipelines`. -/
def readList (body : String) : Option (List Record) :=
  let records := Reader.list Record.reader
  let read {α : Type} (r : Reader α) : Option α := (Scan.whole r.ofText body).toOption
  match Json.parse body with
  | .ok (.arr _) => read records
  | .ok (.obj _) => read (.record "struct PipelineList" (.required "pipelines" records))
  | _ => none

def list (b : Backend) : Call (List Record) where
  address := b.collection
  method := .get
  read := readList

/-- Save a record: under its id, or as a new one. -/
def save (b : Backend) (r : Record) : Call Record where
  address := match r.id with
    | some id => b.collection ++ "/" ++ id
    | none => b.collection
  method := if r.id.isSome then .put else .post
  content := some r.toJson
  read body := (Record.parse body).toOption

end Backend
end WorkflowCanvas
