import WorkflowCanvas.CommandLine.Disk
import WorkflowCanvas.Store.Backend

/-! What a command does with the world, as data: a script prints, waits, uses files and sends requests,
and goes on with what comes back. It can be carried out for real or on a disk in memory. -/
namespace WorkflowCanvas

/-- Why a command failed, and what that was caused by. -/
structure Failure where
  message : String
  causes : List String := []
  deriving DecidableEq, Repr

namespace Failure

/-- A cause with every line of it set in. -/
def setIn (cause : String) : String := "    " ++ cause.replace "\n" "\n    "

/-- The failure as it is shown to the user. -/
def lines (f : Failure) : List String :=
  (s!"Error: {f.message}") ::
    if f.causes.isEmpty then [] else "" :: "Caused by:" :: f.causes.map setIn

def ofWorkflow (e : WorkflowError) : Failure := ⟨e.message, []⟩

def ofStore : StoreError → Failure
  | .http fault => ⟨(StoreError.http fault).message, [fault.message]⟩
  | e => ⟨e.message, []⟩

end Failure

inductive Script (α : Type) where
  | done (a : α)
  | fail (f : Failure)
  | print (line : String) (next : Script α)
  | wait (millis : Nat) (next : Script α)
  | read (path : String) (next : Except DiskFault String → Script α)
  | write (path text : String) (next : Except DiskFault Unit → Script α)
  | makeDirs (path : String) (next : Except DiskFault Unit → Script α)
  | send (request : Request) (next : Reply → Script α)

namespace Script
variable {α β : Type}

/-- Go on with another script. -/
def bind (s : Script α) (f : α → Script β) : Script β :=
  match s with
  | done a => f a
  | fail e => fail e
  | print line next => print line (next.bind f)
  | wait millis next => wait millis (next.bind f)
  | read path next => read path fun r => (next r).bind f
  | write path text next => write path text fun r => (next r).bind f
  | makeDirs path next => makeDirs path fun r => (next r).bind f
  | send request next => send request fun r => (next r).bind f

instance : Monad Script where
  pure := done
  bind := bind

/-- Print a line. -/
def say (line : String) : Script Unit := print line (done ())

def sayAll (lines : List String) : Script Unit := lines.forM say

/-- The value, unless there is a failure. -/
def ofExcept {ε : Type} (report : ε → Failure) : Except ε α → Script α
  | .ok a => done a
  | .error e => fail (report e)

/-- The text of a file. A failure is reported under the name of what was tried. -/
def readFile (path : String) : Script String :=
  read path (ofExcept fun e => ⟨s!"reading {path}", [e.message]⟩)

def writeFile (path text : String) : Script Unit :=
  write path text (ofExcept fun e => ⟨e.message, []⟩)

def makeDirectories (path : String) : Script Unit :=
  makeDirs path (ofExcept fun e => ⟨e.message, []⟩)

/-- Make a call. Nothing is sent if its address cannot be used. -/
def call (c : Call α) : Script (Except StoreError α) :=
  match c.request with
  | .error e => done (.error e)
  | .ok request => send request fun reply => done (c.receive reply)

/-- The code with which the program ends, by the result of its command. -/
def exitCode : Except Failure α → UInt32
  | .ok _ => 0
  | .error _ => 1

/-- What is left of a script that was carried out in memory. -/
structure Outcome (α : Type) where
  disk : Disk
  printed : List String
  result : Except Failure α

/-- Carry a script out on a disk in memory, with a server that answers requests. -/
def onDisk (server : Request → Reply) : Disk → Script α → Outcome α
  | d, done a => ⟨d, [], .ok a⟩
  | d, fail f => ⟨d, [], .error f⟩
  | d, print line next =>
    let o := onDisk server d next
    { o with printed := line :: o.printed }
  | d, wait _ next => onDisk server d next
  | d, read path next => onDisk server d (next (d.read path))
  | d, write path text next =>
    match d.write path text with
    | .ok d => onDisk server d (next (.ok ()))
    | .error e => onDisk server d (next (.error e))
  | d, makeDirs path next =>
    match d.makeDirs path with
    | .ok d => onDisk server d (next (.ok ()))
    | .error e => onDisk server d (next (.error e))
  | d, send request next => onDisk server d (next (server request))

end Script
end WorkflowCanvas
