import WorkflowCanvas.CommandLine.Program

/-! The command line program: scripts carried out for real. There is no way to a server, so that every
request finds its server down. -/
namespace WorkflowCanvas

/-- The fault behind an error of the file system. -/
def DiskFault.ofError : IO.Error → DiskFault
  | .noFileOrDirectory .. => .notFound
  | .alreadyExists .. => .fileExists
  | .inappropriateType .. => .isDirectory
  | .invalidArgument _ 36 _ => .nameTooLong
  | e => .other (toString e)

def attempted {α : Type} (action : IO α) : IO (Except DiskFault α) := do
  try return .ok (← action)
  catch e => return .error (DiskFault.ofError e)

/-- Carry a script out. -/
def Script.perform {α : Type} : Script α → IO (Except Failure α)
  | .done a => return .ok a
  | .fail f => return .error f
  | .print line next => do
    IO.println line
    next.perform
  | .wait millis next => do
    IO.sleep (UInt32.ofNat millis)
    next.perform
  | .read path next => do (next (← attempted (IO.FS.readFile path))).perform
  | .write path text next => do (next (← attempted (IO.FS.writeFile path text))).perform
  | .makeDirs path next => do (next (← attempted (IO.FS.createDirAll path))).perform
  | .send _ next => (next .down).perform

/-- Random numbers, one for each step of a run. -/
def drawn (seed : Nat) (step : Nat) : Nat :=
  (randNat (mkStdGen (seed + step)) 0 (Nat.pow 2 30)).1

def Session.start : IO Session := do
  let value ← IO.rand 0 (Nat.pow 2 128 - 1)
  let seed ← IO.rand 0 (Nat.pow 2 30)
  return { stamp := toString (← IO.monoMsNow), execution := ⟨BitVec.ofNat 128 value⟩, chance := drawn seed }

end WorkflowCanvas

open WorkflowCanvas in
def main (args : List String) : IO UInt32 := do
  match Command.parse (← IO.getEnv Command.apiVariable) args with
  | .misuse =>
    Command.topHelp.forM (IO.eprintln ·)
    return 2
  | .help lines =>
    lines.forM (IO.println ·)
    return 0
  | .command command =>
    let result ← (command.script (← Session.start)).perform
    if let .error f := result then f.lines.forM (IO.eprintln ·)
    return Script.exitCode result
