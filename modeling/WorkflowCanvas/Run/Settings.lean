import WorkflowCanvas.Json.Fields

/-! The settings of runs. -/
namespace WorkflowCanvas

/-- What a run does after a node has failed. -/
inductive ErrorHandling where
  | stop | carryOn
  deriving DecidableEq, Repr

/-- What a run does with nodes that a cycle holds back: leave them out, or refuse to start. -/
inductive CyclePolicy where
  | skip | reject
  deriving DecidableEq, Repr

def ErrorHandling.named : List (String × ErrorHandling) :=
  [("StopWorkflow", .stop), ("ContinueOnError", .carryOn)]

def ErrorHandling.name : ErrorHandling → String
  | .stop => "StopWorkflow"
  | .carryOn => "ContinueOnError"

def CyclePolicy.named : List (String × CyclePolicy) := [("Skip", .skip), ("Reject", .reject)]

def CyclePolicy.name : CyclePolicy → String
  | .skip => "Skip"
  | .reject => "Reject"

/-- How runs go. Times are in milliseconds, and are read as counts of 64 bits. -/
structure RunSettings where
  minDelay : Nat := 300
  maxDelay : Nat := 800
  stepTimeout : Option Nat := none
  onError : ErrorHandling := .stop
  onCycle : CyclePolicy := .skip
  eventRoom : Nat := 1000
  deriving DecidableEq, Repr

namespace RunSettings

def toJson (s : RunSettings) : Json := .obj
  [("min_delay_ms", .nat s.minDelay), ("max_delay_ms", .nat s.maxDelay),
    ("step_timeout_ms", .orNull (s.stepTimeout.map .nat)), ("on_error", .str s.onError.name),
    ("on_cycle", .str s.onCycle.name), ("event_buffer_size", .nat s.eventRoom)]

def reader : Reader RunSettings :=
  .record "struct SimulatorConfig" <| RunSettings.mk
    <$> .required "min_delay_ms" (.natural "u64")
    <*> .required "max_delay_ms" (.natural "u64")
    <*> .lacking "step_timeout_ms" (.natural "u64")
    <*> .required "on_error" (.variant ErrorHandling.named)
    <*> .required "on_cycle" (.variant CyclePolicy.named)
    <*> .required "event_buffer_size" (.natural "usize")

end RunSettings
end WorkflowCanvas
