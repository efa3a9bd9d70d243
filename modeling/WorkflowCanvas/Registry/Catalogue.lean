import WorkflowCanvas.Registry.Basic

/-! The built-in node types and the connections between them that are allowed. -/
namespace WorkflowCanvas.Catalogue

def text (key label : String) : FieldSpec := { key, label, kind := .text }
def textarea (key label : String) : FieldSpec := { key, label, kind := .textarea }
def number (key label : String) : FieldSpec := { key, label, kind := .number }
def boolean (key label : String) : FieldSpec := { key, label, kind := .boolean }
def json (key label : String) : FieldSpec := { key, label, kind := .json }
def select (key label : String) (options : List String) : FieldSpec :=
  { key, label, kind := .select, options }

/-- The field, shown only while another setting has the given value. -/
def shownWhen (field : String) (value : Json) (f : FieldSpec) : FieldSpec :=
  { f with visibleWhen := some ⟨field, [value]⟩ }

/-! Triggers: nothing leads into them. -/

def trigger : Definition where
  type := "trigger"
  label := "Manual Trigger"
  description := "Starts the workflow when run from the canvas"
  category := "triggers"
  color := "#22c55e"
  inputs := []
  fields := [{ json "payload" "Test Payload" with default := .obj [] }]
  mockOutput := some (.obj [("triggered", .bool true)])

def webhook : Definition where
  type := "webhook"
  label := "Webhook"
  description := "Starts the workflow on an incoming HTTP request"
  category := "triggers"
  color := "#16a34a"
  inputs := []
  fields := [
    { text "path" "Path" with
      required := true, maxLength := some 200, help := some "Relative path, e.g. /hooks/intake" },
    { select "method" "Method" ["GET", "POST", "PUT"] with default := .str "POST" },
    { boolean "require_signature" "Require Signature" with default := .bool false },
    shownWhen "require_signature" (.bool true)
      { text "secret_header" "Signature Header" with required := true }]
  mockOutput := some (.obj [("body", .obj []), ("headers", .obj [])])

def schedule : Definition where
  type := "schedule"
  label := "Schedule"
  description := "Starts the workflow on a cron schedule"
  category := "triggers"
  color := "#15803d"
  inputs := []
  fields := [
    { text "cron" "Cron Expression" with required := true, default := .str "0 * * * *" },
    { text "timezone" "Timezone" with default := .str "UTC" }]
  mockOutput := some (.obj [("fired_at", .str "1970-01-01T00:00:00Z")])

/-! Agents -/

def agent : Definition where
  type := "agent"
  label := "Agent"
  description := "Runs a configured agent on the incoming data"
  category := "agents"
  color := "#6366f1"
  fields := [
    { text "agent_id" "Agent" with required := true },
    { textarea "instructions" "Instructions" with maxLength := some 4000 },
    { number "max_iterations" "Max Iterations" with
      min := some 1, max := some 50, default := .int 5 }]
  mockOutput := some (.obj [("iterations", .int 1), ("response", .str "Agent completed the task")])

def llm : Definition where
  type := "llm"
  label := "LLM Call"
  description := "Single completion against a configured model"
  category := "agents"
  color := "#8b5cf6"
  fields := [
    { select "provider" "Provider" ["openai", "anthropic", "local"] with
      required := true, default := .str "openai" },
    { text "model" "Model" with required := true },
    shownWhen "provider" (.str "local") { text "endpoint" "Endpoint URL" with required := true },
    { textarea "system_prompt" "System Prompt" with maxLength := some 8000 },
    { number "temperature" "Temperature" with
      min := some 0, max := some 2, default := .num (.float 0.7) },
    { number "max_tokens" "Max Tokens" with min := some 1, default := .int 1024 }]
  mockOutput := some (.obj [("completion", .str "This is a simulated completion."),
    ("tokens", .int 42)])

/-! Logic -/

/-- Branches on an expression, with one handle for each outcome. -/
def condition : Definition where
  type := "condition"
  label := "Condition"
  description := "Routes data down the true or false branch"
  category := "logic"
  color := "#f59e0b"
  outputs := [⟨"true", some "True"⟩, ⟨"false", some "False"⟩]
  fields := [{ text "expression" "Expression" with required := true }]
  mockOutput := some (.obj [("branch", .str "true")])

/-- Waits for a person. -/
def hitl : Definition where
  type := "hitl"
  label := "Human Approval"
  description := "Waits for a person to approve before continuing"
  category := "logic"
  color := "#ec4899"
  fields := [
    { text "approvers" "Approvers" with required := true },
    { textarea "message" "Message" with maxLength := some 2000 },
    { number "timeout_minutes" "Timeout (minutes)" with min := some 1, default := .int 60 },
    { select "on_timeout" "On Timeout" ["approve", "reject"] with default := .str "reject" }]
  mockOutput := some (.obj [("approved", .bool true), ("approver", .str "reviewer")])

def guardrail : Definition where
  type := "guardrail"
  label := "Guardrail"
  description := "Checks data against a guardrail policy"
  category := "logic"
  color := "#ef4444"
  fields := [
    { text "guardrail_id" "Guardrail" with required := true },
    { select "action" "On Violation" ["block", "warn", "redact"] with
      required := true, default := .str "block" }]
  mockOutput := some (.obj [("passed", .bool true), ("violations", .arr [])])

/-! Actions -/

/-- A side effect whose settings depend on its kind. -/
def action : Definition where
  type := "action"
  label := "Action"
  description := "Performs an HTTP call, sends an email or runs a script"
  category := "actions"
  color := "#0ea5e9"
  fields := [
    { select "action_type" "Action Type" ["http", "email", "script"] with
      required := true, default := .str "http" },
    shownWhen "action_type" (.str "http") { text "url" "URL" with required := true },
    shownWhen "action_type" (.str "http")
      { select "method" "Method" ["GET", "POST", "PUT", "DELETE"] with default := .str "POST" },
    shownWhen "action_type" (.str "email") { text "recipient" "Recipient" with required := true },
    shownWhen "action_type" (.str "script") { textarea "script" "Script" with required := true }]
  mockOutput := some (.obj [("status", .str "done")])

def tool : Definition where
  type := "tool"
  label := "Tool Call"
  description := "Invokes a registered tool"
  category := "actions"
  color := "#06b6d4"
  fields := [
    { text "tool_name" "Tool" with required := true },
    { json "arguments" "Arguments" with default := .obj [] }]
  mockOutput := some (.obj [("tool_result", .obj [("ok", .bool true)])])

/-- Reshapes data; it has no mock output of its own. -/
def transform : Definition where
  type := "transform"
  label := "Transform"
  description := "Reshapes data with an expression"
  category := "actions"
  color := "#14b8a6"
  fields := [{ textarea "expression" "Expression" with required := true }]

/-! Outputs: nothing leads out of them. -/

def output : Definition where
  type := "output"
  label := "Output"
  description := "Final result of the workflow"
  category := "outputs"
  color := "#64748b"
  outputs := []
  fields := [{ select "format" "Format" ["json", "text", "markdown"] with default := .str "json" }]
  mockOutput := some (.obj [("delivered", .bool true)])

/-- All built-in types, in the order in which they are offered. -/
def definitions : List Definition :=
  [trigger, webhook, schedule, agent, llm, condition, hitl, guardrail, action, tool, transform,
    output]

/-- For each source type the target types that it may be connected to. -/
def connectionRules : List (String × List String) := [
  ("trigger", ["agent", "llm", "condition", "hitl", "guardrail", "action", "tool", "transform"]),
  ("webhook", ["agent", "llm", "condition", "hitl", "guardrail", "action", "tool", "transform"]),
  ("schedule", ["agent", "llm", "condition", "hitl", "guardrail", "action", "tool", "transform"]),
  ("agent", ["agent", "llm", "condition", "hitl", "guardrail", "action", "tool", "transform",
    "output"]),
  ("llm", ["agent", "llm", "condition", "hitl", "guardrail", "action", "tool", "transform",
    "output"]),
  ("condition", ["agent", "llm", "condition", "hitl", "guardrail", "action", "tool", "transform",
    "output"]),
  ("hitl", ["agent", "llm", "condition", "action", "tool", "transform", "output"]),
  ("guardrail", ["agent", "llm", "hitl", "action", "tool", "transform", "output"]),
  ("action", ["agent", "llm", "condition", "hitl", "action", "transform", "output"]),
  ("tool", ["agent", "llm", "condition", "action", "transform", "output"]),
  ("transform", ["agent", "llm", "condition", "hitl", "guardrail", "action", "tool", "transform",
    "output"]),
  ("output", [])]

/-- Add the built-in types and the connections between them to a registry. -/
def registerAll (r : Registry) : Registry :=
  connectionRules.foldl (fun r (source, targets) => r.allowAll source targets)
    (definitions.foldl Registry.register r)

/-- The registry that holds the built-in types alone. -/
def registry : Registry := registerAll Registry.empty

end WorkflowCanvas.Catalogue
