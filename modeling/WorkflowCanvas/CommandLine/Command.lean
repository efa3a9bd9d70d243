import WorkflowCanvas.CommandLine.Form
import WorkflowCanvas.Run.Settings

/-! The commands, and how they are read from arguments. -/
namespace WorkflowCanvas

/-- What a run of a pipeline file is asked for. -/
structure RunRequest where
  file : String
  input : Option String := none
  minDelay : Nat := 300
  maxDelay : Nat := 800
  failing : List String := []
  continueOnError : Bool := false
  strict : Bool := false
  deriving DecidableEq, Repr

inductive Command where
  | run (request : RunRequest)
  | validate (file : String)
  | order (file : String)
  | nodes
  | init (output : String)
  | pull (api dir : String)
  | push (api file : String)
  deriving DecidableEq, Repr

/-- What arguments ask for. -/
inductive Asked where
  | command (command : Command)
  | help (lines : List String)
  | misuse
  deriving DecidableEq, Repr

namespace Command

def apiVariable : String := "AGENT_OS_API_URL"

def apiOption : Opt :=
  { long := "api", value := some (.text, "API"), environmentName := some apiVariable, required := true }

def fileAbout : String := "Path to pipeline JSON file"

def forms : List Form := [
  { name := "run"
    about := "Simulate a run over a pipeline file"
    options := [
      { long := "file", short := some 'f', value := some (.path, "FILE"), about := fileAbout
        required := true },
      { long := "input", short := some 'i', value := some (.text, "INPUT")
        about := "Initial input for root nodes, as a JSON string" },
      { long := "min-delay-ms", value := some (.number, "MIN_DELAY_MS"), default := some "300" },
      { long := "max-delay-ms", value := some (.number, "MAX_DELAY_MS"), default := some "800" },
      { long := "fail", value := some (.text, "FAIL"), about := "Node ids that should fail"
        many := true },
      { long := "continue-on-error", about := "Keep running after a node fails" },
      { long := "strict", about := "Refuse to run graphs with cycles" }] },
  { name := "validate", about := "Validate node configs and graph structure"
    file := some fileAbout },
  { name := "order", about := "Print the execution order", file := some fileAbout },
  { name := "nodes", about := "List available node types" },
  { name := "init"
    about := "Create an example pipeline file"
    options := [{ long := "output", short := some 'o', value := some (.path, "OUTPUT")
                  default := some "pipeline.json" }] },
  { name := "pull"
    about := "Download pipelines from the backend"
    options := [apiOption,
      { long := "dir", short := some 'd', value := some (.path, "DIR")
        about := "Directory to write pipeline files into", default := some "." }] },
  { name := "push", about := "Save a pipeline file to the backend", options := [apiOption]
    file := some "" }]

/-- The form of what stands before the name of a command. -/
def top : Form := { name := "canvas", about := "Workflow canvas CLI" }

/-- The value of an option, or its default. -/
def valueOf (form : Form) (g : Given) (long : String) : Option String :=
  (g.value? long) <|> ((form.options.find? (·.long == long)).bind (·.default))

def number (form : Form) (g : Given) (long : String) : Option Nat :=
  (valueOf form g long).bind ValueKind.number?

/-- The command of a form, if nothing is missing. -/
def ofGiven (api : Option String) (form : Form) (g : Given) : Option Command :=
  let api := g.value? "api" <|> api
  let file := g.others.head?
  match form.name with
  | "run" => do
    return run {
      file := ← g.value? "file"
      input := g.value? "input"
      minDelay := ← number form g "min-delay-ms"
      maxDelay := ← number form g "max-delay-ms"
      failing := g.all "fail"
      continueOnError := g.has "continue-on-error"
      strict := g.has "strict" }
  | "validate" => return validate (← file)
  | "order" => return order (← file)
  | "nodes" => some nodes
  | "init" => return init (← valueOf form g "output")
  | "pull" => return pull (← api) (← valueOf form g "dir")
  | "push" => return push (← api) (← file)
  | _ => none

def helpAbout : String := "Print this message or the help of the given subcommand(s)"

/-- The help text of the command that prints help texts. -/
def helpHelp : List String :=
  [helpAbout, "", "Usage: canvas help [COMMAND]...", "", "Arguments:"]
  ++ Form.columns [("[COMMAND]...", "Print help for the subcommand(s)")]

/-- The help text of the whole program. -/
def topHelp : List String :=
  [top.about, "", "Usage: canvas [OPTIONS] <COMMAND>", "", "Commands:"]
  ++ Form.columns (forms.map (fun form => (form.name, form.about)) ++ [("help", helpAbout)])
  ++ ["", "Options:"]
  ++ Form.columns (top.listed.map fun o => (o.shown, o.about))

def helpOf (api : Option String) (form : Form) : List String :=
  form.help s!"canvas {form.name}" fun name => if name = apiVariable then api else none

/-- Read the arguments of the command that a form is for. -/
def parseRest (api : Option String) (form : Form) (args : List String) : Asked :=
  match form.read args with
  | .error .help => .help (helpOf api form)
  | .error .misuse => .misuse
  | .ok g =>
    match ofGiven api form g with
    | some command => .command command
    | none => .misuse

/-- What is asked for by `help` and the names behind it. -/
def parseHelp (api : Option String) : List String → Asked
  | [] => .help topHelp
  | ["help"] => .help helpHelp
  | [name] =>
    match forms.find? (·.name == name) with
    | some form => .help (helpOf api form)
    | none => .misuse
  | _ => .misuse

/-- Whether an argument may stand before the name of a command. -/
def isOption (arg : String) : Bool := arg.startsWith "-" && arg ≠ "-"

/-- Read all arguments, where `api` is the address that the environment gives. -/
def parse (api : Option String) (args : List String) : Asked :=
  match top.read (args.takeWhile isOption) with
  | .error .help => .help topHelp
  | .error .misuse => .misuse
  | .ok before =>
    match before.closed, args.dropWhile isOption with
    | false, "help" :: names => parseHelp api names
    | false, name :: rest =>
      match forms.find? (·.name == name) with
      | some form => parseRest api form rest
      | none => .misuse
    | _, _ => .misuse

end Command
end WorkflowCanvas
