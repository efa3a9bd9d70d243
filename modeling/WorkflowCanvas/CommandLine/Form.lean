/-! The form of a command's arguments: its options, and the files that it takes. The form decides how
arguments are taken apart, and gives the help text. -/
namespace WorkflowCanvas

/-- What the value of an option has to be. -/
inductive ValueKind where
  | text
  /-- Not empty. -/
  | path
  /-- A number below `2 ^ 64`. -/
  | number
  deriving DecidableEq, Repr

namespace ValueKind

/-- A number in decimal digits, with or without a plus sign. -/
def number? (s : String) : Option Nat :=
  let ds := match s.toList with
    | '+' :: ds => ds
    | ds => ds
  if !ds.isEmpty && ds.all Char.isDigit then
    let n := ds.foldl (fun n c => 10 * n + (c.toNat - 48)) 0
    if n < Nat.pow 2 64 then some n else none
  else none

def accepts (kind : ValueKind) (s : String) : Bool :=
  match kind with
  | .text => true
  | .path => s ≠ ""
  | .number => (number? s).isSome

end ValueKind

/-- An option: a switch, or one that takes a value. -/
structure Opt where
  long : String
  short : Option Char := none
  /-- The kind of the value and its name in the help text; a switch has none. -/
  value : Option (ValueKind × String) := none
  about : String := ""
  default : Option String := none
  /-- The variable of the environment that stands in for the option. -/
  environmentName : Option String := none
  required : Bool := false
  /-- Whether the option may be given more than once. -/
  many : Bool := false
  deriving DecidableEq, Repr

structure Form where
  name : String
  about : String
  options : List Opt := []
  /-- What the help text says of the file that is taken, if one is. -/
  file : Option String := none
  deriving DecidableEq, Repr

/-- Arguments that have been taken apart: options with their values, and what else there is. -/
structure Given where
  options : List (String × String) := []
  /-- The file, if it has been given. -/
  others : List String := []
  /-- An option that still waits for its value. -/
  waiting : Option Opt := none
  /-- Whether options are over. -/
  closed : Bool := false
  deriving DecidableEq, Repr

/-- Why taking arguments apart stops. -/
inductive Halt where
  | misuse | help
  deriving DecidableEq, Repr

namespace Given

def has (g : Given) (long : String) : Bool := g.options.any (·.1 == long)

def all (g : Given) (long : String) : List String :=
  (g.options.filter (·.1 == long)).map (·.2)

def value? (g : Given) (long : String) : Option String := g.options.lookup long

/-- Note an option. One that may be given once is not taken twice. -/
def note (g : Given) (o : Opt) (value : String) : Except Halt Given :=
  if g.has o.long && !o.many then .error .misuse
  else
    match o.value with
    | some (kind, _) =>
      if kind.accepts value then
        .ok { g with options := g.options ++ [(o.long, value)], waiting := none }
      else .error .misuse
    | none => .ok { g with options := g.options ++ [(o.long, "")] }

end Given

namespace Form

def helpOption : Opt := { long := "help", short := some 'h', about := "Print help" }

/-- Every command can be asked to say more. -/
def verbose : Opt := { long := "verbose", short := some 'v', about := "Show debug logging" }

/-- Take an option that has no value attached to it. -/
def plain (g : Given) (o : Opt) : Except Halt Given :=
  if o = helpOption then .error .help
  else if o.value.isSome then .ok { g with waiting := some o }
  else g.note o ""

def known (form : Form) : List Opt := form.options ++ [verbose, helpOption]

/-- An option behind two hyphens, with or without its value. -/
def long (form : Form) (g : Given) (cs : List Char) : Except Halt Given :=
  let name := String.ofList (cs.takeWhile (· ≠ '='))
  match form.known.find? (·.long == name), cs.dropWhile (· ≠ '=') with
  | none, _ => .error .misuse
  | some o, [] => plain g o
  | some o, _ :: value =>
    if o.value.isSome then g.note o (String.ofList value) else .error .misuse

/-- Options behind one hyphen. The value of the last one may follow at once. -/
def short (form : Form) (g : Given) : List Char → Except Halt Given
  | [] => .ok g
  | c :: cs =>
    match form.known.find? (·.short == some c) with
    | none => .error .misuse
    | some o =>
      if o.value.isSome then
        match cs with
        | [] => plain g o
        | '=' :: value => g.note o (String.ofList value)
        | value => g.note o (String.ofList value)
      else do short form (← plain g o) cs

/-- Take an argument that is neither an option nor its value: the file, if one is taken. -/
def other (form : Form) (g : Given) (arg : String) : Except Halt Given :=
  if form.file.isSome && g.others.isEmpty && arg ≠ "" then .ok { g with others := [arg] }
  else .error .misuse

/-- Take one more argument. A lone hyphen is a value like any other. -/
def take (form : Form) (g : Given) (arg : String) : Except Halt Given :=
  match g.closed, g.waiting, arg.toList with
  | true, _, _ => form.other g arg
  | false, some _, '-' :: _ :: _ => .error .misuse
  | false, some o, _ => g.note o arg
  | false, none, ['-', '-'] => .ok { g with closed := true }
  | false, none, '-' :: '-' :: cs => form.long g cs
  | false, none, '-' :: c :: cs => form.short g (c :: cs)
  | false, none, _ => form.other g arg

/-- Take all arguments. -/
def read (form : Form) (args : List String) : Except Halt Given := do
  let g ← args.foldlM form.take {}
  if g.waiting.isSome then throw .misuse
  return g

/-! The help text -/

/-- Where a text stands while it is read for a terminal. -/
inductive Reading where
  | text | escape | control | command
  deriving DecidableEq, Repr

/-- A text as it is shown without a terminal: no escape sequences, and no controls but blanks. -/
def unstyled : Reading → List Char → List Char
  | _, [] => []
  | .text, c :: cs =>
    if c = '\x1b' then unstyled .escape cs
    else if c.toNat = 127 ∨ (c.toNat < 32 ∧ ¬ ['\t', '\n', '\x0c', '\r'].contains c) then
      unstyled .text cs
    else c :: unstyled .text cs
  | .escape, c :: cs =>
    if c = '[' then unstyled .control cs
    else if c = ']' then unstyled .command cs
    else if ' ' ≤ c ∧ c ≤ '/' then unstyled .escape cs
    else unstyled .text cs
  | .control, c :: cs => unstyled (if '@' ≤ c ∧ c ≤ '~' then .text else .control) cs
  | .command, c :: cs =>
    unstyled (if c = '\x07' then .text else if c = '\x1b' then .escape else .command) cs

/-- A text with blanks behind it, up to a width. -/
def padded (width : Nat) (s : String) : String :=
  s ++ String.ofList (List.replicate (width - s.length) ' ')

/-- Lines of two columns. A text with line breaks stays in its column. -/
def columns (rows : List (String × String)) : List String :=
  let width := (rows.map (·.1.length)).foldl max 0
  rows.map fun (left, right) =>
    "  " ++ padded (width + 2) left ++ right.replace "\n" ("\n" ++ padded (width + 4) "")

end Form

namespace Opt

/-- How an option is written in the list of options. -/
def shown (o : Opt) : String :=
  (match o.short with
    | some c => "-" ++ String.singleton c ++ ", --"
    | none => "    --")
  ++ o.long
  ++ (match o.value with
    | some (_, name) => s!" <{name}>"
    | none => "")

/-- What is said of an option, given the variables of the environment. -/
def note (o : Opt) (environment : String → Option String) : String :=
  let parts := (if o.about = "" then [] else [o.about])
    ++ (match o.environmentName with
      | some name =>
        let value := Form.unstyled .text ((environment name).getD "").toList
        ["[env: " ++ name ++ "=" ++ String.ofList value ++ "]"]
      | none => [])
    ++ (match o.default with
      | some value => ["[default: " ++ value ++ "]"]
      | none => [])
  " ".intercalate parts

end Opt

namespace Form

def usage (form : Form) (title : String) : String :=
  let required := form.options.filter (·.required)
  "Usage: " ++ title ++ " [OPTIONS]"
    ++ String.join (required.map fun o => " --" ++ o.long ++ (match o.value with
      | some (_, name) => s!" <{name}>"
      | none => ""))
    ++ (if form.file.isSome then " <FILE>" else "")

/-- Options as they are listed: the switch that every command has comes after the first. -/
def listed (form : Form) : List Opt :=
  match form.options with
  | [] => [verbose, helpOption]
  | o :: os => o :: verbose :: os ++ [helpOption]

def help (form : Form) (title : String) (environment : String → Option String) : List String :=
  [form.about, "", form.usage title, ""]
  ++ (match form.file with
    | some about => ["Arguments:"] ++ columns [("<FILE>", about)] ++ [""]
    | none => [])
  ++ ["Options:"] ++ columns (form.listed.map fun o => (o.shown, o.note environment))

end Form
end WorkflowCanvas
