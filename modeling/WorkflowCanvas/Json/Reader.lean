import WorkflowCanvas.Json.Parser
import WorkflowCanvas.Text.Literal

/-! Readers of typed values. A reader says how a value is got from a JSON value, and how it is got
straight from JSON text, where the first thing that is wrong in the order of the text is the one
that is reported. Records are read field by field, from an object or from a list of the fields. -/
namespace WorkflowCanvas

def Found.describe : Found → String
  | .null => "null"
  | .bool true => "boolean `true`"
  | .bool false => "boolean `false`"
  | .integer value => s!"integer `{value}`"
  | .float value => s!"floating point `{Number.floatText value}`"
  | .text value => s!"string {Text.literal value}"
  | .sequence => "sequence"
  | .map => "map"

/-- The names a variant may have. -/
def Misfit.choices : List String → String
  | [one] => s!"`{one}`"
  | [one, two] => s!"`{one}` or `{two}`"
  | names => "one of " ++ ", ".intercalate (names.map fun name => s!"`{name}`")

def Misfit.message : Misfit → String
  | .wrongType found expected => s!"invalid type: {found.describe}, expected {expected}"
  | .wrongValue found expected => s!"invalid value: {found.describe}, expected {expected}"
  | .wrongLength count expected => s!"invalid length {count}, expected {expected}"
  | .missing field => s!"missing field `{field}`"
  | .repeated field => s!"duplicate field `{field}`"
  | .unknownVariant name known => s!"unknown variant `{name}`, expected {choices known}"
  | .other reason => reason

def TextFault.message : TextFault → String
  | .malformed fault => fault.message
  | .unfit misfit => misfit.message

def TextError.message (e : TextError) : String :=
  s!"{e.fault.message} at line {e.position.line} column {e.position.column}"

/-- What a value is, for the report that it does not fit. -/
def Json.found : Json → Found
  | .null => .null
  | .bool value => .bool value
  | .num (.int value) => .integer value
  | .num (.float value) => .float value
  | .str value => .text value
  | .arr _ => .sequence
  | .obj _ => .map

/-- How a value of type `α` is read. -/
structure Reader (α : Type) where
  ofJson : Json → Except Misfit α
  ofText : Scan α

namespace Reader
variable {α β : Type}

def map (f : α → β) (r : Reader α) : Reader β where
  ofJson j := (r.ofJson j).map f
  ofText c := (r.ofText c).map fun (a, c) => (f a, c)

/-- A value of another kind stands at the cursor. A scalar is read to its end before it is refused;
a bracket is not opened. -/
def refuse (expected : String) : Scan α := fun c =>
  let c := c.skipBlank
  match c.peek? with
  | some '[' => c.unfit (.wrongType .sequence expected)
  | some '{' => c.unfit (.wrongType .map expected)
  | _ => do
    let (j, c) ← Scan.json c
    c.unfit (.wrongType j.found expected)

/-- Any value. -/
def json : Reader Json := ⟨.ok, Scan.json⟩

/-- A value that is judged once it has been read. -/
def judged (judge : Json → Except Misfit α) : Reader α where
  ofJson := judge
  ofText c := do
    let (j, c) ← Scan.json c
    match judge j with
    | .ok a => return (a, c)
    | .error misfit => c.unfit misfit

/-- A text. -/
def text : Reader String where
  ofJson
    | .str s => .ok s
    | j => .error (.wrongType j.found "a string")
  ofText c :=
    let c := c.skipBlank
    if c.peek? = some '"' then Scan.quoted c.next else refuse "a string" c

/-- A floating point number; integers are taken too. -/
def float : Reader Float where
  ofJson
    | .num n => .ok n.toFloat
    | j => .error (.wrongType j.found "f64")
  ofText c :=
    let c := c.skipBlank
    match c.peek? with
    | some ch =>
      if ch = '-' ∨ ch.isDigit then do
        let (n, c) ← Scan.number c
        return (n.toFloat, c)
      else refuse "f64" c
    | none => c.fail .endInValue

def bool : Reader Bool := judged fun
  | .bool value => .ok value
  | j => .error (.wrongType j.found "a boolean")

/-- A natural number, under the name that its range has in reports. -/
def natural (range : String) : Reader Nat := judged fun
  | .num (.int (.ofNat n)) => .ok n
  | .num (.int n) => .error (.wrongValue (.integer n) range)
  | j => .error (.wrongType j.found range)

/-- `null` reads as the given value. -/
def nullAs (default : α) (r : Reader α) : Reader α where
  ofJson
    | .null => .ok default
    | j => r.ofJson j
  ofText c :=
    let c := c.skipBlank
    if c.peek? = some 'n' then do
      let (_, c) ← Scan.ident ['u', 'l', 'l'] c.next
      return (default, c)
    else r.ofText c

/-- `null` reads as nothing. -/
def option (r : Reader α) : Reader (Option α) := nullAs none (r.map some)

/-- One of the named values: its name, or an object with that one key over `null`. -/
def variant (known : List (String × α)) : Reader α := judged fun
  | .str name => choose name
  | .obj [(name, payload)] => do
    let a ← choose name
    if payload.isNull then return a else throw (.wrongType payload.found "unit")
  | .obj _ => .error (.wrongValue .map "map with a single key")
  | j => .error (.wrongType j.found "string or map")
where
  choose (name : String) : Except Misfit α :=
    match known.lookup name with
    | some a => .ok a
    | none => .error (.unknownVariant name (known.map (·.1)))

/-! Lists and objects -/

/-- The items up to the closing bracket. -/
def itemsOfText (r : Reader α) : Nat → Bool → Scan (List α)
  | 0, _, c => c.failHere .expectedValue
  | fuel + 1, first, c => do
    let (more, c) ← Scan.nextItem first c
    if more then
      let (x, c) ← r.ofText c
      let (xs, c) ← itemsOfText r fuel false c
      return (x :: xs, c)
    else return ([], c)

def list (r : Reader α) : Reader (List α) where
  ofJson
    | .arr items => items.mapM r.ofJson
    | j => .error (.wrongType j.found "a sequence")
  ofText c :=
    let c := c.skipBlank
    if c.peek? = some '[' then do
      let c ← Scan.openBracket c
      let (xs, c) ← itemsOfText r (Scan.fuelFor c) true c
      return (xs, Scan.closeBracket c)
    else refuse "a sequence" c

/-- An object with any members; of members with one key the last one counts. -/
def members : Reader (KeyMap Json) where
  ofJson
    | .obj members => .ok members
    | j => .error (.wrongType j.found "a map")
  ofText c :=
    let c := c.skipBlank
    if c.peek? = some '{' then do
      let c ← Scan.openBracket c
      let (entries, c) ← Scan.members (Scan.fuelFor c) true c
      return (KeyMap.ofEntries entries, Scan.closeBracket c)
    else refuse "a map" c

end Reader
end WorkflowCanvas
