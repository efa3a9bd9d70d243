import WorkflowCanvas.Registry.Basic
import WorkflowCanvas.Error
import WorkflowCanvas.Text.Blank

/-! Checking the settings of a node against the fields of its type. The outcome is advice: a report
of errors and warnings by setting. -/
namespace WorkflowCanvas

/-- What is wrong with the value of a setting. -/
inductive ConfigFault where
  | required
  | tooSmall (min : Float)
  | tooGreat (max : Float)
  | tooLong (limit : Nat)
  | noOption (options : List String)
  | notJson (error : TextError)
  | wrongKind (expected : FieldKind) (actual : Json)

/-- What is odd about a setting. -/
inductive ConfigWarning where
  | ignored (label : String)
  | unknown (key : String)

/-- A bound as messages show it: in full, without an exponent. -/
def boundText (x : Float) : String :=
  if x.isFinite then Decimal.signText x ++ (Decimal.shortest .up x).positional
  else if x.isNaN then "NaN" else Decimal.signText x ++ "inf"

def ConfigFault.message (label : String) : ConfigFault → String
  | .required => s!"{label} is required"
  | .tooSmall min => s!"{label} must be at least {boundText min}"
  | .tooGreat max => s!"{label} must be at most {boundText max}"
  | .tooLong limit => s!"{label} must be at most {limit} characters"
  | .noOption options => s!"{label} must be one of: " ++ ", ".intercalate options
  | .notJson error => s!"{label} is not valid JSON: {error.message}"
  | .wrongKind expected actual => s!"{label} expects a {expected.name} value, got {actual.kind}"

def ConfigWarning.message : ConfigWarning → String
  | .ignored label => s!"{label} is ignored with the current settings"
  | .unknown key => s!"Unknown setting '{key}'"

/-- Errors and warnings for one node, by setting. -/
structure ConfigReport where
  errors : KeyMap String := []
  warnings : KeyMap String := []
  deriving DecidableEq, Repr

namespace ConfigReport

def isValid (r : ConfigReport) : Bool := r.errors.isEmpty

def addError (r : ConfigReport) (key message : String) : ConfigReport :=
  { r with errors := KeyMap.insert r.errors key message }

def addWarning (r : ConfigReport) (key message : String) : ConfigReport :=
  { r with warnings := KeyMap.insert r.warnings key message }

def texts (m : KeyMap String) : Json := .obj (m.map fun (key, message) => (key, .str message))

def toJson (r : ConfigReport) : Json :=
  .obj [("errors", texts r.errors), ("warnings", texts r.warnings)]

end ConfigReport

namespace FieldSpec

/-- The value that decides on a condition: the setting, or else the default of its field. -/
def controlling? (field : String) (config : Config) (fields : List FieldSpec) : Option Json :=
  match KeyMap.get? config field with
  | some value => some value
  | none => (fields.find? (·.key == field)).map (·.default)

/-- Whether a field is shown beside the other settings of its node. -/
def shown (f : FieldSpec) (config : Config) (fields : List FieldSpec) : Bool :=
  match f.visibleWhen with
  | none => true
  | some condition =>
    match controlling? condition.field config fields with
    | some value => condition.equals.any (·.same value)
    | none => false

/-- Whether a value counts as not given. -/
def isBlank : Json → Bool
  | .null => true
  | .str s => Text.blank s
  | _ => false

/-- What is wrong with a value that is not blank. -/
def fault? (f : FieldSpec) (value : Json) : Option ConfigFault :=
  match f.kind, value with
  | .number, .num n =>
    match f.min.filter (n.toFloat < ·), f.max.filter (· < n.toFloat) with
    | some min, _ => some (.tooSmall min)
    | none, some max => some (.tooGreat max)
    | none, none => none
  | .boolean, .bool _ => none
  | .text, .str s | .textarea, .str s => (f.maxLength.filter (· < s.length)).map .tooLong
  | .select, .str s =>
    if f.options.isEmpty || f.options.contains s then none else some (.noOption f.options)
  | .json, .str s =>
    match Json.parse s with
    | .ok _ => none
    | .error error => some (.notJson error)
  | .json, _ => none
  | kind, value => some (.wrongKind kind value)

/-- The fault of a setting that is shown. -/
def settingFault? (f : FieldSpec) (value : Option Json) : Option ConfigFault :=
  match value.filter (!isBlank ·) with
  | none => if f.required then some .required else none
  | some value => f.fault? value

/-- Check one field and note what is found under its key. -/
def check (f : FieldSpec) (config : Config) (fields : List FieldSpec) (report : ConfigReport) :
    ConfigReport :=
  let value := KeyMap.get? config f.key
  if f.shown config fields then
    match f.settingFault? value with
    | some fault => report.addError f.key (fault.message f.label)
    | none => report
  else if value.any (!isBlank ·) then
    report.addWarning f.key (ConfigWarning.ignored f.label).message
  else report

end FieldSpec

/-- Check the settings of a node of the given definition. -/
def Definition.validate (d : Definition) (config : Config) : ConfigReport :=
  let report := d.fields.foldl (fun report f => f.check config d.fields report) {}
  (KeyMap.keys config).foldl
    (fun report key =>
      if (d.field? key).isSome then report
      else report.addWarning key (ConfigWarning.unknown key).message)
    report

/-- Check the settings of a node of the given type. -/
def Registry.validateConfig (r : Registry) (type : String) (config : Config) :
    Except WorkflowError ConfigReport :=
  match r.get? type with
  | some d => .ok (d.validate config)
  | none => .error (.unknownNodeType type)

end WorkflowCanvas
