import WorkflowCanvas.Json.Basic
import WorkflowCanvas.Decimal.Layout

/-! JSON text of a value: on one line, or with one member or item to a line. -/
namespace WorkflowCanvas

/-- Floating point numbers keep the fewest digits that read back. They are positional while the
first digit stands between the places `10 ^ -5` and `10 ^ 15`, and then always have a point. -/
def Number.floatText (x : Float) : String :=
  let d := Decimal.shortest .even x
  Decimal.signText x ++
    if -5 ≤ d.lead ∧ d.lead ≤ 15 then d.positional ++ (if d.whole then ".0" else "")
    else d.scientific

def Number.text : Number → String
  | .int value => toString value
  | .float value => floatText value

namespace Json

def hexDigit (n : Nat) : Char := (Nat.toDigits 16 n).headD '0'

/-- A character inside quotes. The quote, the backslash and control characters are escaped. -/
def escapeChar (c : Char) : List Char :=
  if c = '"' then ['\\', '"']
  else if c = '\\' then ['\\', '\\']
  else if c = '\n' then ['\\', 'n']
  else if c = '\r' then ['\\', 'r']
  else if c = '\t' then ['\\', 't']
  else if c = '\x08' then ['\\', 'b']
  else if c = '\x0c' then ['\\', 'f']
  else if c.toNat < 32 then ['\\', 'u', '0', '0', hexDigit (c.toNat / 16), hexDigit (c.toNat % 16)]
  else [c]

def quoted (s : String) : String := "\"" ++ String.ofList (s.toList.flatMap escapeChar) ++ "\""

mutual
/-- The text on one line, without blanks. -/
def compact : Json → String
  | .null => "null"
  | .bool true => "true"
  | .bool false => "false"
  | .num n => n.text
  | .str s => quoted s
  | .arr items => "[" ++ ",".intercalate (compactItems items) ++ "]"
  | .obj members => "\x7b" ++ ",".intercalate (compactMembers members) ++ "\x7d"

def compactItems : List Json → List String
  | [] => []
  | x :: xs => x.compact :: compactItems xs

def compactMembers : List (String × Json) → List String
  | [] => []
  | (k, x) :: xs => (quoted k ++ ":" ++ x.compact) :: compactMembers xs
end

/-- The start of a line at a nesting depth: two blanks a level. -/
def newline (depth : Nat) : String := "\n" ++ String.ofList (List.replicate (2 * depth) ' ')

/-- What stands between brackets, one part to a line; nothing when there are no parts. -/
def block (depth : Nat) (parts : List String) : String :=
  if parts.isEmpty then ""
  else newline (depth + 1) ++ ("," ++ newline (depth + 1)).intercalate parts ++ newline depth

mutual
/-- The text with one member or item to a line, from the nesting depth `depth` inwards. -/
def prettyAt (depth : Nat) : Json → String
  | .arr items => "[" ++ block depth (prettyItems (depth + 1) items) ++ "]"
  | .obj members => "\x7b" ++ block depth (prettyMembers (depth + 1) members) ++ "\x7d"
  | value => value.compact

def prettyItems (depth : Nat) : List Json → List String
  | [] => []
  | x :: xs => x.prettyAt depth :: prettyItems depth xs

def prettyMembers (depth : Nat) : List (String × Json) → List String
  | [] => []
  | (k, x) :: xs => (quoted k ++ ": " ++ x.prettyAt depth) :: prettyMembers depth xs
end

def pretty (value : Json) : String := value.prettyAt 0

end Json
end WorkflowCanvas
