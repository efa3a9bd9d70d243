import WorkflowCanvas.Json.Printer

/-! A place in a JSON text, the faults that reading can meet there, and the ways in which a value
does not fit what is asked for. -/
namespace WorkflowCanvas

/-- What can be wrong with a text as JSON. -/
inductive SyntaxFault where
  | endInList | endInObject | endInString | endInValue
  | expectedColon | expectedListSeparator | expectedObjectSeparator | expectedIdent | expectedValue
  | invalidEscape | invalidNumber | numberOutOfRange
  | loneSurrogate | unfinishedSurrogatePair | controlCharacter
  | keyNotString | trailingComma | trailingCharacters | tooDeep
  deriving DecidableEq, Repr

def SyntaxFault.message : SyntaxFault → String
  | .endInList => "EOF while parsing a list"
  | .endInObject => "EOF while parsing an object"
  | .endInString => "EOF while parsing a string"
  | .endInValue => "EOF while parsing a value"
  | .expectedColon => "expected `:`"
  | .expectedListSeparator => "expected `,` or `]`"
  | .expectedObjectSeparator => "expected `,` or `\x7d`"
  | .expectedIdent => "expected ident"
  | .expectedValue => "expected value"
  | .invalidEscape => "invalid escape"
  | .invalidNumber => "invalid number"
  | .numberOutOfRange => "number out of range"
  | .loneSurrogate => "lone leading surrogate in hex escape"
  | .unfinishedSurrogatePair => "unexpected end of hex escape"
  | .controlCharacter => "control character (\\u0000-\\u001F) found while parsing a string"
  | .keyNotString => "key must be a string"
  | .trailingComma => "trailing comma"
  | .trailingCharacters => "trailing characters"
  | .tooDeep => "recursion limit exceeded"

/-- A line, counted from one, and the number of bytes before the place on it. -/
structure TextPosition where
  line : Nat
  column : Nat
  deriving DecidableEq, Repr

/-- The text still to be read, where it starts, and how many more brackets may be opened. -/
structure Cursor where
  rest : List Char
  position : TextPosition
  room : Nat

namespace Cursor

/-- Brackets nest at most this deep. -/
def maxDepth : Nat := 127

def start (text : String) : Cursor := ⟨text.toList, ⟨1, 0⟩, maxDepth⟩

def peek? (c : Cursor) : Option Char := c.rest.head?

/-- The position after one more byte: a line feed starts a line, and a longer character is counted
by its first byte alone. -/
def nextPosition (c : Cursor) : TextPosition :=
  match c.rest with
  | [] => c.position
  | '\n' :: _ => ⟨c.position.line + 1, 0⟩
  | _ :: _ => ⟨c.position.line, c.position.column + 1⟩

/-- Go past one character. -/
def next (c : Cursor) : Cursor :=
  match c.rest with
  | [] => c
  | '\n' :: rest => { c with rest, position := ⟨c.position.line + 1, 0⟩ }
  | ch :: rest => { c with rest, position := ⟨c.position.line, c.position.column + ch.utf8Size⟩ }

/-- Go past `count` characters. -/
def skip (c : Cursor) : Nat → Cursor
  | 0 => c
  | count + 1 => c.next.skip count

def isBlank (ch : Char) : Bool := ch = ' ' || ch = '\n' || ch = '\t' || ch = '\r'

/-- Go past blanks. -/
def skipBlank (c : Cursor) : Cursor := c.skip (c.rest.takeWhile isBlank).length

/-- The decimal digits at the cursor, and the cursor after them. -/
def digits (c : Cursor) : List Nat × Cursor :=
  let ds := c.rest.takeWhile Char.isDigit
  (ds.map fun ch => ch.toNat - '0'.toNat, c.skip ds.length)

/-- Go past `count` bytes, or past the part of a character that they cover. -/
def skipBytes : Nat → Cursor → Cursor
  | 0, c => c
  | count + 1, c =>
    match c.rest with
    | [] => c
    | ch :: _ =>
      if ch.utf8Size ≤ count + 1 then skipBytes (count + 1 - ch.utf8Size) c.next
      else { c with position := ⟨c.position.line, c.position.column + (count + 1)⟩ }
termination_by count => count
decreasing_by have := ch.utf8Size_pos; omega

/-- Go past the whole text. -/
def toEnd (c : Cursor) : Cursor := c.skip c.rest.length

end Cursor

/-- What a reader found in place of what it asked for. -/
inductive Found where
  | null
  | bool (value : Bool)
  | integer (value : Int)
  | float (value : Float)
  | text (value : String)
  | sequence
  | map

/-- Why a value does not fit. -/
inductive Misfit where
  | wrongType (found : Found) (expected : String)
  | wrongValue (found : Found) (expected : String)
  | wrongLength (count : Nat) (expected : String)
  | missing (field : String)
  | repeated (field : String)
  | unknownVariant (name : String) (known : List String)
  | other (reason : String)

/-- Why a text could not be read. -/
inductive TextFault where
  | malformed (fault : SyntaxFault)
  | unfit (misfit : Misfit)

/-- A fault with its position. -/
structure TextError where
  fault : TextFault
  position : TextPosition

namespace Cursor

/-- A fault in the text read so far. -/
def fail (c : Cursor) (fault : SyntaxFault) : Except TextError α :=
  .error ⟨.malformed fault, c.position⟩

/-- A fault in the byte at the cursor. -/
def failHere (c : Cursor) (fault : SyntaxFault) : Except TextError α :=
  .error ⟨.malformed fault, c.nextPosition⟩

def unfit (c : Cursor) (misfit : Misfit) : Except TextError α := .error ⟨.unfit misfit, c.position⟩

end Cursor
end WorkflowCanvas
