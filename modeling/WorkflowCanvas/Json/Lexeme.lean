import WorkflowCanvas.Json.Cursor

/-! The words of a JSON text: names of constants, quoted strings and numbers. A string or number can
be read for its value, or only passed over, which asks less of it. -/
namespace WorkflowCanvas

/-- A step through a text. -/
abbrev Scan (α : Type) := Cursor → Except TextError (α × Cursor)

namespace Scan

/-- The given characters, one after the other. -/
def ident : List Char → Scan Unit
  | [], c => .ok ((), c)
  | ch :: chs, c =>
    match c.peek? with
    | none => c.fail .endInValue
    | some found => if found = ch then ident chs c.next else c.failHere .expectedIdent

/-! Strings -/

def hexValue? (ch : Char) : Option Nat :=
  if ch.isDigit then some (ch.toNat - '0'.toNat)
  else if 'a' ≤ ch ∧ ch ≤ 'f' then some (ch.toNat - 'a'.toNat + 10)
  else if 'A' ≤ ch ∧ ch ≤ 'F' then some (ch.toNat - 'A'.toNat + 10)
  else none

def hexNumber? (chs : List Char) : Option Nat :=
  chs.foldl (fun acc ch => do return (← acc) * 16 + (← hexValue? ch)) (some 0)

/-- The four digits of an escaped code unit. -/
def codeUnit : Scan Nat := fun c =>
  if (String.ofList (c.rest.take 4)).utf8ByteSize < 4 then c.toEnd.fail .endInString
  else
    match hexNumber? (c.rest.take 4) with
    | some n => .ok (n, c.skip 4)
    | none => (Cursor.skipBytes 4 c).fail .invalidEscape

def isHighSurrogate (n : Nat) : Bool := 0xD800 ≤ n && n ≤ 0xDBFF
def isLowSurrogate (n : Nat) : Bool := 0xDC00 ≤ n && n ≤ 0xDFFF

/-- The given character, as the second half of a surrogate pair begins. -/
def pairMark (ch : Char) : Scan Unit := fun c =>
  match c.peek? with
  | none => c.fail .endInString
  | some found => if found = ch then .ok ((), c.next) else c.failHere .unfinishedSurrogatePair

/-- The character of an escaped code unit, or of two that form a surrogate pair. -/
def unicodeEscape : Scan Char := fun c => do
  let (high, c) ← codeUnit c
  if isLowSurrogate high then c.fail .loneSurrogate
  else if isHighSurrogate high then
    let (_, c) ← pairMark '\\' c
    let (_, c) ← pairMark 'u' c
    let (low, c) ← codeUnit c
    if isLowSurrogate low then
      return (Char.ofNat ((high - 0xD800) * 0x400 + (low - 0xDC00) + 0x10000), c)
    else c.fail .loneSurrogate
  else return (Char.ofNat high, c)

/-- The character that a one-letter escape stands for. -/
def shortEscape? : Char → Option Char
  | '"' => some '"'
  | '\\' => some '\\'
  | '/' => some '/'
  | 'b' => some '\x08'
  | 'f' => some '\x0c'
  | 'n' => some '\n'
  | 'r' => some '\r'
  | 't' => some '\t'
  | _ => none

/-- The character after a backslash. -/
def escape : Scan Char := fun c =>
  match c.peek? with
  | none => c.fail .endInString
  | some 'u' => unicodeEscape c.next
  | some ch =>
    match shortEscape? ch with
    | some value => .ok (value, c.next)
    | none => c.failHere .invalidEscape

/-- The characters up to the closing quote, from behind the opening one. -/
def quotedChars : Nat → Scan (List Char)
  | 0, c => c.fail .endInString
  | fuel + 1, c =>
    match c.peek? with
    | none => c.fail .endInString
    | some '"' => .ok ([], c.next)
    | some '\\' => do
      let (ch, c) ← escape c.next
      let (chs, c) ← quotedChars fuel c
      return (ch :: chs, c)
    | some ch =>
      if ch.toNat < 32 then c.failHere .controlCharacter
      else do
        let (chs, c) ← quotedChars fuel c.next
        return (ch :: chs, c)

/-- A string, from behind its opening quote. -/
def quoted : Scan String := fun c => do
  let (chs, c) ← quotedChars (c.rest.length + 1) c
  return (String.ofList chs, c)

/-- Pass over the character after a backslash. Any code unit will do. -/
def passEscape : Scan Unit := fun c =>
  match c.peek? with
  | none => c.fail .endInString
  | some 'u' => do
    let (_, c) ← codeUnit c.next
    return ((), c)
  | some ch => if (shortEscape? ch).isSome then .ok ((), c.next) else c.failHere .invalidEscape

def passQuotedChars : Nat → Scan Unit
  | 0, c => c.fail .endInString
  | fuel + 1, c =>
    match c.peek? with
    | none => c.fail .endInString
    | some '"' => .ok ((), c.next)
    | some '\\' => do
      let (_, c) ← passEscape c.next
      passQuotedChars fuel c
    | some ch => if ch.toNat < 32 then c.fail .controlCharacter else passQuotedChars fuel c.next

/-- Pass over a string, from behind its opening quote. -/
def passQuoted : Scan Unit := fun c => passQuotedChars (c.rest.length + 1) c

/-! Numbers -/

/-- The parts of a number as written. The exponent has its sign, its digits and the place where
the digits start. -/
structure Numeral where
  negative : Bool
  whole : List Nat
  fraction : Option (List Nat)
  exponent : Option (Bool × List Nat × Cursor)

/-- The digits before the point; no other digit follows a leading zero. -/
def wholePart (atEnd : SyntaxFault) : Scan (List Nat) := fun c =>
  match c.peek? with
  | none => c.fail atEnd
  | some '0' =>
    match c.next.peek? with
    | some ch => if ch.isDigit then c.next.failHere .invalidNumber else .ok ([0], c.next)
    | none => .ok ([0], c.next)
  | some ch => if ch.isDigit then .ok c.digits else c.failHere .invalidNumber

def fractionPart (atEnd : SyntaxFault) : Scan (Option (List Nat)) := fun c =>
  match c.peek? with
  | some '.' =>
    match c.next.digits with
    | ([], c) => if c.rest.isEmpty then c.fail atEnd else c.failHere .invalidNumber
    | (ds, c) => .ok (some ds, c)
  | _ => .ok (none, c)

def exponentSign (c : Cursor) : Bool × Cursor :=
  match c.peek? with
  | some '+' => (false, c.next)
  | some '-' => (true, c.next)
  | _ => (false, c)

def exponentPart (atEnd : SyntaxFault) : Scan (Option (Bool × List Nat × Cursor)) := fun c =>
  match c.peek? with
  | some ch =>
    if ch = 'e' ∨ ch = 'E' then
      let (negative, start) := exponentSign c.next
      match start.digits with
      | ([], c) => if c.rest.isEmpty then c.fail atEnd else c.failHere .invalidNumber
      | (ds, c) => .ok (some (negative, ds, start), c)
    else .ok (none, c)
  | none => .ok (none, c)

/-- The parts of the number at the cursor. `atEnd` is the fault when the text ends too early. -/
def numeral (atEnd : SyntaxFault) : Scan Numeral := fun c => do
  let (negative, c) := if c.peek? = some '-' then (true, c.next) else (false, c)
  let (whole, c) ← wholePart atEnd c
  let (fraction, c) ← fractionPart atEnd c
  let (exponent, c) ← exponentPart atEnd c
  return (⟨negative, whole, fraction, exponent⟩, c)

/-- The greatest significand and the greatest integer. -/
def maxSignificand : Nat := Nat.pow 2 64 - 1

/-- The greatest power of ten that an exponent may name. -/
def maxExponent : Nat := Nat.pow 2 31 - 1

/-- Append digits to a significand for as long as it stays in range, and give back the others. -/
def absorb : Nat → List Nat → Nat × List Nat
  | significand, [] => (significand, [])
  | significand, d :: ds =>
    if significand * 10 + d ≤ maxSignificand then absorb (significand * 10 + d) ds
    else (significand, d :: ds)

/-- A power of ten, as a floating point number. -/
def power (n : Nat) : Float := Float.ofScientific 1 false n

/-- `x * 10 ^ exponent` by one multiplication or division where the power is a finite number, and
after division by the greatest power otherwise; `none` when it is out of range. -/
def scaled? : Nat → Float → Int → Option Float
  | 0, x, _ => some x
  | fuel + 1, x, exponent =>
    if exponent.natAbs ≤ 308 then
      if 0 ≤ exponent then
        let y := x * power exponent.natAbs
        if y.isFinite then some y else none
      else some (x / power exponent.natAbs)
    else if x == 0 then some x
    else if 0 ≤ exponent then none
    else scaled? fuel (x / power 308) (exponent + 308)

/-- The number of digits after which an exponent is too great. -/
def exponentLimit? (value count : Nat) : List Nat → Option Nat
  | [] => none
  | d :: ds =>
    if value * 10 + d > maxExponent then some (count + 1)
    else exponentLimit? (value * 10 + d) (count + 1) ds

def signed (negative : Bool) (x : Float) : Float := if negative then -x else x

/-- The value of a number that is not a plain integer in range. A significand takes as many leading
digits as fit; the other digits before the point count as powers of ten and the other ones after it
are dropped. -/
def floatValue (n : Numeral) : Scan Number := fun c =>
  let (significand, extra) := absorb 0 n.whole
  let fraction := n.fraction.getD []
  let (significand, dropped) := absorb significand fraction
  let shift : Int := (extra.length : Int) - ((fraction.length : Int) - dropped.length)
  let finish (exponent : Int) : Except TextError (Number × Cursor) :=
    match scaled? 4 (Float.ofNat significand) exponent with
    | some x => .ok (.float (signed n.negative x), c)
    | none => c.fail .numberOutOfRange
  match n.exponent with
  | none => finish shift
  | some (negative, ds, start) =>
    match exponentLimit? 0 0 ds with
    | none =>
      let exponent : Nat := ds.foldl (fun acc d => acc * 10 + d) 0
      finish (if negative then shift - exponent else shift + exponent)
    | some count =>
      if significand ≠ 0 ∧ ¬negative then (start.skip count).fail .numberOutOfRange
      else .ok (.float (signed n.negative 0), c)

/-- An integer stays one while it fits in 64 bits, with a sign if it is negative; a negative zero
does not. -/
def number : Scan Number := fun c => do
  let (n, c) ← numeral .endInValue c
  let (significand, extra) := absorb 0 n.whole
  if n.fraction.isSome ∨ n.exponent.isSome ∨ ¬extra.isEmpty then floatValue n c
  else if ¬n.negative then return (.int significand, c)
  else if significand ≠ 0 ∧ significand ≤ Nat.pow 2 63 then return (.int (-significand), c)
  else floatValue n c

/-- Pass over a number. -/
def passNumber : Scan Unit := fun c => do
  let (_, c) ← numeral .invalidNumber c
  return ((), c)

end Scan
end WorkflowCanvas
