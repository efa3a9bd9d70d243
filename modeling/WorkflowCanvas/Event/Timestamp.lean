import WorkflowCanvas.Json.Reader
import WorkflowCanvas.Text.Blank

/-! Points in time, read from date, time and offset, and written in universal time with as many
groups of three digits after the second as are needed. -/
namespace WorkflowCanvas

/-- Seconds since the start of 1970, and nanoseconds after it. During a leap second there are more
than a thousand million of them. -/
structure Timestamp where
  seconds : Int
  nanos : Nat
  deriving DecidableEq, Repr

namespace Timestamp

/-! The calendar -/

/-- The number of days from the start of 1970 to a date. Years begin in March here, so that a leap
day is the last day of its year. -/
def daysOfDate (year : Int) (month day : Nat) : Int :=
  let y := if month ≤ 2 then year - 1 else year
  let era := y.fdiv 400
  let yearOfEra := y - era * 400
  let dayOfYear : Int := (153 * (if month > 2 then month - 3 else month + 9) + 2) / 5 + day - 1
  era * 146097 + (yearOfEra * 365 + yearOfEra / 4 - yearOfEra / 100 + dayOfYear) - 719468

/-- Year, month and day, so many days from the start of 1970. -/
def dateOfDays (days : Int) : Int × Nat × Nat :=
  let z := days + 719468
  let era := z.fdiv 146097
  let dayOfEra := (z - era * 146097).toNat
  let yearOfEra := (dayOfEra - dayOfEra / 1460 + dayOfEra / 36524 - dayOfEra / 146096) / 365
  let dayOfYear := dayOfEra - (365 * yearOfEra + yearOfEra / 4 - yearOfEra / 100)
  let mp := (5 * dayOfYear + 2) / 153
  let month := if mp < 10 then mp + 3 else mp - 9
  let year : Int := yearOfEra + era * 400 + if month ≤ 2 then 1 else 0
  (year, month, dayOfYear - (153 * mp + 2) / 5 + 1)

def isLeap (year : Int) : Bool := year % 4 == 0 && (year % 100 != 0 || year % 400 == 0)

def daysInMonth (year : Int) (month : Nat) : Nat :=
  if month = 2 then (if isLeap year then 29 else 28)
  else if month = 4 ∨ month = 6 ∨ month = 9 ∨ month = 11 then 30
  else 31

/-! Writing -/

/-- A number with at least `width` digits. -/
def padded (width n : Nat) : String :=
  let ds := Nat.toDigits 10 n
  String.ofList (List.replicate (width - ds.length) '0' ++ ds)

def yearText (year : Int) : String :=
  if 0 ≤ year ∧ year ≤ 9999 then padded 4 year.toNat
  else (if year < 0 then "-" else "+") ++ padded 4 year.natAbs

/-- The part after the second: nothing, or three, six or nine digits. -/
def fractionText (nanos : Nat) : String :=
  if nanos = 0 then ""
  else if nanos % 1000000 = 0 then "." ++ padded 3 (nanos / 1000000)
  else if nanos % 1000 = 0 then "." ++ padded 6 (nanos / 1000)
  else "." ++ padded 9 nanos

def text (t : Timestamp) : String :=
  let days := t.seconds.fdiv 86400
  let second := (t.seconds - days * 86400).toNat
  let (year, month, day) := dateOfDays days
  let leap := t.nanos / 1000000000
  yearText year ++ "-" ++ padded 2 month ++ "-" ++ padded 2 day ++ "T"
    ++ padded 2 (second / 3600) ++ ":" ++ padded 2 (second / 60 % 60) ++ ":"
    ++ padded 2 (second % 60 + leap) ++ fractionText (t.nanos % 1000000000) ++ "Z"

/-! Reading -/

/-- Why a text is no point in time. -/
inductive Fault where
  | outOfRange | impossible | invalid | tooShort | tooLong
  deriving DecidableEq, Repr

def Fault.message : Fault → String
  | .outOfRange => "input is out of range"
  | .impossible => "no possible date and time matching input"
  | .invalid => "input contains invalid characters"
  | .tooShort => "premature end of input"
  | .tooLong => "trailing input"

/-- A step through the text. -/
abbrev Take (α : Type) := List Char → Except Fault (α × List Char)

def dropBlank (chs : List Char) : List Char := chs.dropWhile Text.isBlank

def numberOf (ds : List Char) : Nat := ds.foldl (fun n c => n * 10 + (c.toNat - '0'.toNat)) 0

/-- A number of one to `max` digits; the greatest one has 63 bits. -/
def digits (max : Nat) : Take Nat := fun chs =>
  let ds := (chs.take max).takeWhile Char.isDigit
  if chs.isEmpty then .error .tooShort
  else if ds.isEmpty then .error .invalid
  else if numberOf ds ≥ Nat.pow 2 63 then .error .outOfRange
  else .ok (numberOf ds, chs.drop ds.length)

/-- A number of at most two digits between two bounds, behind blanks. -/
def field (low high : Nat) : Take Nat := fun chs => do
  let (n, chs) ← digits 2 (dropBlank chs)
  if low ≤ n ∧ n ≤ high then return (n, chs) else throw .outOfRange

/-- A year of 32 bits: four digits at most, or any number of them behind a sign. -/
def year : Take Int := fun chs => do
  let chs := dropBlank chs
  let (n, chs) ← match chs with
    | '-' :: rest => do
      let (n, chs) ← digits rest.length rest
      pure (-(n : Int), chs)
    | '+' :: rest => do
      let (n, chs) ← digits rest.length rest
      pure ((n : Int), chs)
    | _ => do
      let (n, chs) ← digits 4 chs
      pure ((n : Int), chs)
  if -Nat.pow 2 31 ≤ n ∧ n < Nat.pow 2 31 then return (n, chs) else throw .outOfRange

/-- A given character behind blanks. -/
def mark (c : Char) : Take Unit := fun chs =>
  match dropBlank chs with
  | [] => .error .tooShort
  | found :: rest => if found = c then .ok ((), rest) else .error .invalid

/-- The nanoseconds behind a point; digits after the ninth do not count. -/
def fraction : Take Nat := fun chs =>
  match chs with
  | '.' :: rest => do
    let (n, after) ← digits 9 rest
    let width := rest.length - after.length
    return (n * Nat.pow 10 (9 - width), if width = 9 then after.dropWhile Char.isDigit else after)
  | _ => .ok (0, chs)

/-- Two digits of an offset; the first one is at most `top`. Less than two bytes are too short. -/
def offsetPart (top : Char) : Take Nat := fun chs =>
  match chs with
  | [] => .error .tooShort
  | [c] => .error (if c.utf8Size < 2 then .tooShort else .invalid)
  | a :: b :: rest =>
    if a.isDigit ∧ b.isDigit then
      if a ≤ top then .ok (numberOf [a, b], rest) else .error .outOfRange
    else .error .invalid

/-- The offset from universal time, in seconds. -/
def offset : Take Int := fun chs =>
  let chs := dropBlank chs
  if (chs.take 3).map Char.toUpper = ['U', 'T', 'C'] then .ok (0, chs.drop 3)
  else
    match chs with
    | [] => .error .tooShort
    | sign :: rest =>
      if sign = 'Z' ∨ sign = 'z' then .ok (0, rest)
      else if sign = '+' ∨ sign = '-' ∨ sign = '−' then do
        let (hours, rest) ← offsetPart '9' rest
        let rest := rest.dropWhile fun c => c = ':' || Text.isBlank c
        let (minutes, rest) ← offsetPart '5' rest
        let seconds : Int := hours * 3600 + minutes * 60
        return (if sign = '+' then seconds else -seconds, rest)
      else .error .invalid

/-- The mark between date and time. -/
def between : Take Unit
  | [] => .error .tooShort
  | c :: rest => if c = 't' ∨ c = 'T' ∨ c = ' ' then .ok ((), rest) else .error .invalid

/-- The first and the last year of the calendar. -/
def firstYear : Int := -262143

def lastYear : Int := 262142

/-- Whether a time of this many seconds is in the calendar. -/
def inCalendar (seconds : Int) : Bool :=
  daysOfDate firstYear 1 1 * 86400 ≤ seconds && seconds < daysOfDate (lastYear + 1) 1 1 * 86400

def parse (s : String) : Except Fault Timestamp := do
  let (y, chs) ← year s.toList
  let (_, chs) ← mark '-' chs
  let (month, chs) ← field 1 12 chs
  let (_, chs) ← mark '-' chs
  let (day, chs) ← field 1 31 chs
  let (_, chs) ← between chs
  let (hour, chs) ← field 0 23 chs
  let (_, chs) ← mark ':' chs
  let (minute, chs) ← field 0 59 chs
  let (_, chs) ← mark ':' chs
  let (second, chs) ← field 0 60 chs
  let (nanos, chs) ← fraction chs
  let (away, chs) ← offset chs
  if !(dropBlank chs).isEmpty then throw .tooLong
  if y < firstYear ∨ lastYear < y ∨ day > daysInMonth y month then throw .outOfRange
  if away.natAbs ≥ 86400 then throw .outOfRange
  let leap := second / 60
  let seconds :=
    daysOfDate y month day * 86400 + (hour * 3600 + minute * 60 + (second - leap)) - away
  if !inCalendar seconds then throw .impossible
  return { seconds, nanos := nanos + leap * 1000000000 }

def reader : Reader Timestamp := .judged fun
  | .str s => (parse s).mapError fun fault => .other fault.message
  | j => .error (.wrongType j.found "an RFC 3339 formatted date and time string")

/-- The time so many milliseconds later. -/
def addMillis (t : Timestamp) (millis : Nat) : Timestamp :=
  let nanos := t.nanos + millis * 1000000
  ⟨t.seconds + (nanos / 1000000000 : Nat), nanos % 1000000000⟩

end Timestamp
end WorkflowCanvas
