import WorkflowCanvas.Json.Reader

/-! Universally unique ids: 128 bits, written as 32 hexadecimal digits in five groups. -/
namespace WorkflowCanvas

structure Uuid where
  value : BitVec 128
  deriving DecidableEq, Repr

namespace Uuid

/-- Why a text is no id. Positions and lengths count bytes, and positions start behind what the digits are
wrapped in. -/
inductive Fault where
  | wrongLength (length : Nat)
  | badChar (c : Char) (position : Nat)
  | groupCount (count : Nat)
  | groupLength (group expected length : Nat)
  deriving DecidableEq, Repr

def Fault.message : Fault → String
  | .wrongLength length => s!"invalid length: found {length}"
  | .badChar c position => s!"invalid character: found `{c}` at {position}"
  | .groupCount count => s!"invalid group count: expected 5, found {count}"
  | .groupLength group expected length =>
    s!"invalid group length in group {group}: expected {expected}, found {length}"

/-- The lengths of the groups. -/
def groupLengths : List Nat := [8, 4, 4, 4, 12]

/-- Digits in groups of the given lengths, with a hyphen between two groups. -/
def grouped : List Nat → List Char → List Char
  | [], digits => digits
  | [_], digits => digits
  | n :: ns, digits => digits.take n ++ '-' :: grouped ns (digits.drop n)

def digits (id : Uuid) : List Char :=
  let ds := Nat.toDigits 16 id.value.toNat
  List.replicate (32 - ds.length) '0' ++ ds

def text (id : Uuid) : String := String.ofList (grouped groupLengths id.digits)

/-- The id with the given hexadecimal digits, if there are 32 of them. -/
def ofDigits? (chs : List Char) : Option Uuid := do
  if chs.length ≠ 32 then none
  let value ← Scan.hexNumber? chs
  return ⟨BitVec.ofNat 128 value⟩

/-- The id with hyphens between its groups. -/
def ofGroups? (chs : List Char) : Option Uuid :=
  let ds := chs.filter (· ≠ '-')
  if grouped groupLengths ds = chs then ofDigits? ds else none

/-- What stands before an id that is written as the name of a resource, in any case. -/
def resourcePrefix : List Char := "urn:uuid:".toList

/-- What braces or the prefix of a resource name hold, and whether there are neither. -/
def unwrapped (chs : List Char) : List Char × Bool :=
  if chs.head? = some '{' ∧ chs.getLast? = some '}' ∧ 2 ≤ chs.length then
    (chs.tail.dropLast, false)
  else if (chs.take 9).map Char.toLower = resourcePrefix then (chs.drop 9, false)
  else (chs, true)

def byteCount (chs : List Char) : Nat := (String.ofList chs).utf8ByteSize

/-- No written id is longer: the prefix of a resource name and 36 bytes. -/
def longest : Nat := 45

/-- The first character that no id has. -/
def badChar? : Nat → List Char → Option Fault
  | _, [] => none
  | position, c :: cs =>
    if c = '-' ∨ (Scan.hexValue? c).isSome then badChar? (position + c.utf8Size) cs
    else some (.badChar c position)

/-- The first group of a wrong length. -/
def badGroup? : Nat → List Nat → List (List Char) → Option Fault
  | group, n :: ns, g :: gs =>
    if g.length = n then badGroup? (group + 1) ns gs else some (.groupLength group n g.length)
  | _, _, _ => none

/-- Why a text that is no id is none. The last group counts all that stands behind the place where it
starts in an id without a wrapping. -/
def faultOf (chs : List Char) : Fault :=
  let size := byteCount chs
  let (inner, bare) := unwrapped chs
  if longest < size then .wrongLength size
  else
    match badChar? 0 inner with
    | some fault => fault
    | none =>
      let groups := inner.splitOn '-'
      if groups.length = 1 ∧ bare then .wrongLength size
      else if groups.length ≠ 5 then .groupCount groups.length
      else (badGroup? 0 (groupLengths.take 4) groups).getD (.groupLength 4 12 (size - 24))

/-- Read an id: 32 digits, or groups, which may stand in braces or behind a resource name's
prefix. -/
def parse (s : String) : Except Fault Uuid :=
  let chs := s.toList
  let found :=
    if chs.length = 32 then ofDigits? chs
    else
      let (inner, _) := unwrapped chs
      if inner.length = 36 then ofGroups? inner else none
  match found with
  | some id => .ok id
  | none => .error (faultOf chs)

def reader : Reader Uuid := .judged fun
  | .str s => (parse s).mapError fun fault => .other s!"UUID parsing failed: {fault.message}"
  | j => .error (.wrongType j.found "a formatted UUID string")

end Uuid
end WorkflowCanvas
