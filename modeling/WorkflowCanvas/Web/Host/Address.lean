import WorkflowCanvas.Json.Lexeme

/-! Hosts by number: four bytes, or eight groups of two bytes. -/
namespace WorkflowCanvas.Host

/-- Cut a text at every character of a class. -/
def cut (at? : Char → Bool) : List Char → List (List Char)
  | [] => [[]]
  | c :: cs =>
    if at? c then [] :: cut at? cs
    else
      match cut at? cs with
      | [] => [[c]]
      | part :: parts => (c :: part) :: parts

def decimal (ds : List Char) : Nat := ds.foldl (fun n c => 10 * n + (c.toNat - 48)) 0

/-! Four bytes -/

/-- A number in a host: hexadecimal behind `0x`, octal behind `0`, and else decimal. -/
def number? : List Char → Option Nat
  | '0' :: 'x' :: ds | '0' :: 'X' :: ds => if ds.isEmpty then some 0 else Scan.hexNumber? ds
  | '0' :: d :: ds =>
    if (d :: ds).all fun c => '0' ≤ c ∧ c ≤ '7' then
      some ((d :: ds).foldl (fun n c => 8 * n + (c.toNat - 48)) 0)
    else none
  | ds => if !ds.isEmpty && ds.all Char.isDigit then some (decimal ds) else none

/-- The parts of a host between points; a point at the end is left out. -/
def parts (host : List Char) : List (List Char) :=
  let all := cut (· == '.') host
  if 1 < all.length ∧ all.getLast? = some [] then all.dropLast else all

/-- Whether the last part of a host is a number, so that the host has to be four bytes. -/
def endsInNumber (host : List Char) : Bool :=
  match (parts host).getLast? with
  | none => false
  | some part => (!part.isEmpty && part.all Char.isDigit) || (number? part).isSome

/-- The last number of at most four stands for all bytes that are left; the others are one byte each. -/
def fourBytes? (host : List Char) : Option (BitVec 32) := do
  let numbers ← (parts host).mapM number?
  let last ← numbers.getLast?
  let leading := numbers.dropLast
  if leading.length ≤ 3 ∧ leading.all (· ≤ 255) ∧ last < Nat.pow 256 (4 - leading.length) then
    let high := leading.foldl (fun n byte => 256 * n + byte) 0
    return BitVec.ofNat 32 (high * Nat.pow 256 (4 - leading.length) + last)
  else none

/-! Eight groups -/

/-- Two bytes in at most four hexadecimal digits. -/
def group? (ds : List Char) : Option Nat :=
  if ds.isEmpty || 4 < ds.length then none else Scan.hexNumber? ds

/-- A byte in decimal digits, without a zero before others. -/
def byte? (ds : List Char) : Option Nat :=
  if ds.isEmpty || !ds.all Char.isDigit || (1 < ds.length && ds.head? == some '0') then none
  else if decimal ds ≤ 255 then some (decimal ds)
  else none

/-- The last groups may be written as four bytes between points. -/
def lastGroups? (ds : List Char) : Option (List Nat) :=
  if ds.contains '.' then do
    match ← (cut (· == '.') ds).mapM byte? with
    | [a, b, c, d] => return [256 * a + b, 256 * c + d]
    | _ => none
  else (group? ds).map ([·])

/-- Groups between colons. -/
def groups? : List (List Char) → Option (List Nat)
  | [] => some []
  | [last] => lastGroups? last
  | ds :: rest => return (← group? ds) :: (← groups? rest)

/-- The text before the first double colon and the text behind it. -/
def atDoubleColon : List Char → Option (List Char × List Char)
  | ':' :: ':' :: rest => some ([], rest)
  | c :: rest => (atDoubleColon rest).map fun (before, after) => (c :: before, after)
  | [] => none

def groupsOf? (cs : List Char) : Option (List Nat) :=
  if cs.isEmpty then some [] else groups? (cut (· == ':') cs)

/-- Eight groups between colons. A double colon stands for the groups of zero that are missing, and for one
of them at least. -/
def eightGroups? (cs : List Char) : Option (List Nat) := do
  match atDoubleColon cs with
  | none =>
    let groups ← groupsOf? cs
    if groups.length = 8 then return groups else none
  | some (before, after) =>
    if before.contains '.' then none
    let before ← groupsOf? before
    let after ← groupsOf? after
    if before.length + after.length ≤ 7 then
      return before ++ List.replicate (8 - before.length - after.length) 0 ++ after
    else none

end WorkflowCanvas.Host
