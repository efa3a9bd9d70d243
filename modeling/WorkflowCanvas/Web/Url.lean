import WorkflowCanvas.Web.Host.Basic

/-! Web addresses, taken apart as far as a request needs them: the host, and the target on the host.
Only the two schemes of the web are taken. -/
namespace WorkflowCanvas

structure Url where
  host : Host
  /-- The path, with a slash before every segment. -/
  path : String
  query : Option String := none
  deriving DecidableEq, Repr

namespace Url

/-- What a request names on its first line. -/
def target (u : Url) : String :=
  match u.query with
  | none => u.path
  | some query => u.path ++ "?" ++ query

/-- Controls and everything beyond ASCII are never written as they are. -/
def always (c : Char) : Bool := c.toNat < 32 || 126 < c.toNat

def inPath (c : Char) : Bool :=
  always c || [' ', '"', '<', '>', '\x60', '#', '?', '{', '}'].contains c

def inQuery (c : Char) : Bool := always c || [' ', '"', '#', '<', '>', '\''].contains c

/-- Whether a host may have this behind its colon: digits of a number of two bytes, or nothing. -/
def isHostNumber (ds : List Char) : Bool := ds.all Char.isDigit && Host.decimal ds ≤ 65535

/-! Paths -/

def isSlash (c : Char) : Bool := c == '/' || c == '\\'

/-- A segment with encoded points written out, for the comparison with `.` and `..`. -/
def points : List Char → List Char
  | '%' :: '2' :: 'e' :: rest | '%' :: '2' :: 'E' :: rest => '.' :: points rest
  | c :: rest => c :: points rest
  | [] => []

/-- Add segments to those before them: one point stays at the place, and two go back by one. -/
def follow : List (List Char) → List (List Char) → List (List Char)
  | before, [] => before
  | before, part :: parts =>
    let last : List (List Char) := if parts.isEmpty then [[]] else []
    if points part = ['.'] then follow (before ++ last) parts
    else if points part = ['.', '.'] then follow (before.dropLast ++ last) parts
    else follow (before ++ [part]) parts

def pathText (cs : List Char) : String :=
  let parts := match Host.cut isSlash (Percent.encode inPath cs) with
    | [] :: part :: parts => part :: parts
    | parts => parts
  String.ofList ((follow [] parts).flatMap ('/' :: ·))

/-! Addresses -/

/-- The text without blanks and controls at its ends, and without line breaks and tabs. -/
def cleaned (s : String) : List Char :=
  let low (c : Char) : Bool := c.toNat ≤ 32
  let trimmed := (s.toList.dropWhile low).reverse.dropWhile low |>.reverse
  trimmed.filter fun c => c ≠ '\t' ∧ c ≠ '\n' ∧ c ≠ '\r'

/-- What stands behind the scheme and its slashes. -/
def afterScheme? (cs : List Char) : Option (List Char) :=
  let name := (cs.takeWhile (· ≠ ':')).map Char.toLower
  let rest := cs.dropWhile (· ≠ ':')
  if rest.isEmpty then none
  else if name = "http".toList ∨ name = "https".toList then some (rest.tail.dropWhile isSlash)
  else none

/-- What stands behind the last `@`, where a user name may stand before it. -/
def afterUser (cs : List Char) : List Char := (cs.reverse.takeWhile (· ≠ '@')).reverse

/-- The host, and what follows the colon behind it. Colons in brackets belong to the host. -/
def atColon (cs : List Char) : List Char × List Char :=
  go false cs
where
  go : Bool → List Char → List Char × List Char
    | _, [] => ([], [])
    | inside, c :: rest =>
      if c = ':' ∧ !inside then ([], rest)
      else
        let (host, number) := go (c == '[' || (inside && c != ']')) rest
        (c :: host, number)

def parse? (s : String) : Option Url := do
  let cs ← afterScheme? (cleaned s)
  let ends (c : Char) : Bool := isSlash c || c == '?' || c == '#'
  let (host, number) := atColon (afterUser (cs.takeWhile (!ends ·)))
  let rest := (cs.dropWhile (!ends ·)).takeWhile (· ≠ '#')
  if !isHostNumber number then none
  let query := rest.dropWhile (· ≠ '?')
  return {
    host := ← Host.parse? host
    path := pathText (rest.takeWhile (· ≠ '?'))
    query := if query.isEmpty then none else some (String.ofList (Percent.encode inQuery query.tail)) }

end Url
end WorkflowCanvas
