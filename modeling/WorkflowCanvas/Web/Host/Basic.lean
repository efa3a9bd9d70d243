import WorkflowCanvas.Web.Host.Address
import WorkflowCanvas.Web.Host.Direction
import WorkflowCanvas.Web.Host.Joining
import WorkflowCanvas.Web.Host.Punycode
import WorkflowCanvas.Web.Host.Symbol
import WorkflowCanvas.Web.Percent

/-! Hosts: names in any script, and numbers. -/
namespace WorkflowCanvas

inductive Host where
  | name (labels : List (List Char))
  | four (bytes : BitVec 32)
  | eight (groups : List Nat)
  deriving DecidableEq, Repr

namespace Host

/-- What a label starts with if it is written in ASCII and stands for more. -/
def marker : List Char := "xn--".toList

def beyondAscii (c : Char) : Bool := 0x80 ≤ c.toNat

/-- The symbols that a label stands for. A label that is written in ASCII has to stand for settled symbols,
and for some beyond ASCII. -/
def label? (cs : List Char) : Option (List Char) :=
  if marker.isPrefixOf cs then do
    if cs.any beyondAscii then none
    let symbols ← Punycode.decode? (cs.drop 4)
    if symbols.any beyondAscii ∧ symbols.all isSettled then return symbols else none
  else some cs

/-- Characters that start with a mark when they are taken apart. -/
def startsWithMark (c : Char) : Bool :=
  (Text.isMark c && c ≠ '\u0345') || ['\u0e33', '\u0eb3', '\uff9e', '\uff9f'].contains c

def labelFits (label : List Char) : Bool :=
  !label.head?.any startsWithMark && joinersFit [] label

/-- A name from its symbols. -/
def ofSymbols? (symbols : List Char) : Option Host := do
  if symbols.isEmpty then none
  let labels ← (cut (· == '.') symbols).mapM label?
  if !labels.all labelFits then none
  if labels.any turns ∧ !labels.all keepsDirection then none
  if endsInNumber symbols then return four (← fourBytes? symbols)
  return name labels

/-- Read a host: groups stand in brackets, and all else may be encoded. -/
def parse? (cs : List Char) : Option Host := do
  if cs.head? = some '[' then
    if cs.getLast? = some ']' ∧ 2 ≤ cs.length then (eightGroups? cs.tail.dropLast).map eight else none
  else ofSymbols? (← symbolsOf? (← Percent.decode? cs))

end Host
end WorkflowCanvas
