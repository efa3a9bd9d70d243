import WorkflowCanvas.Json.Lexeme

/-! Reading a JSON text as a value, and passing over a value whose content does not matter. -/
namespace WorkflowCanvas
namespace Scan

/-- Open a bracket, if there is room for one more. -/
def openBracket (c : Cursor) : Except TextError Cursor :=
  match c.room with
  | 0 => c.failHere .tooDeep
  | room + 1 => .ok { c.next with room }

/-- Go past a closing bracket. -/
def closeBracket (c : Cursor) : Cursor := { c.next with room := c.room + 1 }

/-- The next item of a list, if there is one; the cursor stands at it, or at the closing bracket. -/
def nextItem (first : Bool) : Scan Bool := fun c =>
  let c := c.skipBlank
  match c.peek? with
  | none => c.fail .endInList
  | some ']' => .ok (false, c)
  | some ch =>
    if first then .ok (true, c)
    else if ch = ',' then
      let c := c.next.skipBlank
      match c.peek? with
      | none => c.fail .endInValue
      | some ']' => c.failHere .trailingComma
      | some _ => .ok (true, c)
    else c.failHere .expectedListSeparator

/-- The next key of an object, if there is one; without one the cursor stands at the closing
bracket. -/
def nextKey (first : Bool) : Scan (Option String) := fun c =>
  let c := c.skipBlank
  match c.peek? with
  | none => c.fail .endInObject
  | some '}' => .ok (none, c)
  | some ch =>
    if first then
      if ch = '"' then key c else c.failHere .keyNotString
    else if ch = ',' then
      let c := c.next.skipBlank
      match c.peek? with
      | none => c.fail .endInValue
      | some '"' => key c
      | some '}' => c.failHere .trailingComma
      | some _ => c.failHere .keyNotString
    else c.failHere .expectedObjectSeparator
where
  key (c : Cursor) : Except TextError (Option String × Cursor) := do
    let (name, c) ← quoted c.next
    return (some name, c)

/-- The colon between a key and its value. -/
def colon : Scan Unit := fun c =>
  let c := c.skipBlank
  match c.peek? with
  | none => c.fail .endInObject
  | some ':' => .ok ((), c.next)
  | some _ => c.failHere .expectedColon

mutual
/-- The value at the cursor. Later members of an object replace earlier ones of the same key. Every
level of nesting takes two steps of fuel, and a text as long as the fuel has room for no more. -/
def value : Nat → Scan Json
  | 0, c => c.failHere .expectedValue
  | fuel + 1, c =>
    let c := c.skipBlank
    match c.peek? with
    | none => c.fail .endInValue
    | some 'n' => do
      let (_, c) ← ident ['u', 'l', 'l'] c.next
      return (.null, c)
    | some 't' => do
      let (_, c) ← ident ['r', 'u', 'e'] c.next
      return (.bool true, c)
    | some 'f' => do
      let (_, c) ← ident ['a', 'l', 's', 'e'] c.next
      return (.bool false, c)
    | some '"' => do
      let (s, c) ← quoted c.next
      return (.str s, c)
    | some '[' => do
      let c ← openBracket c
      let (items, c) ← items fuel true c
      return (.arr items, closeBracket c)
    | some '{' => do
      let c ← openBracket c
      let (entries, c) ← members fuel true c
      return (.obj (KeyMap.ofEntries entries), closeBracket c)
    | some ch =>
      if ch = '-' ∨ ch.isDigit then do
        let (n, c) ← number c
        return (.num n, c)
      else c.failHere .expectedValue

def items : Nat → Bool → Scan (List Json)
  | 0, _, c => c.failHere .expectedValue
  | fuel + 1, first, c => do
    let (more, c) ← nextItem first c
    if more then
      let (x, c) ← value fuel c
      let (xs, c) ← items fuel false c
      return (x :: xs, c)
    else return ([], c)

def members : Nat → Bool → Scan (List (String × Json))
  | 0, _, c => c.failHere .expectedValue
  | fuel + 1, first, c => do
    match ← nextKey first c with
    | (none, c) => return ([], c)
    | (some key, c) =>
      let (_, c) ← colon c
      let (x, c) ← value fuel c
      let (xs, c) ← members fuel false c
      return ((key, x) :: xs, c)
end

/-- Enough fuel for what is left of the text. -/
def fuelFor (c : Cursor) : Nat := 2 * c.rest.length + 2

/-- The value at the cursor. -/
def json : Scan Json := fun c => value (fuelFor c) c

mutual
/-- Pass over the value at the cursor. Nesting has no limit here, and numbers no range. -/
def passValue : Nat → Scan Unit
  | 0, c => c.failHere .expectedValue
  | fuel + 1, c =>
    let c := c.skipBlank
    match c.peek? with
    | none => c.fail .endInValue
    | some 'n' => ident ['u', 'l', 'l'] c.next
    | some 't' => ident ['r', 'u', 'e'] c.next
    | some 'f' => ident ['a', 'l', 's', 'e'] c.next
    | some '"' => passQuoted c.next
    | some '[' => passItems fuel true c.next
    | some '{' => passMembers fuel true c.next
    | some ch => if ch = '-' ∨ ch.isDigit then passNumber c else c.failHere .expectedValue

/-- Pass over the rest of a list, from behind its bracket or from behind an item. -/
def passItems : Nat → Bool → Scan Unit
  | 0, _, c => c.failHere .expectedValue
  | fuel + 1, first, c =>
    let c := c.skipBlank
    match c.peek? with
    | none => c.fail .endInList
    | some ']' => .ok ((), c.next)
    | some ch => do
      let c ← if first then pure c else if ch = ',' then pure c.next
        else c.failHere .expectedListSeparator
      let (_, c) ← passValue fuel c
      passItems fuel false c

/-- Pass over the rest of an object, from behind its bracket or from behind a member. -/
def passMembers : Nat → Bool → Scan Unit
  | 0, _, c => c.failHere .expectedValue
  | fuel + 1, first, c =>
    let c := c.skipBlank
    match c.peek? with
    | none => c.fail .endInObject
    | some '}' => .ok ((), c.next)
    | some ch => do
      let c ← if first then pure c else if ch = ',' then pure c.next.skipBlank
        else c.failHere .expectedObjectSeparator
      match c.peek? with
      | none => c.fail .endInObject
      | some '"' =>
        let (_, c) ← passQuoted c.next
        let (_, c) ← colon c
        let (_, c) ← passValue fuel c
        passMembers fuel false c
      | some _ => c.failHere .keyNotString
end

/-- Pass over the value at the cursor. -/
def pass : Scan Unit := fun c => passValue (fuelFor c) c

/-- What `scan` reads, if nothing but blanks follows it. -/
def whole (scan : Scan α) (text : String) : Except TextError α := do
  let (a, c) ← scan (Cursor.start text)
  let c := c.skipBlank
  if c.rest.isEmpty then return a else c.failHere .trailingCharacters

end Scan

/-- The value of a JSON text. -/
def Json.parse (text : String) : Except TextError Json := Scan.whole Scan.json text

end WorkflowCanvas
