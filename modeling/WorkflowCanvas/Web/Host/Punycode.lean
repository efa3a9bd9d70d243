/-! Names in any script, written in ASCII: first come the characters of ASCII, and behind the last hyphen,
for every other character, how far it is from the one before, in code points and places. -/
namespace WorkflowCanvas.Punycode

/-- The value of a digit, below 36. -/
def digit? (c : Char) : Option Nat :=
  if 'a' ≤ c ∧ c ≤ 'z' then some (c.toNat - 'a'.toNat)
  else if 'A' ≤ c ∧ c ≤ 'Z' then some (c.toNat - 'A'.toNat)
  else if c.isDigit then some (c.toNat - '0'.toNat + 26)
  else none

/-- A number ends with the first digit below the threshold of its place. -/
def threshold (place bias : Nat) : Nat := min 26 (max 1 (place - bias))

/-- How often a distance has to be divided by 35 until it is small, times 36, and what is left of it. -/
def reduce (distance : Nat) : Nat × Nat :=
  if 455 < distance then
    let (places, left) := reduce (distance / 35)
    (places + 36, left)
  else (0, distance)
termination_by distance
decreasing_by omega

/-- The bias after a distance, which lowers the thresholds for distances like it. -/
def adapt (distance count : Nat) (first : Bool) : Nat :=
  let distance := if first then distance / 700 else distance / 2
  let (places, left) := reduce (distance + distance / count)
  places + 36 * left / (left + 38)

/-- What has been read: the text so far, the last code point, the place where to go on, the bias, and of the
number that is being read its value so far, and the weight and the place of its next digit. -/
structure Progress where
  text : List Char
  code : Nat := 128
  index : Nat := 0
  bias : Nat := 72
  value : Nat := 0
  weight : Nat := 1
  place : Nat := 36

/-- Put in the character that a number stands for. -/
def Progress.insert (p : Progress) (distance : Nat) : Option Progress :=
  let count := p.text.length + 1
  let position := p.index + distance
  let code := p.code + position / count
  if code.isValidChar then
    some {
      text := p.text.insertIdx (position % count) (Char.ofNat code)
      code
      index := position % count + 1
      bias := adapt distance count (p.index == 0) }
  else none

def Progress.step (p : Progress) (c : Char) : Option Progress := do
  let d ← digit? c
  let value := p.value + d * p.weight
  let t := threshold p.place p.bias
  if d < t then p.insert value
  else return { p with value, weight := p.weight * (36 - t), place := p.place + 36 }

/-- The text that is written, if it is one. -/
def decode? (cs : List Char) : Option (List Char) := do
  let basic := (cs.reverse.dropWhile (· ≠ '-')).tail.reverse
  let rest := (cs.reverse.takeWhile (· ≠ '-')).reverse
  let p ← rest.foldlM Progress.step { text := basic }
  if p.place = 36 then return p.text else none

end WorkflowCanvas.Punycode
