/-! The shortest decimal that reads back as a given double precision number. A positive finite
number is `mantissa * 2 ^ exponent`; the reals that round to it form an interval, whose ends belong
to it when the mantissa is even. The shortest decimal lies on the coarsest grid of powers of ten
with a point in that interval. -/
namespace WorkflowCanvas

/-- The number `digits * 10 ^ exponent`. -/
structure Decimal where
  digits : Nat
  exponent : Int
  deriving Repr, DecidableEq

namespace Decimal

/-- Which of two neighbours at the same distance is taken. -/
inductive Tie where
  | even
  | up
  deriving DecidableEq

/-- A positive number `mantissa * 2 ^ exponent` among its binary neighbours. `narrow` holds where the
neighbour below is only half as far away as the one above. -/
structure Binary where
  mantissa : Nat
  exponent : Int
  narrow : Bool

/-- The mantissa and the exponent of the absolute value of a finite number. -/
def Binary.ofFloat (x : Float) : Binary :=
  let bits : Nat := x.toBits.toNat
  let field : Nat := bits / Nat.pow 2 52 % Nat.pow 2 11
  let fraction : Nat := bits % Nat.pow 2 52
  if field = 0 then ⟨fraction, -1074, false⟩
  else ⟨Nat.pow 2 52 + fraction, (field : Int) - 1075, fraction = 0 && field > 1⟩

/-- Twice a power of two on one side, so that the whole of a comparison stays in natural numbers:
a number is `units * up / down`. -/
structure Scale where
  up : Nat
  down : Nat

/-- Quarters of the last binary place. -/
def Binary.scale (b : Binary) : Scale :=
  ⟨Nat.pow 2 (b.exponent - 2).toNat, Nat.pow 2 (2 - b.exponent).toNat⟩

/-- Whether the grid point `n * 10 ^ k` rounds to the number. -/
def Binary.holds (b : Binary) (n : Nat) (k : Int) : Bool :=
  let s := b.scale
  let point := n * Nat.pow 10 k.toNat * s.down
  let unit := s.up * Nat.pow 10 (-k).toNat
  let low := (4 * b.mantissa - if b.narrow then 1 else 2) * unit
  let high := (4 * b.mantissa + 2) * unit
  if b.mantissa % 2 = 0 then low ≤ point && point ≤ high else low < point && point < high

/-- The grid point below the number or equal to it, in units of `10 ^ k`, and the two parts
of the comparison of the rest with half a unit. -/
def Binary.below (b : Binary) (k : Int) : Nat × Nat × Nat :=
  let s := b.scale
  let value := 4 * b.mantissa * s.up * Nat.pow 10 (-k).toNat
  let unit := s.down * Nat.pow 10 k.toNat
  (value / unit, 2 * (value % unit), unit)

/-- The grid point in steps of `10 ^ k` that reads back, the nearer one if both neighbours do. -/
def Binary.onGrid? (b : Binary) (tie : Tie) (k : Int) : Option Nat :=
  let (n, rest, unit) := b.below k
  match b.holds n k, b.holds (n + 1) k with
  | false, false => none
  | true, false => some n
  | false, true => some (n + 1)
  | true, true =>
    if rest < unit then some n
    else if unit < rest then some (n + 1)
    else match tie with
      | .up => some (n + 1)
      | .even => if n % 2 = 0 then some n else some (n + 1)

/-- The first grid with a hit, from steps of `10 ^ k` downwards. -/
def Binary.search (b : Binary) (tie : Tie) : Nat → Int → Decimal
  | 0, k => ⟨(b.below k).1, k⟩
  | fuel + 1, k =>
    match b.onGrid? tie k with
    | some n => ⟨n, k⟩
    | none => b.search tie fuel (k - 1)

/-- The shortest decimal that reads back as the absolute value of the finite number `x`, and of
those the nearest; zero for a zero. A grid coarser than the whole number has no hit, so the search
starts above it, and the grid of seventeen digits has one. -/
def shortest (tie : Tie) (x : Float) : Decimal :=
  let b := Binary.ofFloat x
  if b.mantissa = 0 then ⟨0, 0⟩
  else b.search tie 40 (((b.exponent + 54) * 30103).fdiv 100000 + 1)

end Decimal
end WorkflowCanvas
