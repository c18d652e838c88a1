import MeterPolling.Binary

namespace MeterPolling

/-- The number `coefficient · 10 ^ exponent`. -/
structure Decimal where
  coefficient : Nat
  exponent : Int
  deriving DecidableEq, Repr

inductive TieBreak where
  | up
  | even
  deriving DecidableEq, Repr

/-- The numbers that round to one binary number, as whole numbers over a common denominator. -/
structure RoundingInterval where
  low : Nat
  value : Nat
  high : Nat
  denominator : Nat
  closed : Bool
  deriving DecidableEq, Repr

/--
The interval around `m · 2 ^ q`, reaching half way to both neighbours. Below a power of two the
neighbours are twice as dense. The ends round to the number itself iff its significand is even.
-/
def BinaryFormat.interval (f : BinaryFormat) (m : Nat) (q : Int) : RoundingInterval :=
  let scale := Nat.pow 2 (q - 2).toNat
  let below := if m = Nat.pow 2 f.fractionBits ∧ f.minExponent < q then 1 else 2
  { low := (4 * m - below) * scale
    value := 4 * m * scale
    high := (4 * m + 2) * scale
    denominator := Nat.pow 2 (2 - q).toNat
    closed := m % 2 = 0 }

namespace Decimal

def digitCount (n : Nat) : Nat := (Nat.toDigits 10 n).length

/-- The largest `e` with `10 ^ e ≤ n / d`, for positive `n`. -/
def leadingExponent (n d : Nat) : Int :=
  if d ≤ n then (digitCount (n / d) : Int) - 1
  else -(digitCount ((d + n - 1) / n - 1) : Int)

def dropZeros : Nat → Decimal → Decimal
  | 0, x => x
  | fuel + 1, x =>
    if x.coefficient % 10 = 0 then dropZeros fuel ⟨x.coefficient / 10, x.exponent + 1⟩ else x

/-- Of the two multiples of `10 ^ k` around the value, the nearer one that lies in the interval. -/
def onGrid? (i : RoundingInterval) (tie : TieBreak) (k : Int) : Option Nat :=
  let up := Nat.pow 10 k.toNat * i.denominator
  let down := Nat.pow 10 (-k).toNat
  let inside (d : Nat) : Bool :=
    if i.closed then i.low * down ≤ d * up ∧ d * up ≤ i.high * down
    else i.low * down < d * up ∧ d * up < i.high * down
  let d := i.value * down / up
  let twice := 2 * (i.value * down % up)
  match inside d, inside (d + 1) with
  | false, false => none
  | true, false => some d
  | false, true => some (d + 1)
  | true, true =>
    if twice < up then some d
    else if twice > up then some (d + 1)
    else match tie with
      | .up => some (d + 1)
      | .even => some (if d % 2 = 0 then d else d + 1)

def firstGrid (i : RoundingInterval) (tie : TieBreak) : Nat → Int → Decimal
  | 0, k => ⟨i.value * Nat.pow 10 (-k).toNat / (Nat.pow 10 k.toNat * i.denominator), k⟩
  | fuel + 1, k =>
    match onGrid? i tie k with
    | some d => ⟨d, k⟩
    | none => firstGrid i tie fuel (k - 1)

/-- The shortest decimal for `m · 2 ^ q`, `m` positive; seventeen digits always suffice. -/
def shortest (f : BinaryFormat) (tie : TieBreak) (m : Nat) (q : Int) : Decimal :=
  let i := f.interval m q
  (firstGrid i tie 17 (leadingExponent i.value i.denominator)).dropZeros 17

end Decimal

end MeterPolling
