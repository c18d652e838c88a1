namespace MeterPolling

structure BinaryFormat where
  fractionBits : Nat
  exponentBits : Nat

/-- What a pattern stands for; a finite one is ± significand · 2 ^ exponent. -/
inductive BinaryDatum where
  | nan
  | infinite (negative : Bool)
  | finite (negative : Bool) (significand : Nat) (exponent : Int)
  deriving DecidableEq, Repr

namespace BinaryFormat

def single : BinaryFormat := ⟨23, 8⟩

def double : BinaryFormat := ⟨52, 11⟩

def minExponent (f : BinaryFormat) : Int :=
  2 - Nat.pow 2 (f.exponentBits - 1) - f.fractionBits

def infinity (f : BinaryFormat) : Nat :=
  (Nat.pow 2 f.exponentBits - 1) * Nat.pow 2 f.fractionBits

def signBit (f : BinaryFormat) : Nat :=
  Nat.pow 2 (f.fractionBits + f.exponentBits)

def quietNan (f : BinaryFormat) : Nat :=
  f.infinity + Nat.pow 2 (f.fractionBits - 1)

def unpack (f : BinaryFormat) (bits : Nat) : BinaryDatum :=
  let fraction := bits % Nat.pow 2 f.fractionBits
  let exponent := bits / Nat.pow 2 f.fractionBits % Nat.pow 2 f.exponentBits
  let negative := bits / f.signBit % 2 = 1
  if exponent = Nat.pow 2 f.exponentBits - 1 then
    if fraction = 0 then .infinite negative else .nan
  else if exponent = 0 then .finite negative fraction f.minExponent
  else .finite negative (Nat.pow 2 f.fractionBits + fraction) (f.minExponent + exponent - 1)

/-- `m / 2 ^ s` to the nearest whole number, a half going to the even neighbour. -/
def shiftRoundEven (m s : Nat) : Nat :=
  let unit := Nat.pow 2 s
  let whole := m / unit
  let twice := 2 * (m % unit)
  if twice > unit ∨ (twice = unit ∧ whole % 2 = 1) then whole + 1 else whole

/--
The pattern nearest to `m · 2 ^ q`, ties going to the even significand. A pattern without its sign is
the number of patterns below it, so a carry out of the significand lands on the next exponent by itself.
-/
def roundMagnitude (f : BinaryFormat) (m : Nat) (q : Int) : Nat :=
  if m = 0 then 0
  else
    let place := max f.minExponent (q + m.log2 - f.fractionBits)
    let significand :=
      if place ≤ q then m * Nat.pow 2 (q - place).toNat else shiftRoundEven m (place - q).toNat
    min f.infinity ((place - f.minExponent).toNat * Nat.pow 2 f.fractionBits + significand)

def round (f : BinaryFormat) (negative : Bool) (m : Nat) (q : Int) : Nat :=
  (if negative then f.signBit else 0) + f.roundMagnitude m q

def pack (f : BinaryFormat) : BinaryDatum → Nat
  | .nan => f.quietNan
  | .infinite negative => (if negative then f.signBit else 0) + f.infinity
  | .finite negative m q => f.round negative m q

end BinaryFormat

/-- The product before rounding; infinity times zero is no number. -/
def BinaryDatum.mul : BinaryDatum → BinaryDatum → BinaryDatum
  | .nan, _ => .nan
  | _, .nan => .nan
  | .infinite s, .infinite t => .infinite (s != t)
  | .infinite s, .finite t m _ => if m = 0 then .nan else .infinite (s != t)
  | .finite s m _, .infinite t => if m = 0 then .nan else .infinite (s != t)
  | .finite s m p, .finite t n q => .finite (s != t) (m * n) (p + q)

structure Binary32 where
  bits : UInt32
  deriving DecidableEq, Repr

structure Binary64 where
  bits : UInt64
  deriving DecidableEq, Repr

namespace Binary32

def datum (x : Binary32) : BinaryDatum := BinaryFormat.single.unpack x.bits.toNat

def widen (x : Binary32) : Binary64 := ⟨UInt64.ofNat (BinaryFormat.double.pack x.datum)⟩

end Binary32

namespace Binary64

def datum (x : Binary64) : BinaryDatum := BinaryFormat.double.unpack x.bits.toNat

def ofInt (n : Int) : Binary64 :=
  ⟨UInt64.ofNat (BinaryFormat.double.round (n < 0) n.natAbs 0)⟩

def mul (x y : Binary64) : Binary64 :=
  ⟨UInt64.ofNat (BinaryFormat.double.pack (x.datum.mul y.datum))⟩

instance : Mul Binary64 := ⟨mul⟩

end Binary64

end MeterPolling
