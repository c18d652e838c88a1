import MeterPolling.Decimal.Shortest

namespace MeterPolling

structure NumberStyle where
  tie : TieBreak
  /-- The exponents of the leading digit that are written without an exponent; all if absent. -/
  positional : Option (Int × Int)
  /-- Whether a positional whole number ends in `.0`. -/
  keepsDecimal : Bool
  nan : String
  infinity : String
  negativeInfinity : String

/-- The digits with the point after the first `exponent + 1` of them, zeros filling the gap. -/
def Decimal.positional (keepsDecimal : Bool) (x : Decimal) : String :=
  let digits := Nat.toDigits 10 x.coefficient
  if 0 ≤ x.exponent then
    String.ofList (digits ++ List.replicate x.exponent.toNat '0') ++ (if keepsDecimal then ".0" else "")
  else
    let places := x.exponent.natAbs
    if places < digits.length then
      let whole := digits.length - places
      String.ofList (digits.take whole ++ '.' :: digits.drop whole)
    else
      String.ofList ('0' :: '.' :: (List.replicate (places - digits.length) '0' ++ digits))

def Decimal.leading (x : Decimal) : Int :=
  x.exponent + ((Nat.toDigits 10 x.coefficient).length : Int) - 1

def Decimal.scientific (x : Decimal) : String :=
  let e := x.leading
  let mark := if e < 0 then "e-" else "e+"
  let mantissa := match Nat.toDigits 10 x.coefficient with
    | d :: more@(_ :: _) => String.ofList (d :: '.' :: more)
    | digits => String.ofList digits
  mantissa ++ mark ++ toString e.natAbs

namespace NumberStyle

def magnitude (s : NumberStyle) (f : BinaryFormat) (m : Nat) (q : Int) : String :=
  if m = 0 then (if s.keepsDecimal then "0.0" else "0")
  else
    let x := Decimal.shortest f s.tie m q
    match s.positional with
    | none => x.positional s.keepsDecimal
    | some (low, high) =>
      if low ≤ x.leading ∧ x.leading ≤ high then x.positional s.keepsDecimal else x.scientific

def write (s : NumberStyle) (f : BinaryFormat) : BinaryDatum → String
  | .nan => s.nan
  | .infinite negative => if negative then s.negativeInfinity else s.infinity
  | .finite negative m q => (if negative then "-" else "") ++ s.magnitude f m q

def plain : NumberStyle :=
  { tie := .up, positional := none, keepsDecimal := false
    nan := "NaN", infinity := "inf", negativeInfinity := "-inf" }

/-- For JSON, 32 bits. What is no finite number has no JSON form and becomes `null`. -/
def json32 : NumberStyle :=
  { tie := .even, positional := some (-6, 12), keepsDecimal := true
    nan := "null", infinity := "null", negativeInfinity := "null" }

def json64 : NumberStyle := { json32 with positional := some (-5, 15) }

end NumberStyle

def Binary32.plain (x : Binary32) : String := NumberStyle.plain.write .single x.datum

def Binary32.json (x : Binary32) : String := NumberStyle.json32.write .single x.datum

def Binary64.plain (x : Binary64) : String := NumberStyle.plain.write .double x.datum

def Binary64.json (x : Binary64) : String := NumberStyle.json64.write .double x.datum

end MeterPolling
