namespace MeterPolling.Options

inductive IntegerError where
  | empty
  | invalidDigit
  | tooLarge
  | tooSmall
  | outOfRange (n : Int) (low high : Nat)
  deriving DecidableEq, Repr

def IntegerError.message : IntegerError → String
  | .empty => "cannot parse integer from empty string"
  | .invalidDigit => "invalid digit found in string"
  | .tooLarge => "number too large to fit in target type"
  | .tooSmall => "number too small to fit in target type"
  | .outOfRange n low high => s!"{n} is not in {low}..={high}"

def pushDigit (limit : Nat) (overflow : IntegerError) (n : Nat) (c : Char) : Except IntegerError Nat :=
  if '0' ≤ c ∧ c ≤ '9' then
    let next := n * 10 + (c.toNat - 48)
    if next ≤ limit then .ok next else .error overflow
  else .error .invalidDigit

/-- At least one digit. Of a wrong digit and a number that grows too large, the one that comes first is reported. -/
def digits (limit : Nat) (overflow : IntegerError) (cs : List Char) : Except IntegerError Nat :=
  if cs.isEmpty then .error .invalidDigit else cs.foldlM (pushDigit limit overflow) 0

def parseUnsigned (s : String) : Except IntegerError Nat :=
  match s.toList with
  | [] => .error .empty
  | '+' :: cs => digits 0xFFFFFFFFFFFFFFFF .tooLarge cs
  | cs => digits 0xFFFFFFFFFFFFFFFF .tooLarge cs

def parseSigned (s : String) : Except IntegerError Int :=
  match s.toList with
  | [] => .error .empty
  | '+' :: cs => (digits 0x7FFFFFFFFFFFFFFF .tooLarge cs).map Int.ofNat
  | '-' :: cs => (digits 0x8000000000000000 .tooSmall cs).map fun n => -(n : Int)
  | cs => (digits 0x7FFFFFFFFFFFFFFF .tooLarge cs).map Int.ofNat

/-- A number of 8 bits, given as any number of 64. -/
def parseByte (s : String) : Except IntegerError UInt8 := do
  let n ← parseSigned s
  if 0 ≤ n ∧ n ≤ 255 then return UInt8.ofNat n.toNat
  else throw (.outOfRange n 0 255)

end MeterPolling.Options
