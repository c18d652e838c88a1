namespace MeterPolling.Text

def hexDigit (upper : Bool) (n : Nat) : Char :=
  if n < 10 then Char.ofNat (48 + n)
  else Char.ofNat ((if upper then 55 else 87) + n)

def hexDigitsRev (upper : Bool) : Nat → Nat → List Char
  | 0, _ => []
  | fuel + 1, n =>
    hexDigit upper (n % 16) :: (if n < 16 then [] else hexDigitsRev upper fuel (n / 16))

/-- The digits of `n` without leading zeros; zero has one digit. -/
def hexDigits (upper : Bool) (n : Nat) : List Char :=
  (hexDigitsRev upper (n.log2 / 4 + 1) n).reverse

def hexPadded (upper : Bool) (width n : Nat) : List Char :=
  let digits := hexDigits upper n
  List.replicate (width - digits.length) '0' ++ digits

def lowerHex (width n : Nat) : String := String.ofList (hexPadded false width n)

def upperHex (width n : Nat) : String := String.ofList (hexPadded true width n)

def hexValue? (c : Char) : Option Nat :=
  if '0' ≤ c ∧ c ≤ '9' then some (c.toNat - 48)
  else if 'a' ≤ c ∧ c ≤ 'f' then some (c.toNat - 87)
  else if 'A' ≤ c ∧ c ≤ 'F' then some (c.toNat - 55)
  else none

def hexOfBytes (bs : List UInt8) : String :=
  String.ofList (bs.flatMap fun b => hexPadded false 2 b.toNat)

def bytesOfHex? : List Char → Option (List UInt8)
  | [] => some []
  | [_] => none
  | high :: low :: rest => do
    let h ← hexValue? high
    let l ← hexValue? low
    return UInt8.ofNat (h * 16 + l) :: (← bytesOfHex? rest)

end MeterPolling.Text
