import MeterPolling.BigEndian
import MeterPolling.Text.Hex

namespace MeterPolling

inductive IpAddress where
  | v4 (a b c d : UInt8)
  | v6 (groups : List UInt16) (eight : groups.length = 8)
  deriving DecidableEq, Repr

namespace IpAddress

/-- A decimal number below 256 without superfluous zeros. -/
def readByte (cs : List Char) : Option (UInt8 × List Char) :=
  let digits := cs.takeWhile Char.isDigit
  let n := digits.foldl (fun n c => n * 10 + (c.toNat - 48)) 0
  if digits.isEmpty ∨ 3 < digits.length ∨ (digits.head? = some '0' ∧ 1 < digits.length) ∨ 255 < n then none
  else some (UInt8.ofNat n, cs.dropWhile Char.isDigit)

def readPointByte : List Char → Option (UInt8 × List Char)
  | '.' :: cs => readByte cs
  | _ => none

def readV4 (cs : List Char) : Option ((UInt8 × UInt8 × UInt8 × UInt8) × List Char) := do
  let (a, rest) ← readByte cs
  let (b, rest) ← readPointByte rest
  let (c, rest) ← readPointByte rest
  let (d, rest) ← readPointByte rest
  return ((a, b, c, d), rest)

def isHexDigit (c : Char) : Bool := (Text.hexValue? c).isSome

def readGroup (cs : List Char) : Option (UInt16 × List Char) :=
  let digits := cs.takeWhile isHexDigit
  if digits.isEmpty ∨ 4 < digits.length then none
  else
    let n := digits.foldl (fun n c => n * 16 + (Text.hexValue? c).getD 0) 0
    some (UInt16.ofNat n, cs.dropWhile isHexDigit)

def skipColon (first : Bool) : List Char → Option (List Char)
  | ':' :: cs => if first then some (':' :: cs) else some cs
  | cs => if first then some cs else none

/--
Up to `slots` groups with colons between them, and whether the last two of them were written as an
address of version 4, after which none can follow.
-/
def readGroups (first : Bool) : Nat → List Char → List UInt16 × Bool × List Char
  | 0, cs => ([], false, cs)
  | slots + 1, cs =>
    match skipColon first cs with
    | none => ([], false, cs)
    | some rest =>
      match (if 0 < slots then readV4 rest else none) with
      | some ((a, b, c, d), rest) => ([wordOfBytes a b, wordOfBytes c d], true, rest)
      | none =>
        match readGroup rest with
        | none => ([], false, cs)
        | some (g, rest) =>
          let (gs, withBytes, rest) := readGroups false slots rest
          (g :: gs, withBytes, rest)

/-- Eight groups, or fewer around a double colon that stands for the zeros left out. -/
def readV6 (cs : List Char) : Option (List UInt16 × List Char) :=
  let (head, withBytes, rest) := readGroups true 8 cs
  if head.length = 8 then some (head, rest)
  else if withBytes then none
  else
    match rest with
    | ':' :: ':' :: rest =>
      let (tail, _, rest) := readGroups true (7 - head.length) rest
      some (head ++ List.replicate (8 - head.length - tail.length) 0 ++ tail, rest)
    | _ => none

def parse (cs : List Char) : Option IpAddress :=
  match readV4 cs with
  | some ((a, b, c, d), []) => some (.v4 a b c d)
  | _ =>
    match readV6 cs with
    | some (groups, []) => if h : groups.length = 8 then some (.v6 groups h) else none
    | _ => none

def dotted (a b c d : UInt8) : List Char :=
  Nat.toDigits 10 a.toNat ++ '.' :: Nat.toDigits 10 b.toNat ++ '.' :: Nat.toDigits 10 c.toNat ++
    '.' :: Nat.toDigits 10 d.toNat

def groupChars : List UInt16 → List Char
  | [] => []
  | [g] => Text.hexDigits false g.toNat
  | g :: gs => Text.hexDigits false g.toNat ++ ':' :: groupChars gs

def leadingZeros (groups : List UInt16) : Nat := (groups.takeWhile (· = 0)).length

/-- Start and length of the longest run of zeros, the first one of several. -/
def longestZeros (i : Nat) : List UInt16 → Nat × Nat
  | [] => (i, 0)
  | g :: gs =>
    let here := leadingZeros (g :: gs)
    let later := longestZeros (i + 1) gs
    if 0 < here ∧ later.2 ≤ here then (i, here) else later

/--
The canonical text. A run of two zeros or more, the longest, is left out; an address of version 4 inside
one of version 6 keeps its points.
-/
def chars : IpAddress → List Char
  | .v4 a b c d => dotted a b c d
  | .v6 groups _ =>
    match groups with
    | [0, 0, 0, 0, 0, 0xFFFF, high, low] =>
      "::ffff:".toList ++ dotted (UInt8.ofNat (high.toNat / 256)) (UInt8.ofNat (high.toNat % 256))
        (UInt8.ofNat (low.toNat / 256)) (UInt8.ofNat (low.toNat % 256))
    | _ =>
      let (start, length) := longestZeros 0 groups
      if 1 < length then
        groupChars (groups.take start) ++ ':' :: ':' :: groupChars (groups.drop (start + length))
      else groupChars groups

end IpAddress

def defaultPort : List Char := [':', '5', '0', '2']

/-- Without a port, that of Modbus is added. An address of version 6 gets brackets and its canonical form. -/
def addressChars (host : List Char) : List Char :=
  match IpAddress.parse host with
  | some (.v4 a b c d) => IpAddress.dotted a b c d ++ defaultPort
  | some ip => '[' :: ip.chars ++ ']' :: defaultPort
  | none => if host.contains ':' then host else host ++ defaultPort

def addressOf (host : String) : String := String.ofList (addressChars host.toList)

end MeterPolling
