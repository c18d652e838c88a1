import MeterPolling.Address
import MeterPolling.Options.Integer
import MeterPolling.Text.Split

namespace MeterPolling

namespace IpAddress

def digitsIn? (base : Nat) (cs : List Char) : Option Nat :=
  if cs.isEmpty then none
  else
    cs.foldlM (fun n c =>
      match Text.hexValue? c with
      | some d => if d < base then some (n * base + d) else none
      | none => none) 0

/-- A number in base sixteen behind `0x`, in base eight behind another zero, else in base ten. -/
def number? : List Char → Option Nat
  | '0' :: 'x' :: cs | '0' :: 'X' :: cs => digitsIn? 16 cs
  | ['0'] => some 0
  | '0' :: cs => digitsIn? 8 cs
  | cs => digitsIn? 10 cs

def ofBits (n : Nat) : IpAddress :=
  .v4 (UInt8.ofNat (n / 16777216)) (UInt8.ofNat (n / 65536 % 256)) (UInt8.ofNat (n / 256 % 256))
    (UInt8.ofNat (n % 256))

/-- Up to four numbers with points between them: a byte each, but the last one takes all bytes that are left. -/
def ofNumbers? (cs : List Char) : Option IpAddress := do
  let numbers ← (Text.split '.' cs).mapM number?
  let bytes := numbers.dropLast
  let last ← numbers.getLast?
  if 3 < bytes.length ∨ bytes.any (256 ≤ ·) ∨ Nat.pow 256 (4 - bytes.length) ≤ last then none
  else some (ofBits (bytes.foldl (fun n b => n * 256 + b) 0 * Nat.pow 256 (4 - bytes.length) + last))

/-- An address of version 6, with or without the number of a scope behind a percent sign. -/
def scoped? (cs : List Char) : Option IpAddress :=
  let numbered := match cs.dropWhile (· ≠ '%') with
    | [] => true
    | _ :: scope => !scope.isEmpty && scope.all Char.isDigit
  match parse (cs.takeWhile (· ≠ '%')) with
  | some (.v6 groups eight) => if numbered then some (.v6 groups eight) else none
  | _ => none

def bracketed? : List Char → Option IpAddress
  | '[' :: cs => if cs.getLast? = some ']' then scoped? cs.dropLast else none
  | _ => none

end IpAddress

inductive HostName where
  | ip (address : IpAddress)
  | name (text : String)
  deriving DecidableEq, Repr

structure Endpoint where
  host : HostName
  port : UInt16
  deriving DecidableEq, Repr

inductive EndpointError where
  | port
  | nul
  deriving DecidableEq, Repr

def EndpointError.message : EndpointError → String
  | .port => "invalid port value"
  | .nul => "file name contained an unexpected NUL byte"

/-- Brackets are taken off only in front of a port of nothing but digits. -/
def HostName.ofChars (host port : List Char) : HostName :=
  let found := match IpAddress.bracketed? host with
    | some a => if port.all Char.isDigit then some a else none
    | none => (IpAddress.ofNumbers? host).or (IpAddress.scoped? host)
  match found with
  | some a => .ip a
  | none => .name (String.ofList host)

/-- The port is what follows the last colon, a number of 16 bits. -/
def Endpoint.parse (address : String) : Except EndpointError Endpoint :=
  let backwards := address.toList.reverse
  let port := (backwards.takeWhile (· ≠ ':')).reverse
  let host := ((backwards.dropWhile (· ≠ ':')).drop 1).reverse
  match Options.parseUnsigned (String.ofList port) with
  | .error _ => .error .port
  | .ok n =>
    if 65535 < n then .error .port
    else if '\x00' ∈ host then .error .nul
    else .ok ⟨.ofChars host port, UInt16.ofNat n⟩

end MeterPolling
