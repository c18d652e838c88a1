import MeterPolling.Modbus.Frame

namespace MeterPolling.Modbus

inductive Operation where
  | readRegisters (address count : UInt16)
  | writeRegisters (address : UInt16) (values : List UInt16)
  deriving DecidableEq, Repr

structure Request where
  unit : UInt8
  transaction : UInt16
  operation : Operation
  deriving DecidableEq, Repr

def maxWriteCount : Nat := 123

inductive EncodeError where
  | tooManyRegisters
  | frameTooLong
  deriving DecidableEq, Repr

def EncodeError.message : EncodeError → String
  | .tooManyRegisters => "too many registers for a single write"
  | .frameTooLong => "request does not fit a frame"

namespace Operation

def function : Operation → UInt8
  | .readRegisters _ _ => 0x03
  | .writeRegisters _ _ => 0x10

def data : Operation → List UInt8
  | .readRegisters address count => bytesOfWord address ++ bytesOfWord count
  | .writeRegisters address values =>
    bytesOfWord address ++ bytesOfWord (UInt16.ofNat values.length) ++
      UInt8.ofNat (2 * values.length) :: bytesOfWords values

def tooLong : Operation → Bool
  | .readRegisters _ _ => false
  | .writeRegisters _ values => maxWriteCount < values.length

/-- Reads an operation; byte count and register count of a write must agree. -/
def decode? : UInt8 → List UInt8 → Option Operation
  | 0x03, [a₁, a₀, c₁, c₀] => some (.readRegisters (wordOfBytes a₁ a₀) (wordOfBytes c₁ c₀))
  | 0x10, a₁ :: a₀ :: c₁ :: c₀ :: n :: data =>
    if n.toNat = data.length ∧ (wordOfBytes c₁ c₀).toNat * 2 = data.length then
      some (.writeRegisters (wordOfBytes a₁ a₀) (wordsOfBytes data))
    else none
  | _, _ => none

end Operation

namespace Request

def frame (r : Request) : Frame := ⟨r.transaction, r.unit, r.operation.function, r.operation.data⟩

def encode (r : Request) : Except EncodeError (List UInt8) :=
  if r.operation.tooLong then .error .tooManyRegisters
  else if r.frame.fits then .ok r.frame.bytes
  else .error .frameTooLong

/-- Puts a request behind what is in a buffer. One that has no frame leaves the buffer as it is. -/
def append (r : Request) (buffer : List UInt8) : Except EncodeError Unit × List UInt8 :=
  match r.encode with
  | .ok bs => (.ok (), buffer ++ bs)
  | .error e => (.error e, buffer)

def appendAll (buffer : List UInt8) : List Request → List (Except EncodeError Unit) × List UInt8
  | [] => ([], buffer)
  | r :: rest =>
    let (result, buffer) := r.append buffer
    let (results, buffer) := appendAll buffer rest
    (result :: results, buffer)

def ofFrame? (f : Frame) : Option Request :=
  (Operation.decode? f.function f.data).map fun operation => ⟨f.unit, f.transaction, operation⟩

def decode? (bs : List UInt8) : Option (Request × List UInt8) := do
  let (f, rest) ← Frame.read? bs
  return (← ofFrame? f, rest)

def decodeMany? : Nat → List UInt8 → Option (List Request)
  | _, [] => some []
  | 0, _ :: _ => none
  | fuel + 1, bs => do
    let (r, rest) ← decode? bs
    return r :: (← decodeMany? fuel rest)

/-- Reads requests up to the last byte. A request takes more than one byte. -/
def decodeAll? (bs : List UInt8) : Option (List Request) := decodeMany? bs.length bs

end Request

end MeterPolling.Modbus
