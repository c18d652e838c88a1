import MeterPolling.BigEndian

namespace MeterPolling.Modbus

structure Header where
  transaction : UInt16
  protocol : UInt16
  /-- The number of bytes from the unit on. -/
  length : UInt16
  unit : UInt8
  deriving DecidableEq, Repr

namespace Header

def read? : List UInt8 → Option Header
  | t₁ :: t₀ :: p₁ :: p₀ :: l₁ :: l₀ :: unit :: _ =>
    some ⟨wordOfBytes t₁ t₀, wordOfBytes p₁ p₀, wordOfBytes l₁ l₀, unit⟩
  | _ => none

def bytes (h : Header) : List UInt8 :=
  bytesOfWord h.transaction ++ bytesOfWord h.protocol ++ bytesOfWord h.length ++ [h.unit]

/-- Whether a frame may start with this header: protocol zero, and a unit and a function code follow. -/
def startsFrame (h : Header) : Bool := h.protocol = 0 ∧ 2 ≤ h.length.toNat

def frameLength (h : Header) : Nat := 6 + h.length.toNat

end Header

structure Frame where
  transaction : UInt16
  unit : UInt8
  function : UInt8
  data : List UInt8
  deriving DecidableEq, Repr

namespace Frame

def length (f : Frame) : Nat := f.data.length + 2

def fits (f : Frame) : Bool := f.length ≤ 65535

def header (f : Frame) : Header := ⟨f.transaction, 0, UInt16.ofNat f.length, f.unit⟩

def bytes (f : Frame) : List UInt8 := f.header.bytes ++ f.function :: f.data

end Frame

/-- The frame behind the header in front, if all of it is there, and the bytes after it. -/
def Header.frame? (h : Header) (bs : List UInt8) : Option (Frame × List UInt8) :=
  if bs.length < h.frameLength then none
  else
    match (bs.take h.frameLength).drop 7 with
    | function :: data => some (⟨h.transaction, h.unit, function, data⟩, bs.drop h.frameLength)
    | [] => none

def Frame.read? (bs : List UInt8) : Option (Frame × List UInt8) := do
  let h ← Header.read? bs
  if h.startsFrame then h.frame? bs else none

/--
The next frame and the bytes after it. Where none can be taken yet, the bytes that may still become
one.
-/
def nextFrame : List UInt8 → Option Frame × List UInt8
  | [] => (none, [])
  | b :: rest =>
    match Header.read? (b :: rest) with
    | none => (none, b :: rest)
    | some h =>
      if h.startsFrame then
        match h.frame? (b :: rest) with
        | some (f, left) => (some f, left)
        | none => (none, b :: rest)
      else nextFrame rest

end MeterPolling.Modbus
