import MeterPolling.Modbus.Frame

namespace MeterPolling.Modbus

inductive ResponseKind where
  | exception (code : UInt8)
  | values (words : List UInt16)
  | written (address count : UInt16)
  /-- A frame that makes no sense as an answer to what is asked here. -/
  | malformed (function : UInt8)
  deriving DecidableEq, Repr

structure Response where
  unit : UInt8
  transaction : UInt16
  kind : ResponseKind
  deriving DecidableEq, Repr

def Response.exceptionCode? (r : Response) : Option UInt8 :=
  match r.kind with
  | .exception code => some code
  | _ => none

/-- Exception 6: the server is busy and may be asked again. -/
def Response.isBusy (r : Response) : Bool := r.exceptionCode? = some 6

/-- Data come in pairs of bytes; the byte count in front of them is not looked at. -/
def ResponseKind.ofData (data : List UInt8) : ResponseKind :=
  if data.length % 2 = 0 then .values (wordsOfBytes data) else .malformed 0x03

def ResponseKind.classify : UInt8 → List UInt8 → ResponseKind
  | 0x10, [a₁, a₀, c₁, c₀] => .written (wordOfBytes a₁ a₀) (wordOfBytes c₁ c₀)
  | 0x03, _ :: data => .ofData data
  | function, [code] => if 0x80 ≤ function then .exception code else .malformed function
  | function, _ => .malformed function

def Response.ofFrame (f : Frame) : Response := ⟨f.unit, f.transaction, .classify f.function f.data⟩

/-- The response in the next frame and the bytes after it, or those that may still become one. -/
def nextResponse (bs : List UInt8) : Option Response × List UInt8 :=
  match nextFrame bs with
  | (some f, left) => (some (.ofFrame f), left)
  | (none, left) => (none, left)

def takeResponses : Nat → List UInt8 → List Response × List UInt8
  | 0, bs => ([], bs)
  | limit + 1, bs =>
    match nextResponse bs with
    | (none, left) => ([], left)
    | (some r, left) =>
      let (more, left) := takeResponses limit left
      (r :: more, left)

/-- All responses. A response takes at least eight bytes, so there are fewer of them than bytes. -/
def responses (bs : List UInt8) : List Response × List UInt8 := takeResponses (bs.length + 1) bs

structure Feed where
  bytes : List UInt8 := []
  /-- The number of responses asked for; all if absent. -/
  limit : Option Nat := none
  final : Bool := false
  deriving DecidableEq, Repr

structure Drained where
  responses : List Response
  left : List UInt8
  /-- Whether the stream has ended with bytes that are no response, and one was asked for. -/
  truncated : Bool
  deriving DecidableEq, Repr

def Feed.drain (f : Feed) (buffer : List UInt8) : Drained :=
  let bs := buffer ++ f.bytes
  let (taken, left) := takeResponses (f.limit.getD (bs.length + 1)) bs
  let stopped := match f.limit with
    | some n => taken.length < n
    | none => true
  ⟨taken, left, f.final && stopped && !left.isEmpty⟩

def drainAll (buffer : List UInt8) : List Feed → List Drained × List UInt8
  | [] => ([], buffer)
  | f :: rest =>
    let d := f.drain buffer
    let (more, left) := drainAll d.left rest
    (d :: more, left)

end MeterPolling.Modbus
