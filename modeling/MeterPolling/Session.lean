import MeterPolling.Address
import MeterPolling.Client
import MeterPolling.Modbus.Request
import MeterPolling.Modbus.Response

namespace MeterPolling

open Modbus

structure SessionSettings where
  host : String
  unit : UInt8 := 0
  readTimeout : TimeSpan := .ofSeconds 1
  sendTimeout : TimeSpan := .ofSeconds 3
  retries : Nat := 0
  sendDelay : TimeSpan := .zero
  busyDelay : TimeSpan := .ofMilliseconds 25
  deriving DecidableEq, Repr

inductive ConnectFailure where
  | lookup (cause : String)
  | connect (cause : String)
  | timeout
  | gone
  deriving DecidableEq, Repr

inductive SendFailure where
  | failed (cause : String)
  | timeout
  | gone
  deriving DecidableEq, Repr

inductive Ending where
  | closed
  | timeout
  | failed (cause : String)
  deriving DecidableEq, Repr

structure Delivery where
  bytes : List UInt8
  ending : Ending
  deriving DecidableEq, Repr

/-- What a session needs of the world. A link that is to wait beyond the end of the clock is gone for good. -/
structure Link (m : Type → Type) where
  connect : String → m (Except ConnectFailure Unit)
  /-- Sends a request, which sets the time limit for its answer. -/
  send : List UInt8 → m (Except SendFailure Unit)
  /-- Waits until the bytes so far are enough, or until no more come. -/
  receive : (List UInt8 → Bool) → m Delivery
  close : m Unit
  now : m TimeSpan
  sleepUntil : TimeSpan → m Unit

def Link.lift {m : Type → Type} [Monad m] {σ : Type} (l : Link m) : Link (StateT σ m) where
  connect address := StateT.lift (l.connect address)
  send bytes := StateT.lift (l.send bytes)
  receive enough := StateT.lift (l.receive enough)
  close := StateT.lift l.close
  now := StateT.lift l.now
  sleepUntil t := StateT.lift (l.sleepUntil t)

/--
What a session remembers between requests. Its connection is opened by the first request, kept while requests are
answered, and dropped after any failure with all bytes that belong to no answer.
-/
structure Session where
  /-- The bytes left over on the open connection; absent while there is none. -/
  buffer : Option (List UInt8) := none
  nextTransaction : UInt16 := 0
  lastSend : Option TimeSpan := none
  deriving DecidableEq, Repr

/-- The first response with the given number among at most `fuel` responses; those before it are dropped. -/
def findResponseIn (transaction : UInt16) : Nat → List UInt8 → Option Response × List UInt8
  | 0, bs => (none, bs)
  | fuel + 1, bs =>
    match nextResponse bs with
    | (none, left) => (none, left)
    | (some r, left) =>
      if r.transaction = transaction then (some r, left) else findResponseIn transaction fuel left

def findResponse (transaction : UInt16) (bs : List UInt8) : Option Response × List UInt8 :=
  findResponseIn transaction (bs.length + 1) bs

def truncatedStream : String := "bytes remaining on stream"

/-- The error when the bytes end without an answer and `left` of them are no response. -/
def Ending.error (readTimeout : TimeSpan) (left : List UInt8) : Ending → TransportError
  | .closed => if left.isEmpty then .closed else .receive truncatedStream
  | .timeout => .readTimeout readTimeout
  | .failed cause => .receive cause

def ConnectFailure.error (address : String) : ConnectFailure → TransportError
  | .lookup cause => .lookup cause address
  | .connect cause => .connect cause address
  | .timeout => .connectTimeout address
  | .gone => .workerGone

def SendFailure.error : SendFailure → TransportError
  | .failed cause => .send cause
  | .timeout => .sendTimeout
  | .gone => .workerGone

variable {m : Type → Type} [Monad m]

def awaitResponse (link : Link m) (readTimeout : TimeSpan) (transaction : UInt16) (buffer : List UInt8) :
    m (Except TransportError (Response × List UInt8)) := do
  match findResponse transaction buffer with
  | (some r, left) => return .ok (r, left)
  | (none, left) =>
    let delivery ← link.receive fun bytes => (findResponse transaction (left ++ bytes)).1.isSome
    match findResponse transaction (left ++ delivery.bytes) with
    | (some r, left) => return .ok (r, left)
    | (none, left) => return .error (delivery.ending.error readTimeout left)

def roundTrip (link : Link m) (settings : SessionSettings) (request : Request) (buffer : List UInt8) :
    m (Except TransportError (Response × List UInt8)) := do
  match request.encode with
  | .error e => return .error (.send e.message)
  | .ok frame =>
    match ← link.send frame with
    | .error failure => return .error failure.error
    | .ok () => awaitResponse link settings.readTimeout request.transaction buffer

def openBuffer (link : Link m) (settings : SessionSettings) (s : Session) :
    m (Except TransportError (List UInt8)) := do
  match s.buffer with
  | some buffer => return .ok buffer
  | none =>
    let address := addressOf settings.host
    match ← link.connect address with
    | .error failure => return .error (failure.error address)
    | .ok () => return .ok []

/-- One request and its answer. The connection is kept only if there is an answer. -/
def exchange (link : Link m) (settings : SessionSettings) (request : Request) (s : Session) :
    m (Except TransportError Response × Session) := do
  match ← openBuffer link settings s with
  | .error e => return (.error e, { s with buffer := none })
  | .ok buffer =>
    match s.lastSend with
    | some last => link.sleepUntil ⟨last.nanoseconds + settings.sendDelay.nanoseconds⟩
    | none => pure ()
    let s := { s with buffer := none, lastSend := some (← link.now) }
    match ← roundTrip link settings request buffer with
    | .error e =>
      link.close
      return (.error e, s)
    | .ok (response, left) => return (.ok response, { s with buffer := some left })

namespace Session

/-- The number for the next attempt. Numbers start over after 65535. -/
def takeTransaction (s : Session) : UInt16 × Session :=
  (s.nextTransaction, { s with nextTransaction := s.nextTransaction + 1 })

def send (link : Link m) (settings : SessionSettings) (operation : Operation) :
    StateT Session m (Except TransportError Response) := fun s =>
  let (transaction, s) := s.takeTransaction
  exchange link settings ⟨settings.unit, transaction, operation⟩ s

inductive Retry where
  | no
  | afterTimeout
  | afterBusy
  deriving DecidableEq, Repr

/-- Timeouts and a busy server may be retried; every other failure and every other answer is final. -/
def Retry.of : Except TransportError Response → Retry
  | .error (.readTimeout _) | .error .sendTimeout => .afterTimeout
  | .error _ => .no
  | .ok response => if response.isBusy then .afterBusy else .no

/-- An attempt and up to `retries` further ones, with a pause in front of those that follow a busy answer. -/
def retrying (attempt : m (Except TransportError Response)) (pause : m Unit) :
    Nat → m (Except TransportError Response)
  | 0 => attempt
  | retries + 1 => do
    let result ← attempt
    match Retry.of result with
    | .no => return result
    | .afterTimeout => retrying attempt pause retries
    | .afterBusy =>
      pause
      retrying attempt pause retries

def pause (link : Link m) (settings : SessionSettings) : m Unit := do
  link.sleepUntil ((← link.now).pauseEnd settings.busyDelay)

def sendRetrying (link : Link m) (settings : SessionSettings) (operation : Operation) :
    StateT Session m (Except TransportError Response) :=
  retrying (send link settings operation) (StateT.lift (pause link settings)) settings.retries

def reading (count : UInt16) (response : Response) : Except TransportError (List UInt16) :=
  match response.kind with
  | .values words =>
    if words.length = count.toNat then .ok words else .error (.incomplete count words.length)
  | .exception code => .error (.exception code)
  | .malformed function => .error (.malformed function)
  | .written _ _ => .error .mismatched

def acknowledgement (register : UInt16) (count : Nat) (response : Response) : Except TransportError Unit :=
  match response.kind with
  | .written address written =>
    if address = register ∧ written.toNat = count then .ok () else .error .mismatched
  | .exception code => .error (.exception code)
  | .malformed function => .error (.malformed function)
  | .values _ => .error .mismatched

def client (link : Link m) (settings : SessionSettings) : Client (StateT Session m) where
  read register count := do
    let result ← sendRetrying link settings (.readRegisters register count)
    return result.bind (reading count)
  write register values := do
    let result ← sendRetrying link settings (.writeRegisters register values)
    return result.bind (acknowledgement register values.length)

end Session

end MeterPolling
