import MeterPolling.Address.Endpoint
import MeterPolling.Program
import Std.Async.DNS
import Std.Async.Signal
import Std.Async.TCP
import Std.Async.Timer

namespace MeterPolling.Machine

open Std.Async

def osError : IO.Error → OsError
  | .otherError code text | .resourceBusy code text | .resourceVanished code text
  | .unsupportedOperation code text | .hardwareFault code text | .unsatisfiedConstraints code text
  | .illegalOperation code text | .protocolError code text | .timeExpired code text
  | .interrupted _ code text | .noFileOrDirectory _ code text | .invalidArgument _ code text
  | .permissionDenied _ code text | .resourceExhausted _ code text | .inappropriateType _ code text
  | .noSuchThing _ code text | .alreadyExists _ code text => .ofCode code.toInt32.toInt.natAbs text
  | .unexpectedEof => ⟨0, "unexpected end of file"⟩
  | .userError text => ⟨0, text⟩

def guarded {α : Type} (act : IO α) : IO (Except OsError α) := do
  try return .ok (← act)
  catch e => return .error (osError e)

def now : IO TimeSpan := return ⟨← IO.monoNanosNow⟩

/-- Standard output, which holds back unfinished lines. -/
def terminal (held : IO.Ref String) : IO (Sink IO) := do
  let output ← IO.getStdout
  let put (text : String) : IO (Except OsError Unit) := guarded do
    if !text.isEmpty then
      output.putStr text
      output.flush
  return {
    write text := do
      let (ready, later) := Medium.release Medium.terminalHolds (← held.get) text
      held.set later
      put ready
    flush := do put (← held.modifyGet fun text => (text, "")) }

def openFile (path : String) : IO (Except OsError (Sink IO)) := guarded do
  let handle ← IO.FS.Handle.mk path .write
  let put (text : String) : IO (Except OsError Unit) := guarded do
    handle.putStr text
    handle.flush
  return { write := put, flush := return .ok () }

/-- Sleeps in short turns until a time, or until `stopped` says that it is enough. -/
partial def sleepUntil (stopped : IO Bool) (t : TimeSpan) : IO Unit := do
  let n := (← now).nanoseconds
  if n < t.nanoseconds then
    if !(← stopped) then
      IO.sleep (UInt32.ofNat (min 20 ((t.nanoseconds - n) / 1000000 + 1)))
      sleepUntil stopped t

partial def awaitUntil {α : Type} (task : AsyncTask α) (t : TimeSpan) : IO (Option (Except OsError α)) := do
  if ← IO.hasFinished task then return some (← guarded task.block)
  else if t.nanoseconds ≤ (← now).nanoseconds then return none
  else
    IO.sleep 1
    awaitUntil task t

def deadline (span : TimeSpan) : IO TimeSpan := return ⟨(← now).nanoseconds + span.nanoseconds⟩

abbrev Socket := TCP.Socket.Client

def lookUp (address : String) : IO (Except String (List Std.Net.SocketAddress)) := do
  match Endpoint.parse address with
  | .error e => return .error e.message
  | .ok ⟨host, port⟩ =>
    let host := match host with
      | .ip ip => String.ofList ip.chars
      | .name name => name
    let task ← (DNS.getAddrInfo host (toString port.toNat)).toIO
    match ← guarded task.block with
    | .error e => return .error s!"failed to lookup address information: {e.text}"
    | .ok found =>
      return .ok (found.toList.map fun
        | .v4 a => .v4 ⟨a, port⟩
        | .v6 a => .v6 ⟨a, port⟩)

def connectTo (limit : TimeSpan) (last : OsError) :
    List Std.Net.SocketAddress → IO (Except ConnectFailure Socket)
  | [] => return .error (.connect last.message)
  | a :: rest => do
    let socket ← TCP.Socket.Client.mk
    let task ← (socket.connect a).toIO
    match ← awaitUntil task limit with
    | none => return .error .timeout
    | some (.error e) => connectTo limit e rest
    | some (.ok ()) => return .ok socket

def receiveWithin (socket : Socket) (milliseconds : Nat) : Async (Option (Option ByteArray)) := do
  let sleep ← Selector.sleep (.ofNat milliseconds)
  Selectable.one #[
    .case (socket.recvSelector 4096) fun bytes => return some bytes,
    .case sleep fun _ => return none]

/-- Collects bytes until they are enough, the stream is over or it is too late. -/
partial def collect (socket : Socket) (limit : TimeSpan) (enough : List UInt8 → Bool) (bytes : List UInt8) :
    IO Delivery := do
  if enough bytes then return ⟨bytes, .timeout⟩
  let left := limit.nanoseconds - (← now).nanoseconds
  if left = 0 then return ⟨bytes, .timeout⟩
  match ← guarded (receiveWithin socket (left / 1000000 + 1)).block with
  | .error e => return ⟨bytes, .failed e.message⟩
  | .ok none => return ⟨bytes, .timeout⟩
  | .ok (some none) => return ⟨bytes, .closed⟩
  | .ok (some (some more)) => collect socket limit enough (bytes ++ more.toList)

structure Holding where
  socket : Option Socket := none
  gone : Bool := false

def link (held : IO.Ref Holding) (settings : SessionSettings) : Link IO where
  connect address := do
    if (← held.get).gone then return .error .gone
    match ← lookUp address with
    | .error cause => return .error (.lookup cause)
    | .ok addresses =>
      match ← connectTo (← deadline settings.sendTimeout) ⟨0, "no address"⟩ addresses with
      | .error failure => return .error failure
      | .ok socket =>
        held.set { socket := some socket }
        return .ok ()
  send bytes := do
    match ← held.get with
    | ⟨_, true⟩ => return .error .gone
    | ⟨none, false⟩ => return .error (.failed "not connected")
    | ⟨some socket, false⟩ =>
      let task ← (socket.send ⟨bytes.toArray⟩).toIO
      match ← awaitUntil task (← deadline settings.sendTimeout) with
      | none => return .error .timeout
      | some (.error e) => return .error (.failed e.message)
      | some (.ok ()) =>
        if (← deadline settings.readTimeout).onClock then return .ok ()
        held.modify ({ · with gone := true })
        return .error .gone
  receive enough := do
    match (← held.get).socket with
    | none => return ⟨[], .closed⟩
    | some socket => collect socket (← deadline settings.readTimeout) enough []
  close := held.modify ({ · with socket := none })
  now
  sleepUntil t := do
    if t.onClock then sleepUntil (return false) t
    else held.modify ({ · with gone := true })

def run (arguments : List String) : IO UInt32 := do
  let signal ← Signal.Waiter.mk .sigint false
  let interrupt ← signal.wait
  let stopped : IO Bool := IO.hasFinished interrupt
  let socket ← IO.mkRef {}
  let host : Host IO := {
    files := ⟨← terminal (← IO.mkRef ""), openFile⟩
    watch := ⟨now, sleepUntil stopped, stopped⟩
    link := link socket }
  let filter := (← IO.getEnv Program.logVariable).getD "info"
  let exit ← Program.run host filter arguments
  exit.answer.forM IO.println
  exit.complaint.forM IO.eprintln
  return UInt32.ofNat exit.status

end MeterPolling.Machine

def main (arguments : List String) : IO UInt32 := MeterPolling.Machine.run arguments
