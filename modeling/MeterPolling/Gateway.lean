import MeterPolling.Address.Endpoint
import MeterPolling.Bank
import MeterPolling.Polling
import MeterPolling.Session

namespace MeterPolling

open Modbus

structure GatewayReply where
  before : List UInt8 := []
  /-- Whether the register bank answers between `before` and `after`. -/
  bank : Bool := false
  after : List UInt8 := []
  close : Bool := false
  deriving DecidableEq, Repr

structure GatewayScript where
  connections : List (List GatewayReply) := []
  otherwise : GatewayReply := { bank := true }
  deriving DecidableEq, Repr

structure Accepted where
  replies : List GatewayReply
  /-- The bytes sent that the other side has not taken yet. -/
  inFlight : List UInt8 := []
  closed : Bool := false
  deriving DecidableEq, Repr

structure Network where
  fault : Option OsError := none
  deriving DecidableEq, Repr

/--
A gateway that follows a script. It serves one connection at a time; each request of each connection has a reply in
the script, and one reply serves for all others.
-/
structure Gateway where
  network : Network
  address : Option String
  script : GatewayScript
  bank : Bank
  connection : Option Accepted := none
  /-- The requests received, by connection. -/
  received : List (List (List UInt8)) := []
  now : TimeSpan := .zero
  /-- Whether the link to it has been told to wait beyond the end of the clock. -/
  gone : Bool := false

namespace Gateway

def answer (b : Bank) (r : Request) : Bank × Frame :=
  match r.operation with
  | .readRegisters address count =>
    let data := bytesOfWords (b.read address count.toNat)
    (b, ⟨r.transaction, r.unit, 0x03, UInt8.ofNat data.length :: data⟩)
  | .writeRegisters address values =>
    (b.write address values, ⟨r.transaction, r.unit, 0x10,
      bytesOfWord address ++ bytesOfWord (UInt16.ofNat values.length)⟩)

def logFrame (frame : List UInt8) : List (List (List UInt8)) → List (List (List UInt8))
  | [] => [[frame]]
  | [last] => [last ++ [frame]]
  | first :: more => first :: logFrame frame more

/-- Receives the frame of a request and replies. A closed connection takes no further request. -/
def receiveRequest (g : Gateway) (c : Accepted) (frame : List UInt8) : Gateway :=
  if c.closed then g
  else
    let (reply, replies) := match c.replies with
      | [] => (g.script.otherwise, [])
      | reply :: replies => (reply, replies)
    let (bank, middle) := match reply.bank, Request.decode? frame with
      | true, some (request, _) =>
        let (bank, response) := answer g.bank request
        (bank, response.bytes)
      | _, _ => (g.bank, [])
    let sent := reply.before ++ middle ++ reply.after
    { g with
      bank
      received := logFrame frame g.received
      connection := some { replies, inFlight := c.inFlight ++ sent, closed := reply.close } }

def accept (g : Gateway) : Gateway :=
  let (replies, connections) := match g.script.connections with
    | [] => ([], [])
    | replies :: connections => (replies, connections)
  { g with
    script := { g.script with connections }
    connection := some { replies }
    received := g.received ++ [[]] }

/-- Why the name of a host leads nowhere. The host knows its own name and nobody that could tell another. -/
def lookupFault (name : String) : Option String :=
  if name.toLower = "localhost" then none
  else if name = "*" then some "Name or service not known"
  else some "Temporary failure in name resolution"

def connect (g : Gateway) (address : String) : Except ConnectFailure Unit × Gateway :=
  match Endpoint.parse address with
  | .error e => (.error (.lookup e.message), g)
  | .ok endpoint =>
    let unknown := match endpoint.host with
      | .ip _ => none
      | .name name => lookupFault name
    match unknown, g.network.fault with
    | some cause, _ => (.error (.lookup ("failed to lookup address information: " ++ cause)), g)
    | none, some fault => (.error (.connect fault.message), g)
    | none, none =>
      if g.address = some address then (.ok (), g.accept)
      else (.error (.connect OsError.refused.message), g)

def sleepUntil (g : Gateway) (t : TimeSpan) : Gateway :=
  { g with now := ⟨max g.now.nanoseconds t.nanoseconds⟩ }

/-- Sends a request. The link is gone if the time limit for the answer cannot be told. -/
def send (g : Gateway) (readTimeout : TimeSpan) (frame : List UInt8) : Except SendFailure Unit × Gateway :=
  match g.connection with
  | none => (.error (.failed "Transport endpoint is not connected (os error 107)"), g)
  | some c =>
    let g := g.receiveRequest c frame
    let limit : TimeSpan := ⟨g.now.nanoseconds + readTimeout.nanoseconds⟩
    if limit.onClock then (.ok (), g) else (.error .gone, { g with gone := true })

/-- The gateway as the other end of a link. Whatever bytes it has sent arrive at once. -/
def link (settings : SessionSettings) : Link (StateM Gateway) where
  connect address := fun g => if g.gone then (.error .gone, g) else g.connect address
  send frame := fun g => if g.gone then (.error .gone, g) else g.send settings.readTimeout frame
  receive _ := fun g =>
    match g.connection with
    | some c =>
      (⟨c.inFlight, if c.closed then .closed else .timeout⟩,
        { g with connection := some { c with inFlight := [] } })
    | none => (⟨[], .closed⟩, g)
  close := fun g => ((), { g with connection := none })
  now := return (← get).now
  sleepUntil t := modify fun g => if t.onClock then g.sleepUntil t else { g with gone := true }

def watch : Watch (StateM Gateway) where
  now := return (← get).now
  waitUntil t := modify (·.sleepUntil t)
  stopped := return false

end Gateway

end MeterPolling
