import MeterPolling.Decoder

namespace MeterPolling

structure ReadCommand where
  name : String
  register : UInt16
  count : UInt16
  decoder : Decoder
  deriving DecidableEq, Repr

structure WriteCommand where
  name : String
  register : UInt16
  values : List UInt16
  deriving DecidableEq, Repr

/-- The words must be as many as were asked for before the decoder sees them. -/
def ReadCommand.decode (c : ReadCommand) (ws : List UInt16) : Except DecodeError Value :=
  if ws.length = c.count.toNat then c.decoder.decode ws
  else .error (.sizeMismatch c.count.toNat ws.length)

inductive Command where
  | read (c : ReadCommand)
  | write (c : WriteCommand)
  deriving DecidableEq, Repr

namespace Command

def name : Command → String
  | .read c => c.name
  | .write c => c.name

def register : Command → UInt16
  | .read c => c.register
  | .write c => c.register

end Command

end MeterPolling
