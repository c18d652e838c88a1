import MeterPolling.Transport

namespace MeterPolling

/--
What a request does besides answering is an effect, so that one program runs against a meter, a simulation or any
other client.
-/
structure Client (m : Type → Type) where
  read : UInt16 → UInt16 → m (Except TransportError (List UInt16))
  write : UInt16 → List UInt16 → m (Except TransportError Unit)

inductive Call where
  | read (register count : UInt16)
  | write (register : UInt16) (values : List UInt16)
  deriving DecidableEq, Repr

namespace Client

variable {m : Type → Type} [Monad m]

def lift {σ : Type} (c : Client m) : Client (StateT σ m) where
  read register count := StateT.lift (c.read register count)
  write register values := StateT.lift (c.write register values)

/-- The same client, keeping a list of its calls, the first call first. -/
def logged (c : Client m) : Client (StateT (List Call) m) where
  read register count := do
    modify (· ++ [.read register count])
    c.read register count
  write register values := do
    modify (· ++ [.write register values])
    c.write register values

end Client

end MeterPolling
