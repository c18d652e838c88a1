import MeterPolling.Text.Hex
import MeterPolling.TimeSpan

namespace MeterPolling

structure OsError where
  code : Nat
  text : String
  deriving DecidableEq, Repr

namespace OsError

def message (e : OsError) : String := s!"{e.text} (os error {e.code})"

def notFound : OsError := ⟨2, "No such file or directory"⟩
def notDirectory : OsError := ⟨20, "Not a directory"⟩
def directory : OsError := ⟨21, "Is a directory"⟩
def noSpace : OsError := ⟨28, "No space left on device"⟩
def nameTooLong : OsError := ⟨36, "File name too long"⟩
def unreachable : OsError := ⟨101, "Network is unreachable"⟩
def refused : OsError := ⟨111, "Connection refused"⟩

def ofCode (code : Nat) (text : String) : OsError :=
  ([notFound, notDirectory, directory, noSpace, nameTooLong, unreachable, refused].find? (·.code = code)).getD
    ⟨code, text⟩

end OsError

/-- Why there is no answer to a request. A text is the cause as it was given. -/
inductive TransportError where
  | lookup (cause address : String)
  | connect (cause address : String)
  | connectTimeout (address : String)
  | receive (cause : String)
  | send (cause : String)
  | sendTimeout
  | readTimeout (after : TimeSpan)
  | closed
  | exception (code : UInt8)
  | malformed (function : UInt8)
  | mismatched
  | incomplete (expected : UInt16) (actual : Nat)
  | workerGone
  deriving DecidableEq, Repr

namespace TransportError

def chain : TransportError → List String
  | .lookup cause address => [s!"lookup of `{address}` failed", cause]
  | .connect cause address => [s!"could not connect to `{address}` over TCP", cause]
  | .connectTimeout address => [s!"connecting to `{address}` timed out"]
  | .receive cause => ["could not read data from the stream", cause]
  | .send cause => ["could not send out the request", cause]
  | .sendTimeout => ["sending the request timed out"]
  | .readTimeout after => [s!"no response received within {after.display}"]
  | .closed => ["the connection was closed by the device"]
  | .exception code => [s!"the device responded with exception code {code.toNat}"]
  | .malformed function =>
    ["the device sent a malformed response (function code 0x" ++ Text.lowerHex 2 function.toNat ++ ")"]
  | .mismatched => ["the response does not match the request"]
  | .incomplete expected actual => [s!"expected {expected.toNat} registers in the response, got {actual}"]
  | .workerGone => ["the connection worker has stopped"]

end TransportError

def joinCauses (chain : List String) : String := ": ".intercalate chain

end MeterPolling
