import MeterPolling.Cycle
import MeterPolling.Output

namespace MeterPolling

structure ListingSettings where
  category : Category
  output : OutputSettings := {}
  deriving DecidableEq, Repr

inductive ListingError where
  | plan (cause : UnsupportedDevice)
  | output (cause : OutputFailure)
  deriving DecidableEq, Repr

def ListingError.chain : ListingError → List String
  | .plan cause => [cause.message]
  | .output cause => "could not output the plan" :: cause.chain

def ListingError.break? : ListingError → Option String
  | .plan _ => none
  | .output cause => cause.break?

def registerText (register : UInt16) : String :=
  s!"{register.toNat} (0x" ++ Text.upperHex 4 register.toNat ++ ")"

namespace Listing

def headers : List String := ["Kind", "Name", "Register", "Count", "Decoder / Values"]

def entry : Command → Entry
  | .read c =>
    { row := ["read", c.name, registerText c.register, toString c.count.toNat, c.decoder.display]
      record := .object [("kind", .string "read"), ("name", .string c.name),
        ("register", .int c.register.toNat), ("count", .int c.count.toNat),
        ("decoder", .string c.decoder.display)] }
  | .write c =>
    { row := ["write", c.name, registerText c.register, toString c.values.length, wordsText c.values]
      record := .object [("kind", .string "write"), ("name", .string c.name),
        ("register", .int c.register.toNat), ("count", .int c.values.length),
        ("values", .array (c.values.map fun w => .int w.toNat))] }

variable {m : Type → Type} [Monad m]

def write (o : Output m) (p : Plan) : StateT Formatter m (Except OutputFailure Unit) := do
  match ← o.headers headers with
  | .error failure => return .error failure
  | .ok () =>
    match ← o.results (p.commands.map entry) with
    | .error failure => return .error failure
    | .ok () => o.flush

/-- Lists the plan for a category. Nothing is opened unless there is one. -/
def run (registry : Registry) (files : Files m) (settings : ListingSettings) :
    m (Except ListingError Unit) := do
  match registry.get settings.category with
  | .error cause => return .error (.plan cause)
  | .ok plan =>
    match ← Output.start files settings.output with
    | .error failure => return .error (.output failure)
    | .ok o =>
      let result ← (write o plan).run' (Formatter.new settings.output.format)
      return result.mapError .output

end Listing

end MeterPolling
