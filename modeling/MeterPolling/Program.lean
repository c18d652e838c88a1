import MeterPolling.Options.LogFilter
import MeterPolling.Options.Settings

namespace MeterPolling

inductive Invocation where
  | listing (settings : ListingSettings)
  | probe (settings : ProbeSettings)
  deriving DecidableEq, Repr

namespace Invocation

open Options

def specs : List (Spec Unit) := [helpSpec, ⟨"version", some 'V', .instead .version⟩]

def topic : List String → UsageError
  | [] | ["plan"] | ["probe"] | ["help"] => .help
  | _ => .unknown

/-- The first argument is the subcommand; one that is an option asks for something else. -/
def parse : List String → Except UsageError Invocation
  | "plan" :: rest => (readListing rest).map .listing
  | "probe" :: rest => (readProbe rest).map .probe
  | "help" :: rest => .error (topic rest)
  | arguments => do
    let _ ← Progress.readAll specs arguments { settings := () }
    throw .missing

end Invocation

structure Exit where
  status : Nat
  answer : List String := []
  complaint : List String := []
  deriving DecidableEq, Repr

def Options.UsageError.message : Options.UsageError → String
  | .unknown => "an argument is not known"
  | .invalidValue => "an option has no value, or one that it cannot have"
  | .rejected reason => s!"an option has a value that it cannot have: {reason}"
  | .broken complaint => complaint
  | .conflict => "an option is given twice, or together with one that excludes it"
  | .missing => "something is missing that has to be given"
  | .unexpectedValue => "an option has a value, but takes none"
  | .help => "help is asked for"
  | .version => "the version is asked for"

namespace Exit

def success : Exit := { status := 0 }

def failure : List String → Exit
  | [] => { status := 1 }
  | e :: causes => { status := 1, complaint := ("error: " ++ e) :: causes.map ("  because: " ++ ·) }

def help : List String := [
  "plan --device <DEVICE> [--format <FORMAT>] [--output <FILE>]",
  "  List the commands of a poll cycle.",
  "probe --tcp <HOST[:PORT]> --device <DEVICE> [OPTIONS]",
  "  Poll a meter and print what it reports.",
  "  --unit-id <N>  --cycles <N>  --forever  --interval <TIME>  --stop-on-error",
  "  --retries <N>  --read-timeout <TIME>  --send-timeout <TIME>  --tcp-send-delay <TIME>",
  "  --server-busy-retry-delay <TIME>  --format <FORMAT>  --output <FILE>",
  "DEVICE is abb or schneider, FORMAT is table, jsonl or csv, TIME is a span such as 1m 30s."]

def broken (complaint : String) : Exit := { status := 101, complaint := ["the program broke off: " ++ complaint] }

def usage (e : Options.UsageError) : Exit :=
  match e with
  | .help => { status := 0, answer := help }
  | .version => { status := 0, answer := ["0.1.0"] }
  | .broken complaint => broken complaint
  | e => { status := 2, complaint := ("error: " ++ e.message) :: help }

/-- A result as an exit. A break is no error of the program's making. -/
def ofResult {ε : Type} (chain : ε → List String) (broke : ε → Option String) : Except ε Unit → Exit
  | .ok () => success
  | .error e =>
    match broke e with
    | some complaint => broken complaint
    | none => failure (chain e)

end Exit

structure Host (m : Type → Type) where
  files : Files m
  watch : Watch m
  link : SessionSettings → Link m

namespace Program

def logVariable : String := "METER_PROBE_LOG"

variable {m : Type → Type} [Monad m]

def serve (host : Host m) : Invocation → m Exit
  | .listing settings => do
    let result ← Listing.run .builtin host.files settings
    return .ofResult ListingError.chain ListingError.break? result
  | .probe settings => do
    let client := Session.client (host.link settings.session) settings.session
    let result ← (Probe.run .builtin host.files.lift host.watch.lift client settings).run' {}
    return .ofResult ProbeError.chain ProbeError.break? result

/-- Nothing happens unless the log filter and then the arguments are understood. -/
def run (host : Host m) (logFilter : String) (arguments : List String) : m Exit :=
  match Options.checkLogFilter logFilter with
  | .error e => return .failure [s!"{logVariable} is not a valid log filter: {e.message}"]
  | .ok () =>
    match Invocation.parse arguments with
    | .error e => return .usage e
    | .ok invocation => serve host invocation

end Program

end MeterPolling
