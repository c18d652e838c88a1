import MeterPolling.Listing
import MeterPolling.Polling
import MeterPolling.Session

namespace MeterPolling

structure ProbeSettings where
  session : SessionSettings
  category : Category
  pace : Pace := {}
  output : OutputSettings := {}
  deriving DecidableEq, Repr

inductive ProbeError where
  | output (cause : OutputFailure)
  | poll (cause : PollError OutputFailure)
  deriving Repr

def ProbeError.chain : ProbeError → List String
  | .output cause => "could not output the readings" :: cause.chain
  | .poll cause => "polling the meter failed" :: cause.chain OutputFailure.chain

def ProbeError.break? : ProbeError → Option String
  | .output cause => cause.break?
  | .poll cause =>
    match cause with
    | .beyondClock => some (joinCauses (cause.chain OutputFailure.chain))
    | _ => none

namespace Probe

def headers : List String := ["Cycle", "Command", "Register", "Value"]

def outcomeEntry (cycle : Nat) (o : Outcome) : Entry where
  row := [toString cycle, o.name, registerText o.register, o.kind.display]
  record := .object (("cycle", .int cycle) :: o.members)

/-- What ended a cycle as a result; it has no register. -/
def failureEntry (cycle : Nat) (e : CycleError) : Entry :=
  let message := joinCauses e.chain
  { row := [toString cycle, e.command?.getD "", "", "error: " ++ message]
    record := .object [("cycle", .int cycle), ("name", (e.command?.map Json.string).getD .null),
      ("error", .string message)] }

def entries (cycle : Nat) : CycleResult → List Entry
  | .ok c => c.outcomes.map (outcomeEntry cycle)
  | .error a => a.completed.map (outcomeEntry cycle) ++ [failureEntry cycle a.error]

variable {m : Type → Type} [Monad m]

def write (o : Output m) (cycle : Nat) (result : CycleResult) :
    StateT Formatter m (Except OutputFailure Unit) := do
  match ← o.results (entries cycle result) with
  | .error failure => return .error failure
  | .ok () => o.flush

/-- Writes what came of the next cycle. Cycles are numbered from one. -/
def report (o : Output m) (result : CycleResult) :
    StateT Nat (StateT Formatter m) (Except OutputFailure Unit) := do
  modify (· + 1)
  let cycle ← get
  StateT.lift (write o cycle result)

/-- Enough for every count of cycles; an endless poll would have to run for longer than any clock does. -/
def fuel (p : Pace) : Nat :=
  match p.cycles with
  | some n => n + 1
  | none => 0x10000000000000000

def poll (registry : Registry) (watch : Watch m) (client : Client m) (o : Output m)
    (settings : ProbeSettings) :
    StateT Formatter m (Option (Except (PollError OutputFailure) Summary)) :=
  let executor : Executor (StateT Nat (StateT Formatter m)) :=
    ⟨registry, watch.lift.lift.stopped, watch.lift.lift.now⟩
  let cycle := executor.runCycle settings.category client.lift.lift
  (MeterPolling.poll settings.pace watch.lift.lift cycle (report o) (fuel settings.pace) {}).run' 0

/-- Writes the headers, polls, and writes whatever has been held back, unless the polling broke off. -/
def session (registry : Registry) (watch : Watch m) (client : Client m) (o : Output m)
    (settings : ProbeSettings) : StateT Formatter m (Except ProbeError Unit) := do
  match ← o.headers headers with
  | .error failure => return .error (.output failure)
  | .ok () =>
    match ← poll registry watch client o settings with
    | some (.error (.report failure)) => return .error (.output failure)
    | some (.error .beyondClock) => return .error (.poll .beyondClock)
    | result =>
      match ← o.flush with
      | .error failure => return .error (.output failure)
      | .ok () =>
        match result with
        | some (.error e) => return .error (.poll e)
        | _ => return .ok ()

def run (registry : Registry) (files : Files m) (watch : Watch m) (client : Client m)
    (settings : ProbeSettings) : m (Except ProbeError Unit) := do
  match ← Output.start files settings.output with
  | .error failure => return .error (.output failure)
  | .ok o => (session registry watch client o settings).run' (Formatter.new settings.output.format)

end Probe

end MeterPolling
