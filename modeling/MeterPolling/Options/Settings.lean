import MeterPolling.Options.Grammar
import MeterPolling.Options.Integer
import MeterPolling.Listing
import MeterPolling.Probe

namespace MeterPolling.Options

structure Draft where
  host : Option String := none
  session : SessionSettings := { host := "" }
  category : Option Category := none
  cycles : Nat := 1
  forever : Bool := false
  interval : TimeSpan := .zero
  stopOnError : Bool := false
  output : OutputSettings := {}

def readingWith {ε β : Type} (read : String → Except ε β) (failure : ε → UsageError) (set : Draft → β → Draft) :
    Action Draft :=
  .value fun text draft =>
    match read text with
    | .ok value => .ok (set draft value)
    | .error e => .error (failure e)

def reading {ε β : Type} (read : String → Except ε β) (reason : ε → String) (set : Draft → β → Draft) :
    Action Draft :=
  readingWith read (fun e => .rejected (reason e)) set

def spanFailure (e : TimeSpan.ParseError) : UsageError :=
  match e with
  | .carry => .broken e.message
  | _ => .rejected e.message

def timeSpan (long : String) (set : Draft → TimeSpan → Draft) : Spec Draft :=
  ⟨long, none, readingWith TimeSpan.parse spanFailure set⟩

def formats : List (String × OutputFormat) := [("table", .table), ("jsonl", .jsonl), ("csv", .csv)]

/-- A file has a name; a format is one of those there are, spelled exactly. -/
def outputSpecs : List (Spec Draft) := [
  ⟨"output", some 'o', .value fun text draft =>
    if text.isEmpty then .error .invalidValue
    else .ok { draft with output := { draft.output with path := some text } }⟩,
  ⟨"format", some 'f', .value fun text draft =>
    match formats.lookup text with
    | some format => .ok { draft with output := { draft.output with format } }
    | none => .error .invalidValue⟩]

def sessionSpecs : List (Spec Draft) := [
  ⟨"tcp", none, .value fun text draft => .ok { draft with host := some text }⟩,
  ⟨"unit-id", some 'i', reading parseByte IntegerError.message fun draft unit =>
    { draft with session := { draft.session with unit } }⟩,
  timeSpan "read-timeout" fun draft readTimeout =>
    { draft with session := { draft.session with readTimeout } },
  timeSpan "send-timeout" fun draft sendTimeout =>
    { draft with session := { draft.session with sendTimeout } },
  ⟨"retries", none, reading parseUnsigned IntegerError.message fun draft retries =>
    { draft with session := { draft.session with retries } }⟩,
  timeSpan "tcp-send-delay" fun draft sendDelay =>
    { draft with session := { draft.session with sendDelay } },
  timeSpan "server-busy-retry-delay" fun draft busyDelay =>
    { draft with session := { draft.session with busyDelay } }]

def deviceSpec : Spec Draft :=
  ⟨"device", some 'd', reading Category.parse UnsupportedDevice.message fun draft category =>
    { draft with category := some category }⟩

def pollingSpecs : List (Spec Draft) := [
  ⟨"cycles", some 'n', reading parseUnsigned IntegerError.message fun draft cycles =>
    { draft with cycles }⟩,
  ⟨"forever", none, .switch fun draft => { draft with forever := true }⟩,
  timeSpan "interval" fun draft interval => { draft with interval },
  ⟨"stop-on-error", none, .switch fun draft => { draft with stopOnError := true }⟩]

def readDraft (specs : List (Spec Draft)) (arguments : List String) : Except UsageError Draft := do
  let p ← Progress.readAll (specs ++ [helpSpec]) arguments { settings := {} }
  if "forever" ∈ p.given ∧ "cycles" ∈ p.given then throw .conflict
  return p.settings

def required {β : Type} : Option β → Except UsageError β
  | some value => .ok value
  | none => .error .missing

def readOutput (arguments : List String) : Except UsageError OutputSettings := do
  let draft ← readDraft outputSpecs arguments
  return draft.output

def readSession (arguments : List String) : Except UsageError SessionSettings := do
  let draft ← readDraft sessionSpecs arguments
  return { draft.session with host := ← required draft.host }

def readListing (arguments : List String) : Except UsageError ListingSettings := do
  let draft ← readDraft (deviceSpec :: outputSpecs) arguments
  return ⟨← required draft.category, draft.output⟩

def readProbe (arguments : List String) : Except UsageError ProbeSettings := do
  let draft ← readDraft (sessionSpecs ++ deviceSpec :: pollingSpecs ++ outputSpecs) arguments
  let host ← required draft.host
  let category ← required draft.category
  return {
    session := { draft.session with host }
    category
    pace := ⟨if draft.forever then none else some draft.cycles, draft.interval, draft.stopOnError⟩
    output := draft.output }

end MeterPolling.Options
