import MeterPolling.Client
import MeterPolling.Plan

namespace MeterPolling

inductive OutcomeKind where
  | read (value : Value)
  | wrote (values : List UInt16)
  deriving DecidableEq, Repr

structure Outcome where
  name : String
  register : UInt16
  kind : OutcomeKind
  deriving DecidableEq, Repr

def wordsText (ws : List UInt16) : String :=
  "[" ++ ", ".intercalate (ws.map fun w => Text.upperHex 4 w.toNat) ++ "]"

namespace OutcomeKind

def display : OutcomeKind → String
  | .read value => value.display
  | .wrote values => "wrote " ++ wordsText values

def member : OutcomeKind → String × Json
  | .read value => ("read", value.json)
  | .wrote values => ("wrote", .array (values.map fun w => .int w.toNat))

end OutcomeKind

def Outcome.members (o : Outcome) : List (String × Json) :=
  [("name", .string o.name), ("register", .int o.register.toNat), o.kind.member]

inductive CycleError where
  | plan (cause : UnsupportedDevice)
  | read (name : String) (cause : TransportError)
  | decode (name : String) (cause : DecodeError)
  | write (name : String) (cause : TransportError)
  | interrupted (next : String)
  deriving DecidableEq, Repr

namespace CycleError

def command? : CycleError → Option String
  | .plan _ => none
  | .read name _ | .decode name _ | .write name _ => some name
  | .interrupted next => some next

def chain : CycleError → List String
  | .plan cause => [cause.message]
  | .read name cause => s!"could not read `{name}`" :: cause.chain
  | .decode name cause => s!"could not decode `{name}`" :: cause.chain
  | .write name cause => s!"could not write `{name}`" :: cause.chain
  | .interrupted next => [s!"interrupted before `{next}`"]

end CycleError

structure Cycle where
  category : Category
  outcomes : List Outcome
  elapsed : TimeSpan
  deriving DecidableEq, Repr

/-- A plan that ended at a failing command; `completed` holds what came before it. -/
structure Aborted where
  category : Category
  completed : List Outcome
  elapsed : TimeSpan
  error : CycleError
  deriving DecidableEq, Repr

def Aborted.chain (a : Aborted) : List String :=
  s!"the {a.category.name} poll cycle was aborted after {a.completed.length} commands" :: a.error.chain

abbrev CycleResult := Except Aborted Cycle

/-- Runs plans. A stop that `stopped` tells of takes effect before the next command. -/
structure Executor (m : Type → Type) where
  registry : Registry
  stopped : m Bool
  now : m TimeSpan

variable {m : Type → Type} [Monad m]

def Executor.lift {σ : Type} (x : Executor m) : Executor (StateT σ m) :=
  ⟨x.registry, StateT.lift x.stopped, StateT.lift x.now⟩

def runCommand (client : Client m) : Command → m (Except CycleError Outcome)
  | .read c => do
    match ← client.read c.register c.count with
    | .error cause => return .error (.read c.name cause)
    | .ok words =>
      match c.decode words with
      | .error cause => return .error (.decode c.name cause)
      | .ok value => return .ok ⟨c.name, c.register, .read value⟩
  | .write c => do
    match ← client.write c.register c.values with
    | .error cause => return .error (.write c.name cause)
    | .ok () => return .ok ⟨c.name, c.register, .wrote c.values⟩

/-- The outcomes up to the first failure, and that failure. -/
def runCommands (client : Client m) (stopped : m Bool) :
    List Command → m (List Outcome × Option CycleError)
  | [] => return ([], none)
  | c :: rest => do
    if ← stopped then
      return ([], some (.interrupted c.name))
    match ← runCommand client c with
    | .error e => return ([], some e)
    | .ok outcome =>
      let (outcomes, failure) ← runCommands client stopped rest
      return (outcome :: outcomes, failure)

namespace Executor

def execute (x : Executor m) (plan : Plan) (client : Client m) : m CycleResult := do
  let start ← x.now
  let (outcomes, failure) ← runCommands client x.stopped plan.commands
  let elapsed : TimeSpan := ⟨(← x.now).nanoseconds - start.nanoseconds⟩
  match failure with
  | none => return .ok ⟨plan.category, outcomes, elapsed⟩
  | some e => return .error ⟨plan.category, outcomes, elapsed, e⟩

/-- Runs the plan for a category; without one nothing is asked of the meter. -/
def runCycle (x : Executor m) (category : Category) (client : Client m) : m CycleResult :=
  match x.registry.get category with
  | .error cause => return .error ⟨category, [], .zero, .plan cause⟩
  | .ok plan => x.execute plan client

end Executor

end MeterPolling
