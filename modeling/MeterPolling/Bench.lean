import MeterPolling.Bank
import MeterPolling.Polling

namespace MeterPolling

inductive BenchReply where
  | words (ws : List UInt16)
  | failure (cause : TransportError)
  deriving DecidableEq, Repr

/-- A meter in virtual time, which starts at zero and passes only while something sleeps. -/
structure Bench where
  now : TimeSpan := .zero
  stopped : Bool := false
  stopAt : Option TimeSpan := none
  stopAtCall : Option Nat := none
  delay : TimeSpan := .zero
  calls : Nat := 0
  /-- An absent entry leaves the answer to the bank. -/
  replies : List (Option BenchReply) := []
  /-- Without a bank such a call finds the connection closed. -/
  bank : Option Bank := none

namespace Bench

def stopAfter (b : Bench) (pause : TimeSpan) : Bench := { b with stopAt := some (b.now.pauseEnd pause) }

/--
Sleeps until `t`. A wish to stop that is due before then comes up meanwhile; one that is due at `t`
itself comes up only in the next sleep, because the sleeper wakes first.
-/
def sleepUntil (b : Bench) (t : TimeSpan) : Bench :=
  if b.now.nanoseconds < t.nanoseconds then
    let due := match b.stopAt with
      | some s => s.nanoseconds < t.nanoseconds
      | none => false
    { b with now := t, stopped := b.stopped || due }
  else b

/-- As `sleepUntil`, but a wish to stop ends the sleep when it comes up. -/
def waitUntil (b : Bench) (t : TimeSpan) : Bench :=
  if b.stopped then b
  else
    let slept := b.sleepUntil t
    if slept.stopped then
      match b.stopAt with
      | some s => { slept with now := ⟨max b.now.nanoseconds s.nanoseconds⟩ }
      | none => slept
    else slept

/-- A call arrives: it takes its time, may raise the wish to stop, and draws the next entry of the list. -/
def arrive (b : Bench) : Option BenchReply × Bench :=
  let calls := b.calls + 1
  let b := { b with calls }.sleepUntil (b.now.pauseEnd b.delay)
  let b := { b with stopped := b.stopped || b.stopAtCall = some calls }
  match b.replies with
  | [] => (none, b)
  | reply :: replies => (reply, { b with replies })

def read (register count : UInt16) : StateM Bench (Except TransportError (List UInt16)) := do
  match ← modifyGet arrive with
  | some (.words ws) => return .ok ws
  | some (.failure cause) => return .error cause
  | none =>
    match (← get).bank with
    | some bank => return .ok (bank.read register count.toNat)
    | none => return .error .closed

def write (register : UInt16) (values : List UInt16) : StateM Bench (Except TransportError Unit) := do
  match ← modifyGet arrive with
  | some (.words _) => return .ok ()
  | some (.failure cause) => return .error cause
  | none =>
    match (← get).bank with
    | some bank =>
      modify fun b => { b with bank := some (bank.write register values) }
      return .ok ()
    | none => return .error .closed

def client : Client (StateM Bench) := ⟨read, write⟩

def watch (seesStop : Bool) : Watch (StateM Bench) where
  now := return (← get).now
  waitUntil t := modify fun b => if seesStop then b.waitUntil t else b.sleepUntil t
  stopped := return seesStop && (← get).stopped

def executor (registry : Registry) (seesStop : Bool) : Executor (StateM Bench) where
  registry
  stopped := return seesStop && (← get).stopped
  now := return (← get).now

end Bench

end MeterPolling
