import MeterPolling.Cycle

namespace MeterPolling

/-- How many cycles ended in each way. A cycle cut short by a stop counts as neither. -/
structure Summary where
  completed : Nat := 0
  aborted : Nat := 0
  deriving DecidableEq, Repr

inductive PollError (ε : Type) where
  | aborted (cause : Aborted)
  | report (cause : ε)
  /-- The next cycle would start at a time that the clock cannot tell. -/
  | beyondClock
  deriving Repr

def PollError.chain {ε : Type} (causes : ε → List String) : PollError ε → List String
  | .aborted a => "polling stopped" :: a.chain
  | .report e => "could not report the outcome of a poll cycle" :: causes e
  | .beyondClock => ["overflow when adding duration to instant"]

structure Pace where
  cycles : Option Nat := none
  interval : TimeSpan := .zero
  stopOnError : Bool := false
  deriving DecidableEq, Repr

structure Watch (m : Type → Type) where
  now : m TimeSpan
  /-- Returns at the given time, or at once when a stop is asked for. -/
  waitUntil : TimeSpan → m Unit
  stopped : m Bool

def Watch.lift {m : Type → Type} [Monad m] {σ : Type} (w : Watch m) : Watch (StateT σ m) where
  now := StateT.lift w.now
  waitUntil t := StateT.lift (w.waitUntil t)
  stopped := StateT.lift w.stopped

inductive Verdict (ε : Type) where
  | done (result : Except (PollError ε) Summary)
  | goOn (summary : Summary)

/-- A stop ends the polling well; a missing plan, and on request any failure, ends it with the failure. -/
def Verdict.of {ε : Type} (stopOnError : Bool) (s : Summary) : CycleResult → Verdict ε
  | .ok _ => .goOn { s with completed := s.completed + 1 }
  | .error a =>
    match a.error with
    | .interrupted _ => .done (.ok s)
    | .plan _ => .done (.error (.aborted a))
    | _ =>
      if stopOnError then .done (.error (.aborted a))
      else .goOn { s with aborted := s.aborted + 1 }

namespace Pace

def reached (p : Pace) (s : Summary) : Bool :=
  match p.cycles with
  | none => false
  | some n => n ≤ s.completed + s.aborted

end Pace

variable {m : Type → Type} [Monad m] {ε : Type}

def finished (p : Pace) (watch : Watch m) (s : Summary) : m Bool := do
  if ← watch.stopped then return true else return p.reached s

/-- A single cycle: run, report, judge, and wait if another one follows. -/
def pollOnce (p : Pace) (watch : Watch m) (cycle : m CycleResult)
    (report : CycleResult → m (Except ε Unit)) (s : Summary) : m (Verdict ε) := do
  let start ← watch.now
  let result ← cycle
  match ← report result with
  | .error e => return .done (.error (.report e))
  | .ok () =>
    match Verdict.of p.stopOnError s result with
    | .done r => return .done r
    | .goOn s =>
      if p.interval.nanoseconds = 0 then return .goOn s
      if ← finished p watch s then return .goOn s
      let next : TimeSpan := ⟨start.nanoseconds + p.interval.nanoseconds⟩
      if !next.onClock then return .done (.error .beyondClock)
      watch.waitUntil next
      return .goOn s

/-- At most `fuel` cycles; nothing is returned if they do not end the polling. -/
def poll (p : Pace) (watch : Watch m) (cycle : m CycleResult)
    (report : CycleResult → m (Except ε Unit)) :
    Nat → Summary → m (Option (Except (PollError ε) Summary))
  | 0, _ => return none
  | fuel + 1, s => do
    if ← finished p watch s then return some (.ok s)
    match ← pollOnce p watch cycle report s with
    | .done r => return some r
    | .goOn s => poll p watch cycle report fuel s

end MeterPolling
