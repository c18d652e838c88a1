import MeterPolling.Session

namespace MeterPolling.Queue

open Modbus

structure Job where
  caller : Nat
  request : Request
  deriving DecidableEq, Repr

inductive Caller where
  | idle
  /-- The caller has a number for its request, which is not in the queue yet. -/
  | numbered (request : Request)
  | waiting (request : Request)
  | answered (request : Request) (result : Except TransportError Response)
  | gone

structure Exchange where
  job : Job
  result : Except TransportError Response

structure State (σ : Type) where
  callers : Nat → Caller
  queue : List Job := []
  inFlight : Option Job := none
  session : Session := {}
  world : σ
  /-- Every job that has entered the queue, the first one first. -/
  entered : List Job := []
  /-- The jobs that are done, the first one first. -/
  done : List Exchange := []

variable {σ : Type}

def State.initial (world : σ) : State σ := { callers := fun _ => .idle, world }

def State.setCaller (s : State σ) (i : Nat) (c : Caller) : State σ :=
  { s with callers := fun j => if j = i then c else s.callers j }

def State.number (s : State σ) (settings : SessionSettings) (i : Nat) (operation : Operation) : State σ :=
  let (transaction, session) := s.session.takeTransaction
  let s := s.setCaller i (.numbered ⟨settings.unit, transaction, operation⟩)
  { s with session }

def State.enter (s : State σ) (i : Nat) (r : Request) : State σ :=
  let s := s.setCaller i (.waiting r)
  { s with queue := s.queue ++ [⟨i, r⟩], entered := s.entered ++ [⟨i, r⟩] }

/-- Hands a result to a caller that still waits for it. -/
def State.deliver (s : State σ) (j : Job) (result : Except TransportError Response) : State σ :=
  match s.callers j.caller with
  | .waiting r => if r = j.request then s.setCaller j.caller (.answered r result) else s
  | _ => s

def State.finish (s : State σ) (j : Job) (result : Except TransportError Response) (session : Session)
    (world : σ) : State σ :=
  let s := s.deliver j result
  { s with inFlight := none, session, world, done := s.done ++ [⟨j, result⟩] }

/--
One step of a caller or of the session. A caller takes a number, puts its request into the queue and waits; the
session takes one request after the other. A caller may go away at any time, and what it has put into the queue
stays there.
-/
inductive Step (link : Link (StateM σ)) (settings : SessionSettings) : State σ → State σ → Prop
  | number (s : State σ) (i : Nat) (operation : Operation) (idle : s.callers i = .idle) :
      Step link settings s (s.number settings i operation)
  | enter (s : State σ) (i : Nat) (r : Request) (numbered : s.callers i = .numbered r) :
      Step link settings s (s.enter i r)
  | start (s : State σ) (j : Job) (rest : List Job) (free : s.inFlight = none) (next : s.queue = j :: rest) :
      Step link settings s { s with queue := rest, inFlight := some j }
  | finish (s : State σ) (j : Job) (result : Except TransportError Response) (session : Session) (world : σ)
      (busy : s.inFlight = some j)
      (exchanged : (exchange link settings j.request s.session).run s.world = ((result, session), world)) :
      Step link settings s (s.finish j result session world)
  | leave (s : State σ) (i : Nat) (r : Request)
      (present : s.callers i = .numbered r ∨ s.callers i = .waiting r) :
      Step link settings s (s.setCaller i .gone)

inductive Reachable (link : Link (StateM σ)) (settings : SessionSettings) (world : σ) : State σ → Prop
  | initial : Reachable link settings world (.initial world)
  | step (s t : State σ) (reached : Reachable link settings world s) (next : Step link settings s t) :
      Reachable link settings world t

end MeterPolling.Queue
