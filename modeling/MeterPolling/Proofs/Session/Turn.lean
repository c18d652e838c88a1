import MeterPolling.Proofs.Session.History

namespace MeterPolling

open Modbus

structure Moment (σ : Type) where
  session : Session := {}
  log : List LinkEvent := []
  world : σ

namespace Moment

variable {σ α β : Type}

def run (m : Moment σ) (x : StateT Session (StateT (List LinkEvent) (StateM σ)) α) : α × Moment σ :=
  let r := ((x.run m.session).run m.log).run m.world
  (r.1.1.1, ⟨r.1.1.2, r.1.2, r.2⟩)

@[simp] theorem run_pure (m : Moment σ) (a : α) : m.run (pure a) = (a, m) := rfl

@[simp] theorem run_bind (m : Moment σ) (x : StateT Session (StateT (List LinkEvent) (StateM σ)) α)
    (f : α → StateT Session (StateT (List LinkEvent) (StateM σ)) β) :
    m.run (x >>= f) = (m.run x).2.run (f (m.run x).1) := rfl

theorem run_eq {m : Moment σ} {x : StateT Session (StateT (List LinkEvent) (StateM σ)) α} {a : α}
    {s : Session} {log : List LinkEvent} {w : σ}
    (h : ((x.run m.session).run m.log).run m.world = (((a, s), log), w)) :
    m.run x = (a, ⟨s, log, w⟩) := by
  unfold run
  rw [h]

end Moment

structure Turn (σ : Type) extends SendAttempt where
  before : Moment σ
  after : Moment σ

abbrev sendAttempts {σ : Type} (ts : List (Turn σ)) : List SendAttempt := ts.map Turn.toSendAttempt

variable {σ : Type} (link : Link (StateM σ)) (settings : SessionSettings)

namespace Moment

def turn (request : Request) (m : Moment σ) : Turn σ :=
  let exchanged := m.run (exchange link.logged settings request)
  ⟨⟨request, exchanged.2.log.drop m.log.length, exchanged.1⟩, m, exchanged.2⟩

def turns : List Request → Moment σ → List (Turn σ)
  | [], _ => []
  | request :: rest, m =>
    let t := m.turn link settings request
    t :: turns rest t.after

theorem turn_step (request : Request) (m : Moment σ) :
    let t := m.turn link settings request
    t.after.log = m.log ++ t.events ∧
      ExchangeStep settings request m.session.buffer t.events t.reply t.after.session.buffer ∧
      t.after.session.nextTransaction = m.session.nextTransaction := by
  intro t
  obtain ⟨events, reply, s', w', hrun, hstep, hnext⟩ :=
    exchange_step link settings request m.session m.log m.world
  have he : m.run (exchange link.logged settings request) = (reply, ⟨s', m.log ++ events, w'⟩) :=
    run_eq hrun
  have ht : t = ⟨⟨request, events, reply⟩, m, ⟨s', m.log ++ events, w'⟩⟩ := by
    simp only [t, turn, he, List.drop_left]
  rw [ht]
  exact ⟨rfl, hstep, hnext⟩

end Moment

theorem Session.retrying_succ_eq {m : Type → Type} [Monad m]
    (attempt : m (Except TransportError Response)) (pause : m Unit) (retries : Nat) :
    Session.retrying attempt pause (retries + 1) = (do
      let result ← attempt
      match Session.Retry.of result with
      | .no => return result
      | .afterTimeout => Session.retrying attempt pause retries
      | .afterBusy =>
        pause
        Session.retrying attempt pause retries) := rfl

def Call.operation : Call → Operation
  | .read register count => .readRegisters register count
  | .write register values => .writeRegisters register values

inductive CallResult where
  | read (result : Except TransportError (List UInt16))
  | wrote (result : Except TransportError Unit)

def Call.result (reply : Except TransportError Response) : Call → CallResult
  | .read _ count => .read (reply.bind (Session.reading count))
  | .write register values =>
    .wrote (reply.bind (Session.acknowledgement register values.length))

section Calls

variable {m : Type → Type} [Monad m]

def Client.answer (client : Client m) : Call → m CallResult
  | .read register count => do
    return .read (← client.read register count)
  | .write register values => do
    return .wrote (← client.write register values)

def Client.answers (client : Client m) : List Call → m (List CallResult)
  | [] => pure []
  | call :: rest => do
    let result ← client.answer call
    let results ← client.answers rest
    return result :: results

end Calls

namespace Moment

def attempt (operation : Operation) (m : Moment σ) : Turn σ :=
  { m with session := m.session.takeTransaction.2 }.turn link settings
    ⟨settings.unit, m.session.nextTransaction, operation⟩

/-- When the attempt after one with the given result starts. -/
def resumed (reply : Except TransportError Response) (m : Moment σ) : Moment σ :=
  match Session.Retry.of reply with
  | .afterBusy => (m.run (StateT.lift (Session.pause link.logged settings))).2
  | _ => m

/-- The attempts at an operation, of which all but the first are retries. -/
def tries (operation : Operation) : Nat → Moment σ → List (Turn σ)
  | 0, m => [m.attempt link settings operation]
  | retries + 1, m =>
    let t := m.attempt link settings operation
    if Session.Retry.of t.reply = .no then [t]
    else t :: tries operation retries (t.after.resumed link settings t.reply)

def attempts : List Call → Moment σ → List (Turn σ)
  | [], _ => []
  | call :: rest, m =>
    m.tries link settings call.operation settings.retries ++
      attempts rest (m.run ((Session.client link.logged settings).answer call)).2

def results (calls : List Call) (m : Moment σ) : List CallResult :=
  (m.run ((Session.client link.logged settings).answers calls)).1

def finish (calls : List Call) (m : Moment σ) : Moment σ :=
  (m.run ((Session.client link.logged settings).answers calls)).2

def retrying (operation : Operation) (retries : Nat) (m : Moment σ) :
    Except TransportError Response × Moment σ :=
  m.run (Session.retrying (Session.send link.logged settings operation)
    (StateT.lift (Session.pause link.logged settings)) retries)

theorem retrying_succ (operation : Operation) (retries : Nat) (m : Moment σ) :
    m.retrying link settings operation (retries + 1) =
      let t := m.attempt link settings operation
      if Session.Retry.of t.reply = .no then (t.reply, t.after)
      else (t.after.resumed link settings t.reply).retrying link settings operation retries := by
  have hsend : m.run (Session.send link.logged settings operation) =
      ((m.attempt link settings operation).reply, (m.attempt link settings operation).after) := rfl
  unfold retrying
  rw [Session.retrying_succ_eq, run_bind, hsend]
  cases hr : Session.Retry.of (m.attempt link settings operation).reply with
  | no => simp [hr]
  | afterTimeout => simp [hr, resumed]
  | afterBusy => simp [hr, resumed]

theorem answer_eq (call : Call) (m : Moment σ) :
    m.run ((Session.client link.logged settings).answer call) =
      let last := m.retrying link settings call.operation settings.retries
      (call.result last.1, last.2) := by
  cases call with
  | read register count => rfl
  | write register values => rfl

theorem answers_cons (call : Call) (rest : List Call) (m : Moment σ) :
    m.run ((Session.client link.logged settings).answers (call :: rest)) =
      let first := m.run ((Session.client link.logged settings).answer call)
      let others := first.2.run ((Session.client link.logged settings).answers rest)
      (first.1 :: others.1, others.2) := rfl

theorem resumed_eq (reply : Except TransportError Response) (m : Moment σ) :
    m.resumed link settings reply =
      { m with world := (m.resumed link settings reply).world } := by
  unfold resumed
  split
  next =>
    obtain ⟨w', hp⟩ := pause_run link settings m.log m.world
    have hrun : m.run (StateT.lift (Session.pause link.logged settings)) =
        ((), ⟨m.session, m.log, w'⟩) := by
      refine run_eq ?_
      simp [hp]
    rw [hrun]
  next => rfl

variable {link settings} {P : List (Turn σ) → Moment σ → Prop}

theorem retrying_invariant
    (attempt : ∀ ts m operation, P ts m → P (ts ++ [m.attempt link settings operation])
      (m.attempt link settings operation).after)
    (pause : ∀ ts m reply, P ts m → P ts (m.resumed link settings reply))
    (operation : Operation) (retries : Nat) {ts : List (Turn σ)} {m : Moment σ} (h : P ts m) :
    P (ts ++ m.tries link settings operation retries)
      (m.retrying link settings operation retries).2 := by
  induction retries generalizing ts m with
  | zero => exact attempt ts m operation h
  | succ retries ih =>
    have hfirst := attempt ts m operation h
    rw [retrying_succ, tries]
    by_cases hr : Session.Retry.of (m.attempt link settings operation).reply = .no
    · simpa only [hr, ↓reduceIte] using hfirst
    · have hrest := ih (pause _ _ (m.attempt link settings operation).reply hfirst)
      simpa only [hr, ↓reduceIte, List.append_assoc, List.singleton_append] using hrest

/-- What each attempt keeps, and each pause in front of one, holds after all calls. -/
theorem attempts_invariant
    (attempt : ∀ ts m operation, P ts m → P (ts ++ [m.attempt link settings operation])
      (m.attempt link settings operation).after)
    (pause : ∀ ts m reply, P ts m → P ts (m.resumed link settings reply))
    (calls : List Call) {ts : List (Turn σ)} {m : Moment σ} (h : P ts m) :
    P (ts ++ m.attempts link settings calls) (m.finish link settings calls) := by
  induction calls generalizing ts m with
  | nil => simpa [attempts, finish, Client.answers] using h
  | cons call rest ih =>
    have hfirst := retrying_invariant attempt pause call.operation settings.retries h
    have hrest := ih hfirst
    simpa only [attempts, finish, answers_cons, answer_eq, List.append_assoc] using hrest

theorem attempt_step (link : Link (StateM σ)) (settings : SessionSettings) (operation : Operation)
    (m : Moment σ) :
    let t := m.attempt link settings operation
    t.after.log = m.log ++ t.events ∧
      ExchangeStep settings t.request m.session.buffer t.events t.reply t.after.session.buffer ∧
      t.after.session.nextTransaction = m.session.nextTransaction + 1 :=
  turn_step link settings ⟨settings.unit, m.session.nextTransaction, operation⟩
    { m with session := m.session.takeTransaction.2 }

theorem attempt_traced {ts : List (Turn σ)} {m : Moment σ}
    (h : Traced settings (sendAttempts ts) m.session m.log) (operation : Operation) :
    let t := m.attempt link settings operation
    Traced settings (sendAttempts (ts ++ [t])) t.after.session t.after.log := by
  intro t
  obtain ⟨hlog, hstep, hnext⟩ := attempt_step link settings operation m
  have hone : Retried settings operation 0 m.session.nextTransaction m.session.buffer []
      t.toSendAttempt t.after.session.buffer := .single hstep rfl (by simp)
  have hnumber : t.after.session.nextTransaction =
      m.session.nextTransaction + UInt16.ofNat ([] ++ [t.toSendAttempt]).length := by
    simpa using hnext
  have hall := h.retried hone hnumber
  have hsame : t.after.log = m.log ++ ([] ++ [t.toSendAttempt]).flatMap SendAttempt.events := by
    simpa using hlog
  rw [hsame]
  simpa using hall

theorem attempts_traced (link : Link (StateM σ)) (settings : SessionSettings) (calls : List Call)
    (w : σ) :
    let start : Moment σ := { world := w }
    Traced settings (sendAttempts (start.attempts link settings calls))
      (start.finish link settings calls).session (start.finish link settings calls).log := by
  intro start
  have hstart : Traced settings (sendAttempts ([] : List (Turn σ))) start.session start.log :=
    .start settings
  have hpause : ∀ (ts : List (Turn σ)) (m : Moment σ) reply, Traced settings (sendAttempts ts) m.session m.log →
      Traced settings (sendAttempts ts) (m.resumed link settings reply).session
        (m.resumed link settings reply).log := by
    intro ts m reply h
    rw [resumed_eq]
    exact h
  exact attempts_invariant (P := fun ts m => Traced settings (sendAttempts ts) m.session m.log)
    (fun _ _ operation h => attempt_traced h operation) hpause calls hstart

end Moment

end MeterPolling
