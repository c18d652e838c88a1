import Mathlib.Order.Bounds.Defs
import MeterPolling.Proofs.Session.Reconnection
import MeterPolling.Proofs.Session.Simulation

namespace MeterPolling

open Modbus

inductive Retryable : Except TransportError Response → Prop
  | readTimeout {after : TimeSpan} : Retryable (.error (.readTimeout after))
  | sendTimeout : Retryable (.error .sendTimeout)
  | busy {r : Response} (code : r.kind = .exception 6) : Retryable (.ok r)

def LinkEvent.isSent : LinkEvent → Bool
  | .sent _ _ => true
  | _ => false

def Call.failure (cause : TransportError) : Call → CallResult
  | .read _ _ => .read (.error cause)
  | .write _ _ => .wrote (.error cause)

theorem Response.isBusy_iff {r : Response} : r.isBusy ↔ r.kind = .exception 6 := by
  unfold Response.isBusy Response.exceptionCode?
  cases hk : r.kind with
  | exception code => simp
  | values words => simp
  | written address count => simp
  | malformed function => simp

theorem retry_eq_no_iff {reply : Except TransportError Response} :
    Session.Retry.of reply = .no ↔ ¬ Retryable reply := by
  constructor
  · intro hno h
    cases h with
    | readTimeout => simp [Session.Retry.of] at hno
    | sendTimeout => simp [Session.Retry.of] at hno
    | busy code =>
      have hbusy := Response.isBusy_iff.mpr code
      simp [Session.Retry.of, hbusy] at hno
  · intro h
    cases reply with
    | ok r =>
      have hbusy : ¬ r.isBusy := fun hb => h (.busy (Response.isBusy_iff.mp hb))
      simp [Session.Retry.of, hbusy]
    | error cause =>
      cases cause with
      | readTimeout after => exact absurd .readTimeout h
      | sendTimeout => exact absurd .sendTimeout h
      | lookup | connect | connectTimeout | receive | send | closed | exception | malformed | mismatched |
          incomplete | workerGone => rfl

section Steps

variable {settings : SessionSettings} {request : Request} {opened closed : Option (List UInt8)}
  {buffer : List UInt8} {events : List LinkEvent} {reply : Except TransportError Response}
  {result : Except TransportError (Response × List UInt8)}

theorem RoundTripStep.sent_once (h : RoundTripStep settings request buffer events result) :
    events.countP LinkEvent.isSent ≤ 1 := by
  cases h with
  | unencoded => exact Nat.zero_le 1
  | unsent | atHand | received | unanswered => exact Nat.le_refl 1

theorem ExchangeStep.sent_once (h : ExchangeStep settings request opened events reply closed) :
    events.countP LinkEvent.isSent ≤ 1 := by
  have hopening : (opening settings opened).countP LinkEvent.isSent = 0 := by
    cases opened with
    | none => rfl
    | some left => rfl
  cases h with
  | unconnected => exact Nat.zero_le 1
  | @failed _ during _ trip =>
    have honce := trip.sent_once
    have hclosed : [LinkEvent.closed].countP LinkEvent.isSent = 0 := rfl
    rw [List.countP_append, List.countP_append]
    omega
  | @answered _ during _ _ trip =>
    have honce := trip.sent_once
    rw [List.countP_append]
    omega

theorem RoundTripStep.readTimeout_eq {after : TimeSpan}
    (h : RoundTripStep settings request buffer events (.error (.readTimeout after))) :
    after = settings.readTimeout := by
  generalize hr : (Except.error (.readTimeout after) : Except TransportError (Response × List UInt8)) = result at h
  cases h with
  | unencoded => cases hr
  | @unsent _ failure =>
    cases failure with
    | failed cause => cases hr
    | timeout => cases hr
    | gone => cases hr
  | atHand => cases hr
  | received => cases hr
  | @unanswered _ d _ _ =>
    cases he : d.ending with
    | closed =>
      simp only [he, Ending.error] at hr
      split at hr
      next => cases hr
      next => cases hr
    | timeout =>
      simp only [he, Ending.error] at hr
      cases hr
      rfl
    | failed cause =>
      simp only [he, Ending.error] at hr
      cases hr

/-- After a timeout nothing is left of the connection, and after a busy answer it goes on. -/
inductive Released (settings : SessionSettings) :
    List LinkEvent → Except TransportError Response → Option (List UInt8) → Prop
  | dropped {events : List LinkEvent} {reply : Except TransportError Response}
      (timeout : reply = .error (.readTimeout settings.readTimeout) ∨ reply = .error .sendTimeout)
      (last : events.getLast? = some .closed) : Released settings events reply none
  | kept {events : List LinkEvent} {r : Response} {left : List UInt8} (code : r.kind = .exception 6)
      (still : .closed ∉ events) : Released settings events (.ok r) (some left)

theorem mem_opening_closed : LinkEvent.closed ∉ opening settings opened := by
  cases opened with
  | none => simp [opening]
  | some left => simp [opening]

theorem ExchangeStep.released (h : ExchangeStep settings request opened events reply closed)
    (retry : Retryable reply) : Released settings events reply closed := by
  cases h with
  | @unconnected failure =>
    cases failure with
    | lookup cause => cases retry
    | connect cause => cases retry
    | timeout => cases retry
    | gone => cases retry
  | @failed _ during cause trip =>
    have hlast : (opening settings opened ++ during ++ [LinkEvent.closed]).getLast? = some .closed := by simp
    cases retry with
    | readTimeout =>
      have hafter := trip.readTimeout_eq
      subst hafter
      exact .dropped (.inl rfl) hlast
    | sendTimeout => exact .dropped (.inr rfl) hlast
  | answered trip =>
    cases retry with
    | busy code =>
      refine .kept code ?_
      rw [List.mem_append, not_or]
      exact ⟨mem_opening_closed, trip.events_open.2⟩

theorem ExchangeStep.connects_first (h : ExchangeStep settings request none events reply closed) :
    ∃ outcome, events.head? = some (.connected (addressOf settings.host) outcome) := by
  cases h with
  | @unconnected failure => exact ⟨.error failure, rfl⟩
  | failed trip => exact ⟨.ok (), rfl⟩
  | answered trip => exact ⟨.ok (), rfl⟩

end Steps

/-- How an attempt follows on another one, and over which connection. -/
inductive Follows {σ : Type} (settings : SessionSettings) (t u : Turn σ) : Prop
  | sameConnection {r : Response} (busy : t.reply = .ok r) (code : r.kind = .exception 6)
      (still : .closed ∉ t.events) (same : u.before.session.buffer = t.after.session.buffer)
      (unopened : ∀ e ∈ u.events, e.isConnect = false)
  | newConnection (timeout : t.reply = .error (.readTimeout settings.readTimeout) ∨ t.reply = .error .sendTimeout)
      (dropped : t.events.getLast? = some .closed)
      (opened : ∃ outcome, u.events.head? = some (.connected (addressOf settings.host) outcome))

namespace Moment

variable {σ : Type} (link : Link (StateM σ)) (settings : SessionSettings)

/-- The attempt of the given number at an operation, if none before it were the last one. -/
def tryAt (operation : Operation) : Nat → Moment σ → Turn σ
  | 0, m => m.attempt link settings operation
  | n + 1, m =>
    let t := m.attempt link settings operation
    tryAt operation n (t.after.resumed link settings t.reply)

theorem tryAt_succ (operation : Operation) (n : Nat) (m : Moment σ) :
    m.tryAt link settings operation (n + 1) =
      let t := m.tryAt link settings operation n
      (t.after.resumed link settings t.reply).attempt link settings operation := by
  induction n generalizing m with
  | zero => rfl
  | succ n ih => exact ih _

theorem retrying_eq (operation : Operation) (retries : Nat) (m : Moment σ) :
    ∃ last, IsLeast {n | n = retries ∨ ¬ Retryable (m.tryAt link settings operation n).reply} last ∧
      m.retrying link settings operation retries =
        ((m.tryAt link settings operation last).reply, (m.tryAt link settings operation last).after) := by
  induction retries generalizing m with
  | zero =>
    refine ⟨0, ⟨.inl rfl, ?_⟩, rfl⟩
    intro n _
    exact Nat.zero_le n
  | succ retries ih =>
    rw [retrying_succ]
    by_cases hno : Session.Retry.of (m.attempt link settings operation).reply = .no
    · have hfinal : ¬ Retryable (m.tryAt link settings operation 0).reply := retry_eq_no_iff.mp hno
      refine ⟨0, ⟨.inr hfinal, ?_⟩, ?_⟩
      · intro n _
        exact Nat.zero_le n
      · simp [hno, tryAt]
    · obtain ⟨last, ⟨hlast, hleast⟩, hretrying⟩ :=
        ih ((m.attempt link settings operation).after.resumed link settings
          (m.attempt link settings operation).reply)
      refine ⟨last + 1, ⟨?_, ?_⟩, ?_⟩
      · rcases hlast with he | hfinal
        · exact .inl (by omega)
        · exact .inr hfinal
      · intro n hn
        cases n with
        | zero =>
          rcases hn with he | hfinal
          · omega
          · exact absurd (retry_eq_no_iff.mpr hfinal) hno
        | succ n =>
          have hbound : last ≤ n := by
            apply hleast
            rcases hn with he | hfinal
            · exact .inl (by omega)
            · exact .inr hfinal
          omega
      · simp only [hno, ↓reduceIte, hretrying]
        rfl

theorem tryAt_step (operation : Operation) (n : Nat) (m : Moment σ) :
    let t := m.tryAt link settings operation n
    ExchangeStep settings t.request t.before.session.buffer t.events t.reply t.after.session.buffer := by
  cases n with
  | zero => exact (attempt_step link settings operation m).2.1
  | succ n =>
    rw [tryAt_succ]
    exact (attempt_step link settings operation _).2.1

theorem resumed_session (reply : Except TransportError Response) (m : Moment σ) :
    (m.resumed link settings reply).session = m.session := by
  rw [resumed_eq]

theorem resumed_log (reply : Except TransportError Response) (m : Moment σ) :
    (m.resumed link settings reply).log = m.log := by
  rw [resumed_eq]

theorem tryAt_request (operation : Operation) (n : Nat) (m : Moment σ) :
    let t := m.tryAt link settings operation n
    t.request = ⟨settings.unit, m.session.nextTransaction + UInt16.ofNat n, operation⟩ ∧
      t.after.session.nextTransaction = m.session.nextTransaction + UInt16.ofNat (n + 1) := by
  induction n with
  | zero =>
    have hnext := (attempt_step link settings operation m).2.2
    refine ⟨?_, hnext⟩
    show (⟨settings.unit, m.session.nextTransaction, operation⟩ : Request) = _
    simp
  | succ n ih =>
    rw [tryAt_succ]
    generalize m.tryAt link settings operation n = t at ih
    have hnext := (attempt_step link settings operation (t.after.resumed link settings t.reply)).2.2
    have hnumber : (t.after.resumed link settings t.reply).session.nextTransaction =
        m.session.nextTransaction + UInt16.ofNat (n + 1) := by
      rw [resumed_session]
      exact ih.2
    refine ⟨?_, ?_⟩
    · show (⟨settings.unit, (t.after.resumed link settings t.reply).session.nextTransaction, operation⟩ : Request) = _
      rw [hnumber]
    · refine hnext.trans ?_
      rw [hnumber, UInt16.ofNat_add (n + 1) 1, UInt16.add_assoc]
      rfl

theorem tryAt_log (operation : Operation) (n : Nat) (m : Moment σ) :
    (m.tryAt link settings operation n).after.log =
      m.log ++ (List.range (n + 1)).flatMap fun i => (m.tryAt link settings operation i).events := by
  induction n with
  | zero =>
    have hlog := (attempt_step link settings operation m).1
    simpa [tryAt] using hlog
  | succ n ih =>
    rw [List.range_succ, List.flatMap_append, ← List.append_assoc, ← ih]
    have hlog := (attempt_step link settings operation ((m.tryAt link settings operation n).after.resumed link
      settings (m.tryAt link settings operation n).reply)).1
    rw [resumed_log, ← tryAt_succ] at hlog
    simpa using hlog

theorem tryAt_follows (operation : Operation) (n : Nat) (m : Moment σ)
    (retry : Retryable (m.tryAt link settings operation n).reply) :
    Follows settings (m.tryAt link settings operation n) (m.tryAt link settings operation (n + 1)) := by
  have hreleased := (tryAt_step link settings operation n m).released retry
  have hnext := tryAt_step link settings operation (n + 1) m
  have hsame : (m.tryAt link settings operation (n + 1)).before.session.buffer =
      (m.tryAt link settings operation n).after.session.buffer := by
    have hsession := resumed_session link settings (m.tryAt link settings operation n).reply
      (m.tryAt link settings operation n).after
    rw [tryAt_succ]
    show ((m.tryAt link settings operation n).after.resumed link settings _).session.buffer = _
    rw [hsession]
  simp only [hsame] at hnext
  generalize hreply : (m.tryAt link settings operation n).reply = reply at hreleased
  generalize hleft : (m.tryAt link settings operation n).after.session.buffer = left at hreleased hnext hsame
  cases hreleased with
  | dropped timeout last =>
    rw [← hreply] at timeout
    exact .newConnection timeout last hnext.connects_first
  | kept code still =>
    refine .sameConnection hreply code still (hsame.trans hleft.symm) ?_
    have hnone : ((m.tryAt link settings operation (n + 1)).events).countP LinkEvent.isConnect = 0 := hnext.connects
    intro e he
    simpa using List.countP_eq_zero.mp hnone e he

theorem sent_count (operation : Operation) (n : Nat) (m : Moment σ) :
    ((List.range n).flatMap fun i => (m.tryAt link settings operation i).events).countP LinkEvent.isSent ≤ n := by
  induction n with
  | zero => simp
  | succ n ih =>
    have hone := (tryAt_step link settings operation n m).sent_once
    rw [List.range_succ, List.flatMap_append, List.countP_append]
    simp only [List.flatMap_cons, List.flatMap_nil, List.append_nil]
    omega

theorem answer_erased (call : Call) (m : Moment σ) :
    (((Session.client link settings).answer call).run m.session).run m.world =
      let run := m.run ((Session.client link.logged settings).answer call)
      ((run.1, run.2.session), run.2.world) := by
  obtain ⟨hpair, hworld⟩ := Simulation.withState_iff.mp
    (Simulation.answer settings link.logged_links call) m.session m.log m.world
  exact (Prod.ext hpair hworld).symm

end Moment

theorem Call.result_of_retryable {settings : SessionSettings} {events : List LinkEvent}
    {reply : Except TransportError Response} {left : Option (List UInt8)}
    (h : Released settings events reply left) (call : Call) :
    (∃ r, reply = .ok r ∧ r.kind = .exception 6 ∧ call.result reply = call.failure (.exception 6)) ∨
      ∃ cause, (cause = .readTimeout settings.readTimeout ∨ cause = .sendTimeout) ∧
        reply = .error cause ∧ call.result reply = call.failure cause := by
  cases h with
  | dropped timeout last =>
    rcases timeout with he | he
    · refine .inr ⟨_, .inl rfl, he, ?_⟩
      subst he
      cases call <;> rfl
    · refine .inr ⟨_, .inr rfl, he, ?_⟩
      subst he
      cases call <;> rfl
  | kept code still =>
    refine .inl ⟨_, rfl, code, ?_⟩
    cases call with
    | read register count => simp [Call.result, Call.failure, Except.bind, Session.reading, code]
    | write register values => simp [Call.result, Call.failure, Except.bind, Session.acknowledgement, code]

/--
Whatever the state of a session and whatever is at the other end of its link: the attempts at a call are those up
to the first one whose result is neither a timeout nor a busy server, but no more than one and the retries allowed.
They carry the same operation, their numbers follow one another, and nothing else happens on the link. One that
follows a busy answer goes over the same connection and one that follows a timeout over a new one. What comes of
the call is what comes of the last attempt, also when that is one that no retry is left for.
-/
theorem retry_law {σ : Type} (link : Link (StateM σ)) (settings : SessionSettings) (call : Call) (m : Moment σ) :
    let attempt (n : Nat) := m.tryAt link settings call.operation n
    ∃ last, IsLeast {n | n = settings.retries ∨ ¬ Retryable (attempt n).reply} last ∧
      (((Session.client link settings).answer call).run m.session).run m.world =
        ((call.result (attempt last).reply, (attempt last).after.session), (attempt last).after.world) ∧
      (attempt last).after.log = m.log ++ (List.range (last + 1)).flatMap (fun n => (attempt n).events) ∧
      ((List.range (last + 1)).flatMap fun n => (attempt n).events).countP LinkEvent.isSent ≤
        settings.retries + 1 ∧
      (∀ n ≤ last, (attempt n).request.operation = call.operation ∧ (attempt n).request.unit = settings.unit ∧
        (attempt n).request.transaction.toNat = (m.session.nextTransaction.toNat + n) % 65536) ∧
      (attempt last).after.session.nextTransaction.toNat =
        (m.session.nextTransaction.toNat + (last + 1)) % 65536 ∧
      (∀ n < last, n < settings.retries ∧ Follows settings (attempt n) (attempt (n + 1))) ∧
      (Retryable (attempt last).reply → last = settings.retries ∧
        ((∃ r, (attempt last).reply = .ok r ∧ r.kind = .exception 6 ∧
            call.result (attempt last).reply = call.failure (.exception 6)) ∨
          ∃ cause, (cause = .readTimeout settings.readTimeout ∨ cause = .sendTimeout) ∧
            (attempt last).reply = .error cause ∧
            call.result (attempt last).reply = call.failure cause)) := by
  intro attempt
  obtain ⟨last, hleast, hretrying⟩ := m.retrying_eq link settings call.operation settings.retries
  have hbound : last ≤ settings.retries := hleast.2 (.inl rfl)
  have hnumber : ∀ n, (m.session.nextTransaction + UInt16.ofNat n).toNat =
      (m.session.nextTransaction.toNat + n) % 65536 := by
    intro n
    rw [UInt16.toNat_add, UInt16.toNat_ofNat']
    omega
  refine ⟨last, hleast, ?_, Moment.tryAt_log link settings call.operation last m, ?_, ?_, ?_, ?_, ?_⟩
  · have hanswer := m.answer_eq link settings call
    rw [hretrying] at hanswer
    rw [Moment.answer_erased, hanswer]
  · have hcount := Moment.sent_count link settings call.operation (last + 1) m
    have hmost : last + 1 ≤ settings.retries + 1 := by omega
    exact Nat.le_trans hcount hmost
  · intro n _
    have hrequest := (Moment.tryAt_request link settings call.operation n m).1
    have hfields : (attempt n).request =
        ⟨settings.unit, m.session.nextTransaction + UInt16.ofNat n, call.operation⟩ := hrequest
    rw [hfields]
    exact ⟨rfl, rfl, hnumber n⟩
  · have hnext := (Moment.tryAt_request link settings call.operation last m).2
    exact (congrArg UInt16.toNat hnext).trans (hnumber (last + 1))
  · intro n hn
    refine ⟨by omega, ?_⟩
    by_cases hretry : Retryable (attempt n).reply
    · exact Moment.tryAt_follows link settings call.operation n m hretry
    · have hle : last ≤ n := hleast.2 (.inr hretry)
      omega
  · intro hretry
    have hlast : last = settings.retries := hleast.1.resolve_right fun hfinal => hfinal hretry
    exact ⟨hlast, Call.result_of_retryable
      ((Moment.tryAt_step link settings call.operation last m).released hretry) call⟩

end MeterPolling
