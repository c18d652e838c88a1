import MeterPolling.Proofs.Effect
import MeterPolling.Proofs.Session.Answer

namespace MeterPolling

open Modbus

inductive LinkEvent where
  | connected (address : String) (result : Except ConnectFailure Unit)
  | sent (frame : List UInt8) (result : Except SendFailure Unit)
  | received (delivery : Delivery)
  | closed

def LinkEvent.bytes : LinkEvent → List UInt8
  | .received d => d.bytes
  | _ => []

def Link.logged {m : Type → Type} [Monad m] (l : Link m) : Link (StateT (List LinkEvent) m) where
  connect address := do
    let result ← l.connect address
    modify (· ++ [.connected address result])
    return result
  send frame := do
    let result ← l.send frame
    modify (· ++ [.sent frame result])
    return result
  receive enough := do
    let delivery ← l.receive enough
    modify (· ++ [.received delivery])
    return delivery
  close := do
    l.close
    modify (· ++ [.closed])
  now := StateT.lift l.now
  sleepUntil t := StateT.lift (l.sleepUntil t)

section Logged

variable {σ : Type} (link : Link (StateM σ)) (log : List LinkEvent) (w : σ)

@[simp] theorem Link.run_connect_logged (address : String) :
    ((link.logged.connect address).run log).run w =
      let run := (link.connect address).run w
      ((run.1, log ++ [.connected address run.1]), run.2) := rfl

@[simp] theorem Link.run_send_logged (frame : List UInt8) :
    ((link.logged.send frame).run log).run w =
      let run := (link.send frame).run w
      ((run.1, log ++ [.sent frame run.1]), run.2) := rfl

@[simp] theorem Link.run_receive_logged (enough : List UInt8 → Bool) :
    ((link.logged.receive enough).run log).run w =
      let run := (link.receive enough).run w
      ((run.1, log ++ [.received run.1]), run.2) := rfl

@[simp] theorem Link.run_close_logged :
    (link.logged.close.run log).run w = (((), log ++ [.closed]), (link.close.run w).2) := rfl

@[simp] theorem Link.run_now_logged :
    (link.logged.now.run log).run w = (((link.now.run w).1, log), (link.now.run w).2) := rfl

@[simp] theorem Link.run_sleepUntil_logged (t : TimeSpan) :
    ((link.logged.sleepUntil t).run log).run w = (((), log), ((link.sleepUntil t).run w).2) := rfl

end Logged

/-- A request on an open connection: what happens then, and the answer with the bytes left behind it. -/
inductive RoundTripStep (settings : SessionSettings) (request : Request) (buffer : List UInt8) :
    List LinkEvent → Except TransportError (Response × List UInt8) → Prop
  | unencoded {e : EncodeError} (encoded : request.encode = .error e) :
      RoundTripStep settings request buffer [] (.error (.send e.message))
  | unsent {frame : List UInt8} {failure : SendFailure} (encoded : request.encode = .ok frame) :
      RoundTripStep settings request buffer [.sent frame (.error failure)] (.error failure.error)
  | atHand {frame left : List UInt8} {r : Response} (encoded : request.encode = .ok frame)
      (answer : FirstResponse request.transaction buffer r left) :
      RoundTripStep settings request buffer [.sent frame (.ok ())] (.ok (r, left))
  | received {frame left : List UInt8} {d : Delivery} {r : Response}
      (encoded : request.encode = .ok frame) (missing : NoResponse request.transaction buffer)
      (answer : FirstResponse request.transaction (buffer ++ d.bytes) r left) :
      RoundTripStep settings request buffer [.sent frame (.ok ()), .received d] (.ok (r, left))
  | unanswered {frame : List UInt8} {d : Delivery} (encoded : request.encode = .ok frame)
      (missing : NoResponse request.transaction (buffer ++ d.bytes)) :
      RoundTripStep settings request buffer [.sent frame (.ok ()), .received d]
        (.error (d.ending.error settings.readTimeout (responses (buffer ++ d.bytes)).2))

def opening (settings : SessionSettings) : Option (List UInt8) → List LinkEvent
  | none => [.connected (addressOf settings.host) (.ok ())]
  | some _ => []

/--
An exchange: the bytes left on the open connection before it, what happens on the link, what it comes to,
and the bytes left after it. Only an answer leaves the connection open.
-/
inductive ExchangeStep (settings : SessionSettings) (request : Request) :
    Option (List UInt8) → List LinkEvent → Except TransportError Response →
      Option (List UInt8) → Prop
  | unconnected {failure : ConnectFailure} :
      ExchangeStep settings request none [.connected (addressOf settings.host) (.error failure)]
        (.error (failure.error (addressOf settings.host))) none
  | failed {opened : Option (List UInt8)} {events : List LinkEvent} {cause : TransportError}
      (trip : RoundTripStep settings request (opened.getD []) events (.error cause)) :
      ExchangeStep settings request opened (opening settings opened ++ events ++ [.closed])
        (.error cause) none
  | answered {opened : Option (List UInt8)} {events : List LinkEvent} {r : Response}
      {left : List UInt8} (trip : RoundTripStep settings request (opened.getD []) events (.ok (r, left))) :
      ExchangeStep settings request opened (opening settings opened ++ events) (.ok r) (some left)

variable {σ : Type}

theorem awaitResponse_cases (link : Link (StateM σ)) (readTimeout : TimeSpan) (transaction : UInt16)
    (buffer : List UInt8) (log : List LinkEvent) (w : σ) :
    (∃ r left, FirstResponse transaction buffer r left ∧
      ((awaitResponse link.logged readTimeout transaction buffer).run log).run w =
        ((.ok (r, left), log), w)) ∨
    (NoResponse transaction buffer ∧ ∃ d w',
      (∃ r left, FirstResponse transaction (buffer ++ d.bytes) r left ∧
        ((awaitResponse link.logged readTimeout transaction buffer).run log).run w =
          ((.ok (r, left), log ++ [.received d]), w')) ∨
      (NoResponse transaction (buffer ++ d.bytes) ∧
        ((awaitResponse link.logged readTimeout transaction buffer).run log).run w =
          ((.error (d.ending.error readTimeout (responses (buffer ++ d.bytes)).2),
            log ++ [.received d]), w'))) := by
  rcases findResponse_cases transaction buffer with ⟨r, left, he, hr⟩ | ⟨he, hno⟩
  · refine .inl ⟨r, left, hr, ?_⟩
    simp [awaitResponse, he]
  · refine .inr ⟨hno, ?_⟩
    rcases hd : (link.receive fun bytes =>
      (findResponse transaction ((responses buffer).2 ++ bytes)).1.isSome).run w with ⟨d, w'⟩
    refine ⟨d, w', ?_⟩
    rcases findResponse_cases transaction ((responses buffer).2 ++ d.bytes) with
      ⟨r, left, he', hr⟩ | ⟨he', hno'⟩
    · refine .inl ⟨r, left, hr.of_resumed hno, ?_⟩
      simp [awaitResponse, he, hd, he']
    · refine .inr ⟨hno.append hno', ?_⟩
      have hleft := responses_append buffer d.bytes
      simp [awaitResponse, he, hd, he', hleft]

theorem roundTrip_step (link : Link (StateM σ)) (settings : SessionSettings) (request : Request)
    (buffer : List UInt8) (log : List LinkEvent) (w : σ) :
    ∃ events result w',
      ((roundTrip link.logged settings request buffer).run log).run w =
        ((result, log ++ events), w') ∧
      RoundTripStep settings request buffer events result := by
  cases he : request.encode with
  | error e =>
    refine ⟨[], _, w, ?_, .unencoded he⟩
    simp [roundTrip, he]
  | ok frame =>
    rcases hs : (link.send frame).run w with ⟨sent, w₁⟩
    cases sent with
    | error failure =>
      refine ⟨[.sent frame (.error failure)], _, w₁, ?_, .unsent he⟩
      simp [roundTrip, he, hs]
    | ok _ =>
      have hrun : ((roundTrip link.logged settings request buffer).run log).run w =
          ((awaitResponse link.logged settings.readTimeout request.transaction buffer).run
            (log ++ [.sent frame (.ok ())])).run w₁ := by
        simp [roundTrip, he, hs]
      rw [hrun]
      rcases awaitResponse_cases link settings.readTimeout request.transaction buffer
          (log ++ [.sent frame (.ok ())]) w₁ with
        ⟨r, left, hr, ha⟩ | ⟨hno, d, w', ⟨r, left, hr, ha⟩ | ⟨hno', ha⟩⟩
      · exact ⟨_, _, w₁, ha, .atHand he hr⟩
      · refine ⟨_, _, w', ?_, .received he hno hr⟩
        rw [ha, List.append_assoc]
        rfl
      · refine ⟨_, _, w', ?_, .unanswered he hno'⟩
        rw [ha, List.append_assoc]
        rfl

theorem openBuffer_cases (link : Link (StateM σ)) (settings : SessionSettings) (s : Session)
    (log : List LinkEvent) (w : σ) :
    (∃ w', ((openBuffer link.logged settings s).run log).run w =
      ((.ok (s.buffer.getD []), log ++ opening settings s.buffer), w')) ∨
    (s.buffer = none ∧ ∃ failure w', ((openBuffer link.logged settings s).run log).run w =
      ((.error (failure.error (addressOf settings.host)),
        log ++ [.connected (addressOf settings.host) (.error failure)]), w')) := by
  cases hb : s.buffer with
  | some buffer =>
    refine .inl ⟨w, ?_⟩
    simp [openBuffer, opening, hb]
  | none =>
    rcases hc : (link.connect (addressOf settings.host)).run w with ⟨result, w'⟩
    cases result with
    | error failure =>
      refine .inr ⟨rfl, failure, w', ?_⟩
      simp [openBuffer, hb, hc]
    | ok _ =>
      refine .inl ⟨w', ?_⟩
      simp [openBuffer, opening, hb, hc]

def waitTurn {m : Type → Type} [Monad m] (link : Link m) (settings : SessionSettings) (s : Session) :
    m TimeSpan := do
  match s.lastSend with
  | some last => link.sleepUntil ⟨last.nanoseconds + settings.sendDelay.nanoseconds⟩
  | none => pure ()
  link.now

def concluded {m : Type → Type} [Monad m] (link : Link m) (s : Session) (now : TimeSpan) :
    Except TransportError (Response × List UInt8) → m (Except TransportError Response × Session)
  | .error e => do
    link.close
    return (.error e, { s with buffer := none, lastSend := some now })
  | .ok (r, left) => return (.ok r, { s with buffer := some left, lastSend := some now })

theorem exchange_eq {m : Type → Type} [Monad m] [LawfulMonad m] (link : Link m)
    (settings : SessionSettings) (request : Request) (s : Session) :
    exchange link settings request s = (do
      match ← openBuffer link settings s with
      | .error e => return (.error e, { s with buffer := none })
      | .ok buffer =>
        let now ← waitTurn link settings s
        let result ← roundTrip link settings request buffer
        concluded link s now result) := by
  unfold exchange waitTurn
  congr
  funext opened
  cases opened with
  | error e => rfl
  | ok buffer =>
    cases s.lastSend with
    | none => rfl
    | some last =>
      simp only [bind_assoc]
      rfl

theorem waitTurn_run (link : Link (StateM σ)) (settings : SessionSettings) (s : Session)
    (log : List LinkEvent) (w : σ) :
    ∃ now w', ((waitTurn link.logged settings s).run log).run w = ((now, log), w') := by
  cases hl : s.lastSend with
  | none =>
    refine ⟨(link.now.run w).1, (link.now.run w).2, ?_⟩
    simp [waitTurn, hl]
  | some last =>
    rcases hs : (link.sleepUntil ⟨last.nanoseconds + settings.sendDelay.nanoseconds⟩).run w with
      ⟨u, w₁⟩
    refine ⟨(link.now.run w₁).1, (link.now.run w₁).2, ?_⟩
    simp [waitTurn, hl, hs]

theorem exchange_step (link : Link (StateM σ)) (settings : SessionSettings) (request : Request)
    (s : Session) (log : List LinkEvent) (w : σ) :
    ∃ events reply s' w', ((exchange link.logged settings request s).run log).run w =
        (((reply, s'), log ++ events), w') ∧
      ExchangeStep settings request s.buffer events reply s'.buffer ∧
      s'.nextTransaction = s.nextTransaction := by
  rcases openBuffer_cases link settings s log w with ⟨w', ho⟩ | ⟨hb, failure, w', ho⟩
  · obtain ⟨now, w₁, hw⟩ := waitTurn_run link settings s (log ++ opening settings s.buffer) w'
    obtain ⟨events, result, w₂, htrip, hstep⟩ := roundTrip_step link settings request
      (s.buffer.getD []) (log ++ opening settings s.buffer) w₁
    cases result with
    | error cause =>
      refine ⟨opening settings s.buffer ++ events ++ [.closed], _,
        { s with buffer := none, lastSend := some now }, (link.close.run w₂).2, ?_,
        .failed hstep, rfl⟩
      simp [exchange_eq, concluded, ho, hw, htrip]
    | ok p =>
      refine ⟨opening settings s.buffer ++ events, _,
        { s with buffer := some p.2, lastSend := some now }, w₂, ?_, .answered hstep, rfl⟩
      simp [exchange_eq, concluded, ho, hw, htrip]
  · refine ⟨[.connected (addressOf settings.host) (.error failure)],
      .error (failure.error (addressOf settings.host)), { s with buffer := none }, w', ?_, ?_, rfl⟩
    · simp [exchange, ho]
    · rw [hb]
      exact .unconnected

end MeterPolling
