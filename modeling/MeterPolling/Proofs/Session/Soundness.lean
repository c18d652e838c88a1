import MeterPolling.Proofs.Modbus.Codec
import MeterPolling.Proofs.Session.Unused

namespace MeterPolling

open Modbus

def SendAttempt.Sent (a : SendAttempt) : Prop := ∃ frame, .sent frame (.ok ()) ∈ a.events

/-- What an attempt comes to, given the bytes in which it looks for its answer. -/
inductive Decided (settings : SessionSettings) (a : SendAttempt) (stream : List UInt8) : Prop
  | answered {r : Response} (sent : a.Sent)
      (first : firstAnswer a.request.transaction stream = some r) (reply : a.reply = .ok r)
  | unanswered {d : Delivery} (sent : a.Sent)
      (missing : firstAnswer a.request.transaction stream = none) (ended : .received d ∈ a.events)
      (reply : a.reply = .error (d.ending.error settings.readTimeout (responses stream).2))
  | unsent {frame : List UInt8} {failure : SendFailure} (unsent : ¬ a.Sent)
      (failed : .sent frame (.error failure) ∈ a.events) (reply : a.reply = .error failure.error)
  | tooLong (unsent : ¬ a.Sent) (long : a.request.operation.tooLong)
      (reply : a.reply = .error (.send EncodeError.tooManyRegisters.message))
  | unconnected {failure : ConnectFailure} (unsent : ¬ a.Sent)
      (failed : .connected (addressOf settings.host) (.error failure) ∈ a.events)
      (reply : a.reply = .error (failure.error (addressOf settings.host)))

theorem mem_opening {settings : SessionSettings} {opened : Option (List UInt8)} {frame : List UInt8}
    {result : Except SendFailure Unit} : .sent frame result ∉ opening settings opened := by
  cases opened with
  | none => simp [opening]
  | some left => simp [opening]

theorem ExchangeStep.decided {settings : SessionSettings} {a : SendAttempt}
    {opened closed : Option (List UInt8)}
    (h : ExchangeStep settings a.request opened a.events a.reply closed) :
    Decided settings a (opened.getD [] ++ a.bytes) := by
  -- The fields stand for themselves, so that the step can be taken apart.
  obtain ⟨request, events, reply⟩ := a
  simp only at h
  cases h with
  | @unconnected failure =>
    refine .unconnected ?_ (List.mem_singleton_self _) rfl
    simp [SendAttempt.Sent]
  | failed trip =>
    cases trip with
    | unencoded encoded =>
      obtain ⟨long, he⟩ := Request.encode_error encoded
      subst he
      refine .tooLong ?_ long rfl
      simp [SendAttempt.Sent, mem_opening]
    | @unsent frame failure encoded =>
      have hfailed : .sent frame (.error failure) ∈ opening settings opened ++
          [.sent frame (.error failure)] ++ [.closed] := by simp
      refine .unsent ?_ hfailed rfl
      simp [SendAttempt.Sent, mem_opening]
    | @unanswered frame d encoded missing =>
      have hended : .received d ∈ opening settings opened ++
          [.sent frame (.ok ()), .received d] ++ [.closed] := by simp
      have hbytes : (opening settings opened ++ [LinkEvent.sent frame (.ok ()), .received d] ++
          [LinkEvent.closed]).flatMap LinkEvent.bytes = d.bytes := by
        simp [bytes_opening, LinkEvent.bytes]
      unfold SendAttempt.bytes
      rw [hbytes]
      exact .unanswered ⟨frame, by simp⟩ missing.firstAnswer hended rfl
  | @answered _ events r left trip =>
    have hfirst := trip.answer.firstAnswer
    unfold SendAttempt.bytes
    rw [List.flatMap_append, bytes_opening, List.nil_append]
    refine .answered ?_ hfirst rfl
    cases trip with
    | @atHand frame => exact ⟨frame, by simp⟩
    | @received frame => exact ⟨frame, by simp⟩

theorem Decided.reply_eq_ok_iff {settings : SessionSettings} {a : SendAttempt} {stream : List UInt8}
    {r : Response} (h : Decided settings a stream) :
    a.reply = .ok r ↔ a.Sent ∧ firstAnswer a.request.transaction stream = some r := by
  cases h with
  | answered sent first reply => simp [sent, first, reply]
  | unanswered sent missing _ reply => simp [missing, reply]
  | unsent unsent _ reply => simp [unsent, reply]
  | tooLong unsent _ reply => simp [unsent, reply]
  | unconnected unsent _ reply => simp [unsent, reply]

theorem bind_eq_ok_iff {α β : Type} {x : Except TransportError α} {f : α → Except TransportError β}
    {y : β} : x.bind f = .ok y ↔ ∃ a, x = .ok a ∧ f a = .ok y := by
  cases x with
  | error e => simp [Except.bind]
  | ok a => simp [Except.bind]

theorem reading_eq_ok_iff {count : UInt16} {r : Response} {words : List UInt16} :
    Session.reading count r = .ok words ↔ r.kind = .values words ∧ words.length = count.toNat := by
  unfold Session.reading
  split
  next found hk =>
    split
    next hl =>
      simp only [hk, Except.ok.injEq, ResponseKind.values.injEq]
      constructor
      · intro h
        subst h
        exact ⟨rfl, hl⟩
      · exact And.left
    next hl =>
      simp only [hk, reduceCtorEq, ResponseKind.values.injEq, false_iff]
      rintro ⟨rfl, h⟩
      exact hl h
  next hk => simp [hk]
  next hk => simp [hk]
  next hk => simp [hk]

theorem acknowledgement_eq_ok_iff {register : UInt16} {count : Nat} {r : Response} {u : Unit} :
    Session.acknowledgement register count r = .ok u ↔
      ∃ written : UInt16, r.kind = .written register written ∧ written.toNat = count := by
  unfold Session.acknowledgement
  split
  next address written hk =>
    split
    next h => simp [hk, h]
    next h =>
      simp only [hk, reduceCtorEq, ResponseKind.written.injEq, false_iff]
      rintro ⟨w, ⟨ha, hw⟩, hc⟩
      subst hw
      exact h ⟨ha, hc⟩
  next hk => simp [hk]
  next hk => simp [hk]
  next hk => simp [hk]

/--
The last attempt of a session that has made others before it, and the bytes in which it looks for its answer:
those of its connection that are not used up. Whatever comes behind them makes no difference.
-/
structure LastAttempt (settings : SessionSettings) (operation : Operation)
    (before : List SendAttempt) (last : SendAttempt) (log : List LinkEvent)
    (stream : List UInt8) : Prop where
  request : last.request = ⟨settings.unit, UInt16.ofNat before.length, operation⟩
  events : log = (before ++ [last]).flatMap SendAttempt.events
  unused : ∃ used, UsedUp before last used ∧ connectionBytes log = used ++ stream
  decided : Decided settings last stream
  stays : ∀ r more, firstAnswer last.request.transaction stream = some r →
    firstAnswer last.request.transaction (stream ++ more) = some r

variable {σ : Type}

theorem Retried.lastAttempt {settings : SessionSettings} {operation : Operation} {retries : Nat}
    {attempts earlier : List SendAttempt} {last : SendAttempt} {s : Session} {log : List LinkEvent}
    {closed : Option (List UInt8)} (h : Traced settings attempts s log)
    (hr : Retried settings operation retries s.nextTransaction s.buffer earlier last closed) :
    ∃ stream, LastAttempt settings operation (attempts ++ earlier) last
      (log ++ (earlier ++ [last]).flatMap SendAttempt.events) stream := by
  obtain ⟨next, hbefore, hlast⟩ := hr.chain.split
  have hchain := h.chain.append hbefore
  have hleft : ∀ left, next = some left → LeftOver (attempts ++ earlier) left := by
    have := hchain.leftOver [] (by simp)
    simpa using this
  have hlog : log ++ (earlier ++ [last]).flatMap SendAttempt.events =
      (attempts ++ earlier ++ [last]).flatMap SendAttempt.events := by
    rw [h.events, List.append_assoc, ← List.flatMap_append]
  have hreq : last.request =
      ⟨settings.unit, UInt16.ofNat (attempts ++ earlier).length, operation⟩ := by
    have := hr.requests earlier.length last (by simp)
    rw [this, h.next, ← UInt16.ofNat_add, ← List.length_append]
  cases hlast with
  | cons step _ =>
    obtain ⟨used, hu, hbytes⟩ := step.stream hleft
    refine ⟨next.getD [] ++ last.bytes, hreq, hlog, ⟨used, hu, ?_⟩, step.decided, ?_⟩
    · rw [hlog]
      exact hbytes
    · intro r more hfirst
      exact firstAnswer_append hfirst more

/--
After any calls to a session, on any link and whatever has come of them: a read succeeds just if the request of
its last attempt went out and the first response with its number among the bytes left for it holds as many words
as were asked for, which are then its result; and a write just if that response acknowledges the same register
and number of words. What else comes of them is what `Decided` says of the last attempt, and what
`Session.reading` and `Session.acknowledgement` make of that response.
-/
theorem client_sound (link : Link (StateM σ)) (settings : SessionSettings) (history : List Call)
    (w : σ) :
    let client := Session.client link.logged settings
    ∃ attempts s log w₁,
      (((client.performAll history).run {}).run []).run w = ((((), s), log), w₁) ∧
      Traced settings attempts s log ∧
      (∀ register count, ∃ earlier last stream s' log' w₂,
        (((client.read register count).run s).run log).run w₁ =
          (((last.reply.bind (Session.reading count), s'), log'), w₂) ∧
        Retried settings (.readRegisters register count) settings.retries s.nextTransaction s.buffer
          earlier last s'.buffer ∧
        LastAttempt settings (.readRegisters register count) (attempts ++ earlier) last log' stream ∧
        ∀ words, last.reply.bind (Session.reading count) = .ok words ↔
          last.Sent ∧ ∃ r, firstAnswer last.request.transaction stream = some r ∧
            r.kind = .values words ∧ words.length = count.toNat) ∧
      ∀ register values, ∃ earlier last stream s' log' w₂,
        (((client.write register values).run s).run log).run w₁ =
          (((last.reply.bind (Session.acknowledgement register values.length), s'), log'), w₂) ∧
        Retried settings (.writeRegisters register values) settings.retries s.nextTransaction s.buffer
          earlier last s'.buffer ∧
        LastAttempt settings (.writeRegisters register values) (attempts ++ earlier) last log' stream ∧
        (last.reply.bind (Session.acknowledgement register values.length) = .ok () ↔
          last.Sent ∧ ∃ r, firstAnswer last.request.transaction stream = some r ∧
            ∃ written : UInt16, r.kind = .written register written ∧
              written.toNat = values.length) := by
  intro client
  obtain ⟨attempts, s, log, w₁, hrun, ht⟩ :=
    performAll_traced link settings history (.start settings) w
  refine ⟨attempts, s, log, w₁, hrun, ht, ?_, ?_⟩
  · intro register count
    obtain ⟨earlier, last, s', w₂, hread, hr, _⟩ :=
      sendRetrying_traced link settings (.readRegisters register count) ht w₁
    obtain ⟨stream, hlast⟩ := hr.lastAttempt ht
    refine ⟨earlier, last, stream, s', _, w₂, ?_, hr, hlast, ?_⟩
    · simp [client, Session.client, hread]
    · intro words
      simp only [bind_eq_ok_iff, hlast.decided.reply_eq_ok_iff, reading_eq_ok_iff, and_assoc,
        exists_and_left]
  · intro register values
    obtain ⟨earlier, last, s', w₂, hwrite, hr, _⟩ :=
      sendRetrying_traced link settings (.writeRegisters register values) ht w₁
    obtain ⟨stream, hlast⟩ := hr.lastAttempt ht
    refine ⟨earlier, last, stream, s', _, w₂, ?_, hr, hlast, ?_⟩
    · simp [client, Session.client, hwrite]
    · simp only [bind_eq_ok_iff, hlast.decided.reply_eq_ok_iff, acknowledgement_eq_ok_iff,
        and_assoc, exists_and_left]

end MeterPolling
