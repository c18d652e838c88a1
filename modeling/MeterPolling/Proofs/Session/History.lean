import MeterPolling.Proofs.Session.Attempt

namespace MeterPolling

open Modbus

section Calls

variable {m : Type → Type} [Monad m]

def Client.perform (client : Client m) : Call → m Unit
  | .read register count => do
    let _ ← client.read register count
  | .write register values => do
    let _ ← client.write register values

def Client.performAll (client : Client m) : List Call → m Unit
  | [] => pure ()
  | call :: rest => do
    client.perform call
    client.performAll rest

end Calls

/-- The attempts of a session since it began, and what happened on its link. -/
structure Traced (settings : SessionSettings) (attempts : List SendAttempt) (s : Session)
    (log : List LinkEvent) : Prop where
  chain : Attempts settings none attempts s.buffer
  numbered : ∀ i (a : SendAttempt), attempts[i]? = some a →
    a.request.unit = settings.unit ∧ a.request.transaction = UInt16.ofNat i
  next : s.nextTransaction = UInt16.ofNat attempts.length
  events : log = attempts.flatMap SendAttempt.events

theorem Traced.start (settings : SessionSettings) : Traced settings [] {} [] :=
  ⟨.nil, by simp, rfl, rfl⟩

theorem Traced.retried {settings : SessionSettings} {attempts earlier : List SendAttempt}
    {last : SendAttempt} {s s' : Session} {log : List LinkEvent} {operation : Operation}
    {retries : Nat} (h : Traced settings attempts s log)
    (hr : Retried settings operation retries s.nextTransaction s.buffer earlier last s'.buffer)
    (hn : s'.nextTransaction = s.nextTransaction + UInt16.ofNat (earlier ++ [last]).length) :
    Traced settings (attempts ++ (earlier ++ [last])) s'
      (log ++ (earlier ++ [last]).flatMap SendAttempt.events) := by
  refine ⟨h.chain.append hr.chain, ?_, ?_, ?_⟩
  · intro i a ha
    by_cases hi : i < attempts.length
    · rw [List.getElem?_append_left hi] at ha
      exact h.numbered i a ha
    · rw [List.getElem?_append_right (by omega)] at ha
      have hreq := hr.requests _ a ha
      have hsum : UInt16.ofNat attempts.length + UInt16.ofNat (i - attempts.length) =
          UInt16.ofNat i := by
        rw [← UInt16.ofNat_add, Nat.add_sub_cancel' (by omega)]
      rw [hreq, h.next, hsum]
      exact ⟨rfl, rfl⟩
  · rw [hn, h.next, ← UInt16.ofNat_add, ← List.length_append]
  · rw [h.events, ← List.flatMap_append]

variable {σ : Type}

theorem sendRetrying_traced (link : Link (StateM σ)) (settings : SessionSettings)
    (operation : Operation) {attempts : List SendAttempt} {s : Session} {log : List LinkEvent}
    (h : Traced settings attempts s log) (w : σ) :
    ∃ (earlier : List SendAttempt) (last : SendAttempt) (s' : Session) (w' : σ),
      (((Session.sendRetrying link.logged settings operation).run s).run log).run w =
        (((last.reply, s'), log ++ (earlier ++ [last]).flatMap SendAttempt.events), w') ∧
      Retried settings operation settings.retries s.nextTransaction s.buffer earlier last s'.buffer ∧
      Traced settings (attempts ++ (earlier ++ [last])) s'
        (log ++ (earlier ++ [last]).flatMap SendAttempt.events) := by
  obtain ⟨earlier, last, s', w', hrun, hr, hn⟩ :=
    retrying_retried link settings operation settings.retries s log w
  exact ⟨earlier, last, s', w', hrun, hr, h.retried hr hn⟩

theorem perform_traced (link : Link (StateM σ)) (settings : SessionSettings) (call : Call)
    {attempts : List SendAttempt} {s : Session} {log : List LinkEvent}
    (h : Traced settings attempts s log) (w : σ) :
    ∃ (made : List SendAttempt) (s' : Session) (log' : List LinkEvent) (w' : σ),
      ((((Session.client link.logged settings).perform call).run s).run log).run w =
        ((((), s'), log'), w') ∧ Traced settings (attempts ++ made) s' log' := by
  cases call with
  | read register count =>
    obtain ⟨earlier, last, s', w', hrun, _, ht⟩ :=
      sendRetrying_traced link settings (.readRegisters register count) h w
    refine ⟨_, s', _, w', ?_, ht⟩
    simp [Client.perform, Session.client, hrun]
  | write register values =>
    obtain ⟨earlier, last, s', w', hrun, _, ht⟩ :=
      sendRetrying_traced link settings (.writeRegisters register values) h w
    refine ⟨_, s', _, w', ?_, ht⟩
    simp [Client.perform, Session.client, hrun]

theorem performAll_traced (link : Link (StateM σ)) (settings : SessionSettings)
    (calls : List Call) {attempts : List SendAttempt} {s : Session} {log : List LinkEvent}
    (h : Traced settings attempts s log) (w : σ) :
    ∃ (made : List SendAttempt) (s' : Session) (log' : List LinkEvent) (w' : σ),
      ((((Session.client link.logged settings).performAll calls).run s).run log).run w =
        ((((), s'), log'), w') ∧ Traced settings (attempts ++ made) s' log' := by
  induction calls generalizing attempts s log w with
  | nil =>
    refine ⟨[], s, log, w, rfl, ?_⟩
    rwa [List.append_nil]
  | cons call rest ih =>
    obtain ⟨made, s₁, log₁, w₁, hcall, h₁⟩ := perform_traced link settings call h w
    obtain ⟨more, s', log', w', hrest, h'⟩ := ih h₁ w₁
    refine ⟨made ++ more, s', log', w', ?_, ?_⟩
    · simp [Client.performAll, hcall, hrest]
    · rwa [← List.append_assoc]

end MeterPolling
