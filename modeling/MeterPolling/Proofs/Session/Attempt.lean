import MeterPolling.Proofs.Session.Exchange

namespace MeterPolling

open Modbus

structure SendAttempt where
  request : Request
  events : List LinkEvent
  reply : Except TransportError Response

/-- Attempts one after the other, each with the connection that the one before has left. -/
inductive Attempts (settings : SessionSettings) :
    Option (List UInt8) → List SendAttempt → Option (List UInt8) → Prop
  | nil {opened : Option (List UInt8)} : Attempts settings opened [] opened
  | cons {opened next closed : Option (List UInt8)} {a : SendAttempt} {rest : List SendAttempt}
      (first : ExchangeStep settings a.request opened a.events a.reply next)
      (others : Attempts settings next rest closed) : Attempts settings opened (a :: rest) closed

theorem Attempts.append {settings : SessionSettings} {opened next closed : Option (List UInt8)}
    {as bs : List SendAttempt} (ha : Attempts settings opened as next)
    (hb : Attempts settings next bs closed) : Attempts settings opened (as ++ bs) closed := by
  induction ha with
  | nil => exact hb
  | cons first _ ih => exact .cons first (ih hb)

theorem Attempts.split {settings : SessionSettings} {opened closed : Option (List UInt8)}
    {as bs : List SendAttempt} (h : Attempts settings opened (as ++ bs) closed) :
    ∃ next, Attempts settings opened as next ∧ Attempts settings next bs closed := by
  induction as generalizing opened with
  | nil => exact ⟨opened, .nil, h⟩
  | cons a as ih =>
    cases h with
    | cons first others =>
      obtain ⟨next, ha, hb⟩ := ih others
      exact ⟨next, .cons first ha, hb⟩

/-- The attempts at one request: `earlier` ones, each of which allowed another, and the last one. -/
structure Retried (settings : SessionSettings) (operation : Operation) (retries : Nat)
    (number : UInt16) (opened : Option (List UInt8)) (earlier : List SendAttempt)
    (last : SendAttempt) (closed : Option (List UInt8)) : Prop where
  chain : Attempts settings opened (earlier ++ [last]) closed
  requests : ∀ i (a : SendAttempt), (earlier ++ [last])[i]? = some a →
    a.request = ⟨settings.unit, number + UInt16.ofNat i, operation⟩
  retried : ∀ a ∈ earlier, Session.Retry.of a.reply ≠ .no
  bounded : earlier.length ≤ retries
  final : earlier.length < retries → Session.Retry.of last.reply = .no

variable {σ : Type}

theorem send_step (link : Link (StateM σ)) (settings : SessionSettings) (operation : Operation)
    (s : Session) (log : List LinkEvent) (w : σ) :
    ∃ (a : SendAttempt) (s' : Session) (w' : σ),
      (((Session.send link.logged settings operation).run s).run log).run w =
        (((a.reply, s'), log ++ a.events), w') ∧
      ExchangeStep settings a.request s.buffer a.events a.reply s'.buffer ∧
      a.request = ⟨settings.unit, s.nextTransaction, operation⟩ ∧
      s'.nextTransaction = s.nextTransaction + 1 := by
  let request : Request := ⟨settings.unit, s.nextTransaction, operation⟩
  obtain ⟨events, reply, s', w', hrun, hstep, hnext⟩ :=
    exchange_step link settings request s.takeTransaction.2 log w
  exact ⟨⟨request, events, reply⟩, s', w', hrun, hstep, rfl, hnext⟩

theorem pause_run (link : Link (StateM σ)) (settings : SessionSettings) (log : List LinkEvent)
    (w : σ) :
    ∃ w', ((Session.pause link.logged settings).run log).run w = (((), log), w') := by
  rcases hn : link.now.run w with ⟨now, w₁⟩
  rcases hs : (link.sleepUntil (now.pauseEnd settings.busyDelay)).run w₁ with ⟨u, w'⟩
  refine ⟨w', ?_⟩
  simp [Session.pause, hn, hs]

theorem number_succ (number : UInt16) (i : Nat) :
    number + 1 + UInt16.ofNat i = number + UInt16.ofNat (i + 1) := by
  rw [UInt16.ofNat_add, UInt16.add_assoc, UInt16.add_comm 1]
  rfl

theorem Retried.single {settings : SessionSettings} {operation : Operation} {retries : Nat}
    {number : UInt16} {opened closed : Option (List UInt8)} {a : SendAttempt}
    (step : ExchangeStep settings a.request opened a.events a.reply closed)
    (request : a.request = ⟨settings.unit, number, operation⟩)
    (final : 0 < retries → Session.Retry.of a.reply = .no) :
    Retried settings operation retries number opened [] a closed := by
  refine ⟨.cons step .nil, ?_, by simp, by simp, final⟩
  intro i b hb
  cases i with
  | zero =>
    cases Option.some.inj hb
    simpa using request
  | succ i => simp at hb

theorem Retried.again {settings : SessionSettings} {operation : Operation} {retries : Nat}
    {number : UInt16} {opened next closed : Option (List UInt8)} {a last : SendAttempt}
    {earlier : List SendAttempt}
    (step : ExchangeStep settings a.request opened a.events a.reply next)
    (request : a.request = ⟨settings.unit, number, operation⟩)
    (retry : Session.Retry.of a.reply ≠ .no)
    (others : Retried settings operation retries (number + 1) next earlier last closed) :
    Retried settings operation (retries + 1) number opened (a :: earlier) last closed := by
  refine ⟨.cons step others.chain, ?_, ?_, ?_, ?_⟩
  · intro i b hb
    cases i with
    | zero =>
      cases Option.some.inj hb
      simpa using request
    | succ i =>
      have hreq := others.requests i b hb
      rw [hreq, number_succ]
  · intro b hb
    rcases List.mem_cons.mp hb with he | he
    · subst b
      exact retry
    · exact others.retried b he
  · have := others.bounded
    simp only [List.length_cons]
    omega
  · intro hlt
    simp only [List.length_cons] at hlt
    exact others.final (by omega)

theorem retrying_again (link : Link (StateM σ)) (settings : SessionSettings)
    (operation : Operation) (retries : Nat) {s s₁ : Session} {log log₁ : List LinkEvent} {w w₁ : σ}
    {reply : Except TransportError Response}
    (h : (((Session.send link.logged settings operation).run s).run log).run w =
      (((reply, s₁), log₁), w₁))
    (retry : Session.Retry.of reply ≠ .no) :
    ∃ w₂, (((Session.retrying (Session.send link.logged settings operation)
        (StateT.lift (Session.pause link.logged settings)) (retries + 1)).run s).run log).run w =
      (((Session.retrying (Session.send link.logged settings operation)
        (StateT.lift (Session.pause link.logged settings)) retries).run s₁).run log₁).run w₂ := by
  cases hr : Session.Retry.of reply with
  | no => exact absurd hr retry
  | afterTimeout =>
    refine ⟨w₁, ?_⟩
    simp [Session.retrying, h, hr]
  | afterBusy =>
    obtain ⟨w₂, hp⟩ := pause_run link settings log₁ w₁
    refine ⟨w₂, ?_⟩
    simp [Session.retrying, h, hr, hp]

theorem retrying_retried (link : Link (StateM σ)) (settings : SessionSettings)
    (operation : Operation) (retries : Nat) (s : Session) (log : List LinkEvent) (w : σ) :
    ∃ (earlier : List SendAttempt) (last : SendAttempt) (s' : Session) (w' : σ),
      (((Session.retrying (Session.send link.logged settings operation)
        (StateT.lift (Session.pause link.logged settings)) retries).run s).run log).run w =
          (((last.reply, s'), log ++ (earlier ++ [last]).flatMap SendAttempt.events), w') ∧
      Retried settings operation retries s.nextTransaction s.buffer earlier last s'.buffer ∧
      s'.nextTransaction = s.nextTransaction + UInt16.ofNat (earlier ++ [last]).length := by
  -- The retries left go down with each attempt, while number and connection are those it has left.
  induction retries generalizing s log w with
  | zero =>
    obtain ⟨a, s', w', hrun, hstep, hreq, hnext⟩ := send_step link settings operation s log w
    refine ⟨[], a, s', w', ?_, .single hstep hreq (by simp), hnext⟩
    simpa [Session.retrying] using hrun
  | succ retries ih =>
    obtain ⟨a, s₁, w₁, hrun, hstep, hreq, hnext⟩ := send_step link settings operation s log w
    by_cases hretry : Session.Retry.of a.reply = .no
    · refine ⟨[], a, s₁, w₁, ?_, .single hstep hreq (fun _ => hretry), hnext⟩
      simp [Session.retrying, hrun, hretry]
    · obtain ⟨w₂, hagain⟩ := retrying_again link settings operation retries hrun hretry
      obtain ⟨earlier, last, s', w', hrest, hretried, hnum⟩ := ih s₁ (log ++ a.events) w₂
      rw [hnext] at hretried hnum
      refine ⟨a :: earlier, last, s', w', ?_, .again hstep hreq hretry hretried, ?_⟩
      · rw [hagain, hrest]
        simp
      · rw [hnum, number_succ]
        rfl

end MeterPolling
