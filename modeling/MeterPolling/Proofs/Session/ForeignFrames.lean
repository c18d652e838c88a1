import MeterPolling.Proofs.Session.Inbox
import MeterPolling.Proofs.Session.TwinLinks

namespace MeterPolling

open Modbus

structure Session.Alike (foreign : UInt16 → Prop) (s s' : Session) : Prop where
  rest : s' = { s with buffer := s'.buffer }
  buffer : Option.Rel (Inserted foreign) s.buffer s'.buffer

inductive Agreed {α : Type} (R : α → α → Prop) :
    Except TransportError α → Except TransportError α → Prop
  | error (e : TransportError) : Agreed R (.error e) (.error e)
  | ok {a b : α} (related : R a b) : Agreed R (.ok a) (.ok b)

section Session

variable {foreign : UInt16 → Prop} {script script' : GatewayScript} {base : Gateway}
  (settings : SessionSettings) {s s' : Session} {buffer buffer' : List UInt8}

theorem alike_openBuffer (hs : s.Alike foreign s') :
    (alike foreign script script' base).Holds (Agreed (Inserted foreign))
      (openBuffer (Gateway.link settings).logged settings s)
      (openBuffer (Gateway.link settings).logged settings s') := by
  have hb := hs.buffer
  unfold openBuffer
  generalize s.buffer = kept at hb
  generalize s'.buffer = kept' at hb
  cases hb with
  | some hleft => exact (alike foreign script script' base).pure_holds (.ok hleft)
  | none =>
    refine (alike foreign script script' base).bind_holds (alike_connect settings _) ?_
    rintro result _ rfl
    cases result with
    | error failure => exact (alike foreign script script' base).pure_holds (.error _)
    | ok _ => exact (alike foreign script script' base).pure_holds (.ok .nil)

theorem alike_waitTurn (hs : s.Alike foreign s') :
    (alike foreign script script' base).Holds Eq
      (waitTurn (Gateway.link settings).logged settings s)
      (waitTurn (Gateway.link settings).logged settings s') := by
  have hlast : s'.lastSend = s.lastSend := by rw [hs.rest]
  unfold waitTurn
  rw [hlast]
  cases s.lastSend with
  | none => exact alike_now settings
  | some last =>
    refine (alike foreign script script' base).bind_holds (alike_sleepUntil settings _) ?_
    intro _ _ _
    exact alike_now settings

theorem alike_awaitResponse (hb : Inserted foreign buffer buffer') {transaction : UInt16}
    (ht : ∀ id, foreign id → id ≠ transaction) (readTimeout : TimeSpan) :
    (alike foreign script script' base).Holds
      (Agreed fun p p' => p'.1 = p.1 ∧ Inserted foreign p.2 p'.2)
      (awaitResponse (Gateway.link settings).logged readTimeout transaction buffer)
      (awaitResponse (Gateway.link settings).logged readTimeout transaction buffer') := by
  obtain ⟨found, left, left', he, he', hleft, hnone⟩ := hb.find ht
  simp only [awaitResponse, he, he']
  cases found with
  | some r => exact (alike foreign script script' base).pure_holds (.ok ⟨rfl, hleft⟩)
  | none =>
    obtain ⟨hl, hl'⟩ := hnone rfl
    subst hl hl'
    refine (alike foreign script script' base).bind_holds (alike_receive settings _ _) ?_
    rintro d d' ⟨hd, hending⟩
    obtain ⟨found, left, left', he, he', hleft, hnone⟩ := hd.find ht
    simp only [List.nil_append, he, he', hending]
    cases found with
    | some r => exact (alike foreign script script' base).pure_holds (.ok ⟨rfl, hleft⟩)
    | none =>
      obtain ⟨hl, hl'⟩ := hnone rfl
      subst hl hl'
      exact (alike foreign script script' base).pure_holds (.error _)

theorem alike_concluded (hs : s.Alike foreign s') (now : TimeSpan)
    {result result' : Except TransportError (Response × List UInt8)}
    (hr : Agreed (fun p p' => p'.1 = p.1 ∧ Inserted foreign p.2 p'.2) result result') :
    (alike foreign script script' base).Holds (fun p p' => p'.1 = p.1 ∧ p.2.Alike foreign p'.2)
      (concluded (Gateway.link settings).logged s now result)
      (concluded (Gateway.link settings).logged s' now result') := by
  have hrest := hs.rest
  cases hr with
  | error e =>
    refine (alike foreign script script' base).bind_holds (alike_close settings) ?_
    intro _ _ _
    refine (alike foreign script script' base).pure_holds ⟨rfl, ?_, .none⟩
    rw [hrest]
  | @ok p p' related =>
    obtain ⟨r, left⟩ := p
    obtain ⟨r', left'⟩ := p'
    obtain ⟨hr, hleft⟩ := related
    simp only at hr hleft
    subst hr
    refine (alike foreign script script' base).pure_holds ⟨rfl, ?_, .some hleft⟩
    rw [hrest]

theorem Alike.roundTrip {log log' : List LinkEvent} {g g' : Gateway}
    (h : Alike foreign script script' base log log' g g') (hb : Inserted foreign buffer buffer')
    {request : Request} (ht : ∀ id, foreign id → id ≠ request.transaction)
    (place : ∀ c r frame, base.requestAt c r = none →
      (((roundTrip (Gateway.link settings).logged settings request buffer).run log).run
        g).2.requestAt c r = some frame →
      (script.reply c r).Interspersed foreign base.bank frame (script'.reply c r)) :
    let run := ((roundTrip (Gateway.link settings).logged settings request buffer).run log).run g
    let run' := ((roundTrip (Gateway.link settings).logged settings request buffer').run log').run g'
    Agreed (fun p p' => p'.1 = p.1 ∧ Inserted foreign p.2 p'.2) run.1.1 run'.1.1 ∧
      ∃ base', Alike foreign script script' base' run.1.2 run'.1.2 run.2 run'.2 := by
  intro run run'
  cases he : request.encode with
  | error e =>
    have hrun : run = ((.error (.send e.message), log), g) := by simp [run, MeterPolling.roundTrip, he]
    have hrun' : run' = ((.error (.send e.message), log'), g') := by
      simp [run', MeterPolling.roundTrip, he]
    rw [hrun, hrun']
    exact ⟨.error _, base, h⟩
  | ok frame =>
    have hsent : run.2.received = (((Gateway.link settings).send frame).run g).2.received :=
      (Gateway.inbox settings).roundTrip_sent settings he buffer log g
    have hsend := h.send settings frame (fun c r hnone hsome =>
      place c r frame hnone ((Gateway.requestAt_congr hsent c r).trans hsome))
    rcases hs : ((Gateway.link settings).send frame).run g with ⟨result, g₁⟩
    rcases hs' : ((Gateway.link settings).send frame).run g' with ⟨result', g₁'⟩
    rw [hs, hs'] at hsend
    obtain ⟨hsame, h₁⟩ := hsend
    simp only at hsame h₁
    rw [hsame] at hs'
    have h₂ : Alike foreign script script' g₁ (log ++ [.sent frame result])
        (log' ++ [.sent frame result]) g₁ g₁' := h₁.event rfl
    cases result with
    | error failure =>
      have hrun : run = ((.error failure.error, log ++ [.sent frame (.error failure)]), g₁) := by
        simp [run, MeterPolling.roundTrip, he, hs]
      have hrun' : run' = ((.error failure.error, log' ++ [.sent frame (.error failure)]), g₁') := by
        simp [run', MeterPolling.roundTrip, he, hs']
      rw [hrun, hrun']
      exact ⟨.error _, g₁, h₂⟩
    | ok _ =>
      have hrun : run = ((awaitResponse (Gateway.link settings).logged settings.readTimeout
          request.transaction buffer).run (log ++ [.sent frame (.ok ())])).run g₁ := by
        simp [run, MeterPolling.roundTrip, he, hs]
      have hrun' : run' = ((awaitResponse (Gateway.link settings).logged settings.readTimeout
          request.transaction buffer').run (log' ++ [.sent frame (.ok ())])).run g₁' := by
        simp [run', MeterPolling.roundTrip, he, hs']
      obtain ⟨hagreed, h₃⟩ := alike_awaitResponse settings hb ht settings.readTimeout
        _ _ _ _ h₂
      rw [hrun, hrun']
      exact ⟨hagreed, g₁, h₃⟩

theorem Alike.exchange {log log' : List LinkEvent} {g g' : Gateway}
    (h : Alike foreign script script' base log log' g g') (hs : s.Alike foreign s')
    (request : Request) (ht : ∀ id, foreign id → id ≠ request.transaction)
    (place : ∀ c r frame, base.requestAt c r = none →
      (((exchange (Gateway.link settings).logged settings request s).run log).run
        g).2.requestAt c r = some frame →
      (script.reply c r).Interspersed foreign base.bank frame (script'.reply c r)) :
    let run := ((exchange (Gateway.link settings).logged settings request s).run log).run g
    let run' := ((exchange (Gateway.link settings).logged settings request s').run log').run g'
    run'.1.1.1 = run.1.1.1 ∧ run.1.1.2.Alike foreign run'.1.1.2 ∧
      Alike foreign script script' run.2 run.1.2 run'.1.2 run.2 run'.2 := by
  intro run run'
  have hopen := alike_openBuffer settings hs log log' g g' h
  rcases ho : ((openBuffer (Gateway.link settings).logged settings s).run log).run g with
    ⟨⟨opened, log₁⟩, g₁⟩
  rcases ho' : ((openBuffer (Gateway.link settings).logged settings s').run log').run g' with
    ⟨⟨opened', log₁'⟩, g₁'⟩
  rw [ho, ho'] at hopen
  obtain ⟨hagreed, h₁⟩ := hopen
  cases hagreed with
  | error e =>
    have hrun : run = (((.error e, { s with buffer := none }), log₁), g₁) := by
      simp [run, MeterPolling.exchange, ho]
    have hrun' : run' = (((.error e, { s' with buffer := none }), log₁'), g₁') := by
      simp [run', MeterPolling.exchange, ho']
    rw [hrun, hrun']
    refine ⟨rfl, ⟨?_, .none⟩, h₁.rebase⟩
    rw [hs.rest]
  | @ok buffer buffer' hb =>
    have hwait := alike_waitTurn settings hs log₁ log₁' g₁ g₁' h₁
    rcases hw : ((waitTurn (Gateway.link settings).logged settings s).run log₁).run g₁ with
      ⟨⟨now, log₂⟩, g₂⟩
    rcases hw' : ((waitTurn (Gateway.link settings).logged settings s').run log₁').run g₁' with
      ⟨⟨now', log₂'⟩, g₂'⟩
    rw [hw, hw'] at hwait
    obtain ⟨hnow, h₂⟩ := hwait
    simp only at hnow h₂
    subst hnow
    rcases htrip : ((MeterPolling.roundTrip (Gateway.link settings).logged settings request
      buffer).run log₂).run g₂ with ⟨⟨result, log₃⟩, g₃⟩
    rcases htrip' : ((MeterPolling.roundTrip (Gateway.link settings).logged settings request
      buffer').run log₂').run g₂' with ⟨⟨result', log₃'⟩, g₃'⟩
    have hrun : run = ((concluded (Gateway.link settings).logged s now result).run log₃).run g₃ := by
      simp [run, exchange_eq, ho, hw, htrip]
    have hrun' : run' =
        ((concluded (Gateway.link settings).logged s' now result').run log₃').run g₃' := by
      simp [run', exchange_eq, ho', hw', htrip']
    -- Nothing comes in after the request, so its place can be told from the end of the exchange.
    have hend : run.2.received = g₃.received := by
      rw [hrun]
      exact (Gateway.inbox settings).concluded_received s now result log₃ g₃
    have hround := h₂.roundTrip settings hb ht (by
      intro c r frame hnone hsome
      refine place c r frame hnone ?_
      rw [htrip] at hsome
      exact (Gateway.requestAt_congr hend c r).trans hsome)
    rw [htrip, htrip'] at hround
    obtain ⟨hresult, base', h₃⟩ := hround
    obtain ⟨⟨hreply, hsession⟩, h₄⟩ :=
      alike_concluded settings hs now hresult _ _ _ _ h₃
    rw [hrun, hrun']
    exact ⟨hreply, hsession, h₄.rebase⟩

theorem alike_pause :
    (alike foreign script script' base).Holds Eq
      (Session.pause (Gateway.link settings).logged settings)
      (Session.pause (Gateway.link settings).logged settings) := by
  refine (alike foreign script script' base).bind_holds (alike_now settings) ?_
  rintro now _ rfl
  exact alike_sleepUntil settings _

end Session

def Foreign {σ : Type} (ts : List (Turn σ)) (id : UInt16) : Prop :=
  ∀ t ∈ ts, id ≠ t.request.transaction

/--
The second script only inserts frames: wherever a request of one of these attempts is received, both send the
same frames, but for some that bear the number of neither this attempt nor a later one.
-/
def Inserting (script script' : GatewayScript) (ts : List (Turn Gateway)) : Prop :=
  ∀ n t, ts[n]? = some t → ∀ c r frame,
    t.before.world.requestAt c r = none → t.after.world.requestAt c r = some frame →
    (script.reply c r).Interspersed (Foreign (ts.drop n)) t.before.world.bank frame
      (script'.reply c r)

theorem Inserting.tail {script script' : GatewayScript} {t : Turn Gateway} {ts : List (Turn Gateway)}
    (h : Inserting script script' (t :: ts)) : Inserting script script' ts :=
  fun n u hu => h (n + 1) u hu

theorem Foreign.tail {σ : Type} {t : Turn σ} {ts : List (Turn σ)} {id : UInt16}
    (h : Foreign (t :: ts) id) : Foreign ts id :=
  fun u hu => h u (List.mem_cons_of_mem t hu)

namespace Moment

structure Alike (foreign : UInt16 → Prop) (script script' : GatewayScript) (m m' : Moment Gateway) :
    Prop where
  session : m.session.Alike foreign m'.session
  link : MeterPolling.Alike foreign script script' m.world m.log m'.log m.world m'.world

variable {settings : SessionSettings} {foreign other : UInt16 → Prop}
  {script script' : GatewayScript} {m m' : Moment Gateway} {later : List (Turn Gateway)}

theorem Alike.mono (h : m.Alike foreign script script' m') (hf : ∀ id, foreign id → other id) :
    m.Alike other script script' m' := by
  have hlink := h.link
  refine ⟨⟨h.session.rest, ?_⟩, { hlink with connection := ?_ }⟩
  · exact optionRel_mono h.session.buffer fun _ _ hleft => hleft.mono hf
  · exact optionRel_mono hlink.connection fun _ _ hc => ⟨hc.inFlight.mono hf, hc.closed⟩

theorem Alike.attempt {operation : Operation}
    (h : m.Alike (Foreign (m.attempt (Gateway.link settings) settings operation :: later))
      script script' m')
    (hi : Inserting script script' (m.attempt (Gateway.link settings) settings operation :: later)) :
    let t := m.attempt (Gateway.link settings) settings operation
    let t' := m'.attempt (Gateway.link settings) settings operation
    t'.reply = t.reply ∧ t.after.Alike (Foreign later) script script' t'.after := by
  intro t t'
  have hnext : m'.session.nextTransaction = m.session.nextTransaction := by rw [h.session.rest]
  have hs : m.session.takeTransaction.2.Alike (Foreign (t :: later)) m'.session.takeTransaction.2 := by
    refine ⟨?_, h.session.buffer⟩
    unfold Session.takeTransaction
    rw [h.session.rest]
  have hrun := h.link.exchange settings hs t.request
    (fun id hid => hid t List.mem_cons_self) (hi 0 t rfl)
  let u := { m' with session := m'.session.takeTransaction.2 }.turn (Gateway.link settings)
    settings t.request
  have ht : t' = u := by
    simp only [t', Moment.attempt, hnext]
    rfl
  rw [ht]
  obtain ⟨hreply, hsession, hlink⟩ := hrun
  have hafter : t.after.Alike (Foreign (t :: later)) script script' u.after := ⟨hsession, hlink⟩
  exact ⟨hreply, hafter.mono fun id hid => hid.tail⟩

theorem Alike.resumed (h : m.Alike foreign script script' m')
    (reply : Except TransportError Response) :
    (m.resumed (Gateway.link settings) settings reply).Alike foreign script script'
      (m'.resumed (Gateway.link settings) settings reply) := by
  unfold Moment.resumed
  split
  next =>
    obtain ⟨_, hpaused⟩ := alike_pause settings _ _ _ _ h.link
    exact ⟨h.session, hpaused.rebase⟩
  next => exact h

theorem Alike.retrying {operation : Operation} {retries : Nat}
    (h : m.Alike (Foreign (m.tries (Gateway.link settings) settings operation retries ++ later))
      script script' m')
    (hi : Inserting script script'
      (m.tries (Gateway.link settings) settings operation retries ++ later)) :
    let run := m.retrying (Gateway.link settings) settings operation retries
    let run' := m'.retrying (Gateway.link settings) settings operation retries
    run'.1 = run.1 ∧ run.2.Alike (Foreign later) script script' run'.2 ∧
      Inserting script script' later := by
  induction retries generalizing m m' with
  | zero =>
    obtain ⟨hreply, hafter⟩ := h.attempt hi
    exact ⟨hreply, hafter, hi.tail⟩
  | succ retries ih =>
    simp only [retrying_succ]
    rw [tries] at h hi
    by_cases hr : Session.Retry.of (m.attempt (Gateway.link settings) settings operation).reply = .no
    · simp only [hr, ↓reduceIte, List.cons_append, List.nil_append] at h hi
      obtain ⟨hreply, hafter⟩ := h.attempt hi
      simp only [hreply, hr, ↓reduceIte]
      exact ⟨trivial, hafter, hi.tail⟩
    · simp only [hr, ↓reduceIte, List.cons_append] at h hi
      obtain ⟨hreply, hafter⟩ := h.attempt hi
      simp only [hreply, hr, ↓reduceIte]
      exact ih (hafter.resumed _) hi.tail

theorem Alike.answers {calls : List Call}
    (h : m.Alike (Foreign (m.attempts (Gateway.link settings) settings calls)) script script' m')
    (hi : Inserting script script' (m.attempts (Gateway.link settings) settings calls)) :
    m'.results (Gateway.link settings) settings calls =
        m.results (Gateway.link settings) settings calls ∧
      (m.finish (Gateway.link settings) settings calls).Alike (Foreign ([] : List (Turn Gateway)))
        script script'
        (m'.finish (Gateway.link settings) settings calls) := by
  induction calls generalizing m m' with
  | nil => exact ⟨rfl, h⟩
  | cons call rest ih =>
    rw [attempts] at h hi
    obtain ⟨hreply, hafter, hlater⟩ := h.retrying hi
    simp only [results, finish, answers_cons, answer_eq, hreply] at ih ⊢
    rw [answer_eq] at hafter hlater
    obtain ⟨hresults, hfinish⟩ := ih hafter hlater
    rw [hresults]
    exact ⟨rfl, hfinish⟩

end Moment

/-- The same requests have come in, with the same effect, and the same has happened on the link. -/
structure Moment.SameCourse (m m' : Moment Gateway) : Prop where
  received : m'.world.received = m.world.received
  bank : m'.world.bank = m.world.bank
  events : m'.log.map LinkEvent.outline = m.log.map LinkEvent.outline

/--
Frames that answer nothing make no difference. The two gateways are the same but for their scripts, of which the
second one inserts any number of frames into the replies, before, behind and without an answer, that bear the
number of neither the attempt at hand nor a later one. Then all calls come to the same results, the same
requests come in on the same connections, and the same has happened on the link but for the bytes that came.
-/
theorem foreign_frames_invisible (network : Network) (address : Option String)
    (script script' : GatewayScript) (bank : Bank) (now : TimeSpan) (settings : SessionSettings)
    (calls : List Call) :
    let link := Gateway.link settings
    let start : Moment Gateway := { world := ⟨network, address, script, bank, none, [], now, false⟩ }
    let start' : Moment Gateway :=
      { world := ⟨network, address, script', bank, none, [], now, false⟩ }
    Inserting script script' (start.attempts link settings calls) →
    start'.results link settings calls = start.results link settings calls ∧
    (start.finish link settings calls).SameCourse (start'.finish link settings calls) := by
  intro link start start' hi
  have hfollows : ∀ s : GatewayScript,
      Gateway.Follows ⟨network, address, s, bank, none, [], now, false⟩ s :=
    fun s => ⟨rfl, rfl, by simp⟩
  have hstart : start.Alike (Foreign (start.attempts (Gateway.link settings) settings calls)) script
      script' start' :=
    ⟨⟨rfl, .none⟩, ⟨rfl, rfl, .none, hfollows script, hfollows script', rfl, fun _ _ => rfl⟩⟩
  obtain ⟨hresults, hfinish⟩ := hstart.answers hi
  exact ⟨hresults, hfinish.link.received, hfinish.link.same_bank, hfinish.link.log⟩

/-- Two readings sent at once. A frame between them is found in the buffer by the second request. -/
theorem foreign_frames_invisible_localhost :
    let settings : SessionSettings := { host := "127.0.0.1" }
    let first : Frame := ⟨0, 0, 0x03, [2, 0, 7]⟩
    let second : Frame := ⟨1, 0, 0x03, [2, 0, 8]⟩
    let late : Frame := ⟨65535, 9, 0x2B, [1]⟩
    let script : GatewayScript := { otherwise := { before := first.bytes ++ second.bytes } }
    let script' : GatewayScript :=
      { otherwise := { before := first.bytes ++ late.bytes ++ second.bytes } }
    let calls : List Call := [.read 100 1, .read 100 1]
    let link := Gateway.link settings
    let start : Moment Gateway :=
      { world := ⟨{}, some "127.0.0.1:502", script, {}, none, [], .zero, false⟩ }
    let start' : Moment Gateway :=
      { world := ⟨{}, some "127.0.0.1:502", script', {}, none, [], .zero, false⟩ }
    Inserting script script' (start.attempts link settings calls) ∧
    start'.results link settings calls = start.results link settings calls ∧
    (start.finish link settings calls).SameCourse (start'.finish link settings calls) := by
  intro settings first second late script script' calls link start start'
  have hlength : (start.attempts (Gateway.link settings) settings calls).length = 2 := rfl
  have htraced := Moment.attempts_traced (Gateway.link settings) settings calls start.world
  have hi : Inserting script script' (start.attempts (Gateway.link settings) settings calls) := by
    intro n t ht c r frame _ _
    refine ⟨rfl, ⟨[first, second], [first, late, second],
      .kept rfl (.inserted rfl ?_ (.kept rfl .nil)), rfl, rfl⟩, rfl⟩
    intro u hu
    obtain ⟨i, hiu⟩ := List.getElem?_of_mem (List.mem_of_mem_drop hu)
    have hnumber : u.request.transaction = UInt16.ofNat i := by
      refine (htraced.numbered i u.toSendAttempt ?_).2
      rw [List.getElem?_map, hiu]
      rfl
    have hlt := (List.getElem?_eq_some_iff.mp hiu).1
    rw [hlength] at hlt
    rw [hnumber]
    obtain rfl | rfl : i = 0 ∨ i = 1 := by omega
    · exact (by decide : (65535 : UInt16) ≠ 0)
    · exact (by decide : (65535 : UInt16) ≠ 1)
  exact ⟨hi, foreign_frames_invisible {} (some "127.0.0.1:502") script script' {} .zero settings
    calls hi⟩

end MeterPolling
