import MeterPolling.Proofs.Modbus.Codec
import MeterPolling.Proofs.Session.GatewayLink
import MeterPolling.Proofs.Session.Turn

namespace MeterPolling

open Modbus

variable {σ : Type}

/--
What has come in at the other end of a link, by connection. A request that is sent on a connection arrives,
unless the connection is closed by then or the link says that it is gone; nothing else does.
-/
structure Inbox (link : Link (StateM σ)) where
  received : σ → List (List (List UInt8))
  Closed : σ → Prop
  connects : ∀ address w,
    received ((link.connect address).run w).2 = received w ++ [[]] ∨
      ((link.connect address).run w).1 ≠ .ok () ∧
        received ((link.connect address).run w).2 = received w
  sends : ∀ frame w,
    received ((link.send frame).run w).2 = Gateway.logFrame frame (received w) ∨
      (Closed w ∨ ((link.send frame).run w).1 = .error .gone) ∧
        received ((link.send frame).run w).2 = received w
  receives : ∀ enough w, received ((link.receive enough).run w).2 = received w
  closes : ∀ w, received (link.close.run w).2 = received w
  tells : ∀ w, received (link.now.run w).2 = received w
  waits : ∀ t w, received ((link.sleepUntil t).run w).2 = received w

namespace Gateway

theorem connect_received (g : Gateway) (address : String) :
    (g.connect address).2.received = g.received ++ [[]] ∨
      (g.connect address).1 ≠ .ok () ∧ (g.connect address).2.received = g.received := by
  rw [connect_eq]
  cases dial g.network g.address address with
  | ok _ => exact .inl rfl
  | error failure => exact .inr ⟨by simp, rfl⟩

theorem send_received (g : Gateway) (readTimeout : TimeSpan) (frame : List UInt8) :
    (g.send readTimeout frame).2.received = logFrame frame g.received ∨
      (∀ c, g.connection = some c → c.closed) ∧ (g.send readTimeout frame).2.received = g.received := by
  rw [send_eq]
  cases hc : g.connection with
  | none => exact .inr ⟨by simp, rfl⟩
  | some c =>
    simp only [due_received]
    by_cases hclosed : c.closed
    · refine .inr ⟨by simpa using hclosed, ?_⟩
      simp [receiveRequest, hclosed]
    · refine .inl ?_
      simp [receiveRequest, hclosed]

def inbox (settings : SessionSettings) : Inbox (link settings) where
  received := Gateway.received
  Closed g := ∀ c, g.connection = some c → c.closed
  connects address g := by
    rw [run_connect]
    split
    next => exact .inr ⟨by simp, rfl⟩
    next => exact g.connect_received address
  sends frame g := by
    rw [run_send]
    split
    next => exact .inr ⟨.inr rfl, rfl⟩
    next =>
      rcases g.send_received settings.readTimeout frame with hadded | ⟨hclosed, hsame⟩
      · exact .inl hadded
      · exact .inr ⟨.inl hclosed, hsame⟩
  receives enough g := by
    rw [run_receive]
    split <;> rfl
  closes _ := rfl
  tells _ := rfl
  waits t g := by
    rw [run_sleepUntil]
    simp only
    split <;> rfl

end Gateway

def Moment.sending (link : Link (StateM σ)) (settings : SessionSettings) (m : Moment σ) : σ :=
  let opened := ((openBuffer link.logged settings m.session).run m.log).run m.world
  (((waitTurn link.logged settings m.session).run opened.1.2).run opened.2).2

/-- Why the request of a turn has not come in. -/
inductive Turn.Missing {link : Link (StateM σ)} (inbox : Inbox link) (settings : SessionSettings)
    (t : Turn σ) : Prop
  | unconnected {failure : ConnectFailure}
      (failed : .connected (addressOf settings.host) (.error failure) ∈ t.events)
  | tooLong (rejected : t.request.operation.tooLong)
  | closed (closed : inbox.Closed (t.before.sending link settings))
  | gone (told : t.reply = .error .workerGone)

/-- The requests received once an exchange has seen to its connection. -/
def Turn.opened {link : Link (StateM σ)} (inbox : Inbox link) (t : Turn σ) :
    List (List (List UInt8)) :=
  inbox.received t.before.world ++ if t.before.session.buffer.isSome then [] else [[]]

inductive Turn.Received {link : Link (StateM σ)} (inbox : Inbox link) (settings : SessionSettings)
    (t : Turn σ) : Prop
  | arrived {frame : List UInt8} (encoded : t.request.encode = .ok frame)
      (added : inbox.received t.after.world = Gateway.logFrame frame (t.opened inbox))
  | missing (reason : t.Missing inbox settings)
      (same : inbox.received t.after.world = t.opened inbox ∨
        (∃ cause, t.reply = .error cause) ∧ inbox.received t.after.world = inbox.received t.before.world)

namespace Inbox

variable {link : Link (StateM σ)} (inbox : Inbox link) (settings : SessionSettings)

theorem awaitResponse_received (readTimeout : TimeSpan) (transaction : UInt16)
    (buffer : List UInt8) (log : List LinkEvent) (w : σ) :
    inbox.received (((awaitResponse link.logged readTimeout transaction buffer).run log).run w).2 =
      inbox.received w := by
  rcases hf : findResponse transaction buffer with ⟨found, left⟩
  cases found with
  | some r => simp [awaitResponse, hf]
  | none =>
    have hreceive := inbox.receives
      (fun bytes => (findResponse transaction (left ++ bytes)).1.isSome) w
    rcases hd : (link.receive fun bytes =>
      (findResponse transaction (left ++ bytes)).1.isSome).run w with ⟨d, w'⟩
    rw [hd] at hreceive
    rcases hf' : findResponse transaction (left ++ d.bytes) with ⟨found', left'⟩
    cases found' with
    | some r => simpa [awaitResponse, hf, hd, hf'] using hreceive
    | none => simpa [awaitResponse, hf, hd, hf'] using hreceive

theorem roundTrip_sent {request : Request} {frame : List UInt8} (he : request.encode = .ok frame)
    (buffer : List UInt8) (log : List LinkEvent) (w : σ) :
    inbox.received (((roundTrip link.logged settings request buffer).run log).run w).2 =
      inbox.received ((link.send frame).run w).2 := by
  rcases hs : (link.send frame).run w with ⟨result, w'⟩
  cases result with
  | error failure => simp [roundTrip, he, hs]
  | ok _ =>
    have hawait := inbox.awaitResponse_received settings.readTimeout request.transaction
      buffer (log ++ [.sent frame (.ok ())]) w'
    simpa [roundTrip, he, hs] using hawait

theorem roundTrip_received (request : Request) (buffer : List UInt8) (log : List LinkEvent) (w : σ) :
    let done := ((roundTrip link.logged settings request buffer).run log).run w
    ((request.operation.tooLong ∨ inbox.Closed w ∨ done.1.1 = .error .workerGone) ∧
        inbox.received done.2 = inbox.received w) ∨
      ∃ frame, request.encode = .ok frame ∧
        inbox.received done.2 = Gateway.logFrame frame (inbox.received w) := by
  intro done
  cases he : request.encode with
  | error e =>
    have hsame : done.2 = w := by simp [done, roundTrip, he]
    rw [hsame]
    exact .inl ⟨.inl (Request.encode_error he).1, rfl⟩
  | ok frame =>
    have hsent : inbox.received done.2 = _ := inbox.roundTrip_sent settings he buffer log w
    rw [hsent]
    rcases inbox.sends frame w with harrived | ⟨hclosed | hgone, hlost⟩
    · exact .inr ⟨frame, rfl, harrived⟩
    · exact .inl ⟨.inr (.inl hclosed), hlost⟩
    · refine .inl ⟨.inr (.inr ?_), hlost⟩
      rcases hs : (link.send frame).run w with ⟨result, w'⟩
      rw [hs] at hgone
      cases hgone
      simp [done, roundTrip, he, hs, SendFailure.error]

theorem waitTurn_received (s : Session) (log : List LinkEvent) (w : σ) :
    inbox.received (((waitTurn link.logged settings s).run log).run w).2 = inbox.received w := by
  cases hl : s.lastSend with
  | none => simpa [waitTurn, hl] using inbox.tells w
  | some last =>
    have hwait := inbox.waits ⟨last.nanoseconds + settings.sendDelay.nanoseconds⟩ w
    have htell := inbox.tells
      ((link.sleepUntil ⟨last.nanoseconds + settings.sendDelay.nanoseconds⟩).run w).2
    simpa [waitTurn, hl] using htell.trans hwait

theorem concluded_received (s : Session) (now : TimeSpan)
    (result : Except TransportError (Response × List UInt8)) (log : List LinkEvent) (w : σ) :
    inbox.received (((concluded link.logged s now result).run log).run w).2 = inbox.received w := by
  cases result with
  | error e => simpa [concluded] using inbox.closes w
  | ok p => simp [concluded]

theorem pause_received (m : Moment σ) (reply : Except TransportError Response) :
    inbox.received (m.resumed link settings reply).world = inbox.received m.world := by
  unfold Moment.resumed
  split
  next =>
    have htell := inbox.tells m.world
    have hwait := inbox.waits ((link.now.run m.world).1.pauseEnd settings.busyDelay)
      (link.now.run m.world).2
    exact hwait.trans htell
  next => rfl

theorem opened_received (request : Request) {m : Moment σ} {buffer : List UInt8}
    {log : List LinkEvent} {w : σ}
    (ho : ((openBuffer link.logged settings m.session).run m.log).run m.world =
      ((.ok buffer, log), w))
    (hopened : (m.turn link settings request).opened inbox = inbox.received w) :
    (m.turn link settings request).Received inbox settings := by
  have hwait := inbox.waitTurn_received settings m.session log w
  rcases hw : ((waitTurn link.logged settings m.session).run log).run w with ⟨⟨now, log₁⟩, w₁⟩
  rw [hw] at hwait
  have hsending : m.sending link settings = w₁ := by simp [Moment.sending, ho, hw]
  have htrip := inbox.roundTrip_received settings request buffer log₁ w₁
  rcases ht : ((roundTrip link.logged settings request buffer).run log₁).run w₁ with
    ⟨⟨result, log₂⟩, w₂⟩
  rw [ht] at htrip
  have hrun : ((exchange link.logged settings request m.session).run m.log).run m.world =
      ((concluded link.logged m.session now result).run log₂).run w₂ := by
    simp [exchange_eq, ho, hw, ht]
  have hend : inbox.received (m.turn link settings request).after.world = inbox.received w₂ := by
    have hworld := congrArg (fun run => inbox.received run.2) hrun
    exact hworld.trans (inbox.concluded_received m.session now result log₂ w₂)
  have hreply : (m.turn link settings request).reply =
      (((concluded link.logged m.session now result).run log₂).run w₂).1.1.1 :=
    congrArg (·.1.1.1) hrun
  dsimp only at htrip
  rw [hwait, ← hend, ← hopened] at htrip
  rcases htrip with ⟨hlong | hclosed | hgone, hsame⟩ | ⟨frame, he, hadded⟩
  · exact .missing (.tooLong hlong) (.inl hsame)
  · rw [← hsending] at hclosed
    exact .missing (.closed hclosed) (.inl hsame)
  · cases hgone
    exact .missing (.gone hreply) (.inl hsame)
  · exact .arrived he hadded

theorem unconnected_received (request : Request) {m : Moment σ} (hb : m.session.buffer = none)
    {failure : ConnectFailure} {w : σ}
    (hc : (link.connect (addressOf settings.host)).run m.world = (.error failure, w)) :
    (m.turn link settings request).Received inbox settings := by
  have hconnects := inbox.connects (addressOf settings.host) m.world
  rw [hc] at hconnects
  have hrun : ((exchange link.logged settings request m.session).run m.log).run m.world =
      (((.error (failure.error (addressOf settings.host)), { m.session with buffer := none }),
        m.log ++ [.connected (addressOf settings.host) (.error failure)]), w) := by
    simp [exchange, openBuffer, hb, hc]
  have hturn : m.run (exchange link.logged settings request) = _ := Moment.run_eq hrun
  have hfailed : .connected (addressOf settings.host) (.error failure) ∈
      (m.turn link settings request).events := by
    simp [Moment.turn, hturn]
  have hworld : (m.turn link settings request).after.world = w := by
    simp [Moment.turn, hturn]
  have hreply : (m.turn link settings request).reply = .error (failure.error (addressOf settings.host)) := by
    simp [Moment.turn, hturn]
  have hopened : (m.turn link settings request).opened inbox = inbox.received m.world ++ [[]] := by
    simp [Turn.opened, Moment.turn, hb]
  refine .missing (.unconnected hfailed) ?_
  rw [hopened, hworld]
  rcases hconnects with hadded | ⟨_, hsame⟩
  · exact .inl hadded
  · exact .inr ⟨⟨_, hreply⟩, hsame⟩

end Inbox

theorem turn_received {link : Link (StateM σ)} (inbox : Inbox link) (settings : SessionSettings)
    (request : Request) (m : Moment σ) :
    (m.turn link settings request).Received inbox settings := by
  cases hb : m.session.buffer with
  | some buffer =>
    have hopened : (m.turn link settings request).opened inbox = inbox.received m.world := by
      simp [Turn.opened, Moment.turn, hb]
    have ho : ((openBuffer link.logged settings m.session).run m.log).run m.world =
        ((.ok buffer, m.log), m.world) := by
      simp [openBuffer, hb]
    exact inbox.opened_received settings request ho hopened
  | none =>
    have hconnects := inbox.connects (addressOf settings.host) m.world
    rcases hc : (link.connect (addressOf settings.host)).run m.world with ⟨result, w⟩
    rw [hc] at hconnects
    cases result with
    | error failure => exact inbox.unconnected_received settings request hb hc
    | ok _ =>
      have ho : ((openBuffer link.logged settings m.session).run m.log).run m.world =
          ((.ok [], m.log ++ [.connected (addressOf settings.host) (.ok ())]), w) := by
        simp [openBuffer, hb, hc]
      have hadded : inbox.received w = inbox.received m.world ++ [[]] := by
        rcases hconnects with h | ⟨hne, _⟩
        · exact h
        · exact absurd rfl hne
      have hopened : (m.turn link settings request).opened inbox = inbox.received w := by
        simp [Turn.opened, Moment.turn, hb, hadded]
      exact inbox.opened_received settings request ho hopened

end MeterPolling
