import MeterPolling.Proofs.Session.BankService
import MeterPolling.Proofs.Session.GatewayLink

namespace MeterPolling

open Modbus

theorem TimeSpan.onClock_of_le {t u : TimeSpan} (hu : u.onClock)
    (h : t.nanoseconds ≤ u.nanoseconds) : t.onClock := by
  simp only [TimeSpan.onClock, decide_eq_true_eq] at *
  omega

structure Gateway.Serving (settings : SessionSettings) (g : Gateway) : Prop where
  reachable : ∀ h : Gateway, h.network = g.network → h.address = g.address →
    h.connect (addressOf settings.host) = (.ok (), h.accept)
  script : g.script = {}
  serving : ∀ c, g.connection = some c → c.replies = [] ∧ c.closed = false
  present : g.gone = false

/-- It serves, and it can tell the end of a wait. -/
structure Gateway.Working (settings : SessionSettings) (g : Gateway) : Prop extends g.Serving settings where
  inTime : TimeSpan.onClock ⟨g.now.nanoseconds + settings.readTimeout.nanoseconds⟩

def Gateway.view (Ready : Gateway → Prop) : GatewayView Gateway where
  Ready := Ready
  bank g := g.bank
  coming g := g.connection.map Accepted.inFlight
  clock g := g.now

/-- Only the bank, the connection and the requests received are other ones. -/
def Gateway.Served (g g' : Gateway) (bank : Bank) (coming : List UInt8) : Prop :=
  ∃ received, g' = { g with connection := some ⟨[], coming, false⟩, bank, received }

namespace Gateway

variable {settings : SessionSettings} {g g' : Gateway} {bank : Bank} {coming : List UInt8}

theorem Served.later (h : g.Served g' bank coming) {Ready : Gateway → Prop} (ready : Ready g') :
    (view Ready).Later g g' bank (some coming) := by
  obtain ⟨received, rfl⟩ := h
  exact ⟨ready, Nat.le_refl _, rfl, rfl⟩

theorem Serving.served (h : g.Serving settings) (hs : g.Served g' bank coming) : g'.Serving settings := by
  obtain ⟨received, rfl⟩ := hs
  refine ⟨h.reachable, h.script, ?_, h.present⟩
  intro c hc
  cases hc
  exact ⟨rfl, rfl⟩

theorem Working.served (h : g.Working settings) (hs : g.Served g' bank coming) : g'.Working settings := by
  refine ⟨h.toServing.served hs, ?_⟩
  obtain ⟨received, rfl⟩ := hs
  exact h.inTime

theorem connect_serving (h : g.Serving settings) :
    ∃ g', ((link settings).connect (addressOf settings.host)).run g = (.ok (), g') ∧ g.Served g' g.bank [] := by
  have hserved : g.Served g.accept g.bank [] := by
    refine ⟨g.received ++ [[]], ?_⟩
    simp [accept, h.script]
  have hrun : ((link settings).connect (addressOf settings.host)).run g = (.ok (), g.accept) := by
    rw [run_connect, if_neg (by simp [h.present]), h.reachable g rfl rfl]
  exact ⟨g.accept, hrun, hserved⟩

theorem receiveRequest_serving (h : g.Serving settings) {c : Accepted} (hc : g.connection = some c)
    {frame : List UInt8} {request : Request} (hd : Request.decode? frame = some (request, [])) :
    g.Served (g.receiveRequest c frame) (answer g.bank request).1
      (c.inFlight ++ (answer g.bank request).2.bytes) := by
  obtain ⟨hreplies, hclosed⟩ := h.serving c hc
  refine ⟨logFrame frame g.received, ?_⟩
  simp [receiveRequest, hclosed, hreplies, h.script, hd]

theorem receive_serving {Ready : Gateway → Prop} (h : g.Serving settings) (hc : (view Ready).coming g = some coming)
    (enough : List UInt8 → Bool) :
    ∃ g', ((link settings).receive enough).run g = (⟨coming, .timeout⟩, g') ∧ g.Served g' g.bank [] := by
  obtain ⟨⟨replies, inFlight, closed⟩, hg, rfl⟩ := Option.map_eq_some_iff.mp hc
  obtain ⟨rfl, rfl⟩ := h.serving _ hg
  refine ⟨{ g with connection := some ⟨[], [], false⟩ }, ?_, g.received, rfl⟩
  rw [run_receive, hg]
  rfl

/-- Any number of pauses between requests would come to the end of the clock. -/
def service (settings : SessionSettings) (immediate : settings.sendDelay.nanoseconds = 0) :
    BankService settings (link settings) where
  toGatewayView := view (Working settings)
  connects g h _ := by
    obtain ⟨g', hrun, hserved⟩ := connect_serving h.toServing
    exact ⟨g', hrun, hserved.later (h.served hserved)⟩
  answers g bytes frame request h hc hd := by
    obtain ⟨c, hg, rfl⟩ := Option.map_eq_some_iff.mp hc
    have hserved := receiveRequest_serving h.toServing hg hd
    have hworking := h.served hserved
    have hdue : (g.receiveRequest c frame).due settings.readTimeout = (.ok (), g.receiveRequest c frame) :=
      if_pos hworking.inTime
    refine ⟨g.receiveRequest c frame, ?_, hserved.later hworking⟩
    rw [run_send, h.present, send_eq, hg]
    exact hdue
  delivers g bytes enough h hc he := by
    obtain ⟨g', hrun, hserved⟩ := receive_serving h.toServing hc enough
    exact ⟨⟨bytes, .timeout⟩, [], g', hrun, (List.append_nil bytes).symm, he, hserved.later (h.served hserved)⟩
  tells g h := ⟨g.now, g, rfl, Nat.le_refl _, h, Nat.le_refl _, rfl, rfl⟩
  waits g t h ht := by
    have hpast : t.nanoseconds ≤ g.now.nanoseconds + settings.sendDelay.nanoseconds := ht
    have hnow : max g.now.nanoseconds t.nanoseconds = g.now.nanoseconds := by omega
    have honClock : t.onClock := TimeSpan.onClock_of_le h.inTime (by simp only; omega)
    refine ⟨g, ?_, h, Nat.le_refl _, rfl, rfl⟩
    simp [run_sleepUntil, honClock, sleepUntil, hnow]

/-- The same link on a clock without an end. -/
def endlessLink (settings : SessionSettings) : Link (StateM Gateway) :=
  { link settings with
    send frame := fun g =>
      match g.connection with
      | none => (.error (.failed "Transport endpoint is not connected (os error 107)"), g)
      | some c => (.ok (), g.receiveRequest c frame)
    sleepUntil t := modify (·.sleepUntil t) }

def endlessService (settings : SessionSettings) : BankService settings (endlessLink settings) where
  toGatewayView := view (Serving settings)
  connects g h _ := by
    obtain ⟨g', hrun, hserved⟩ := connect_serving h
    exact ⟨g', hrun, hserved.later (h.served hserved)⟩
  answers g bytes frame request h hc hd := by
    obtain ⟨c, hg, rfl⟩ := Option.map_eq_some_iff.mp hc
    have hserved := receiveRequest_serving h hg hd
    refine ⟨g.receiveRequest c frame, ?_, hserved.later (h.served hserved)⟩
    simp [endlessLink, StateT.run, hg]
  delivers g bytes enough h hc he := by
    obtain ⟨g', hrun, hserved⟩ := receive_serving h hc enough
    exact ⟨⟨bytes, .timeout⟩, [], g', hrun, (List.append_nil bytes).symm, he, hserved.later (h.served hserved)⟩
  tells g h := ⟨g.now, g, rfl, Nat.le_refl _, h, Nat.le_refl _, rfl, rfl⟩
  waits g t h _ :=
    ⟨g.sleepUntil t, rfl, ⟨h.reachable, h.script, h.serving, h.present⟩, Nat.le_max_left _ _, rfl, rfl⟩

end Gateway

end MeterPolling
