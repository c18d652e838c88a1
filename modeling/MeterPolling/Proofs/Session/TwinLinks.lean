import MeterPolling.Proofs.Cycle.Simulation
import MeterPolling.Proofs.Session.Exchange
import MeterPolling.Proofs.Session.ScriptedGateway

namespace MeterPolling

open Modbus

/-- An event without the bytes delivered. -/
def LinkEvent.outline : LinkEvent → LinkEvent
  | .received d => .received { d with bytes := [] }
  | event => event

theorem optionRel_mono {α : Type} {R S : α → α → Prop} {x y : Option α} (h : Option.Rel R x y)
    (hrs : ∀ a b, R a b → S a b) : Option.Rel S x y := by
  cases h with
  | none => exact .none
  | some hab => exact .some (hrs _ _ hab)

structure Accepted.Alike (foreign : UInt16 → Prop) (c c' : Accepted) : Prop where
  inFlight : Inserted foreign c.inFlight c'.inFlight
  closed : c'.closed = c.closed

/--
Two links that have been used alike, with gateways that follow their scripts. The first one has the bank and
the requests of `base`.
-/
structure Alike (foreign : UInt16 → Prop) (script script' : GatewayScript) (base : Gateway)
    (log log' : List LinkEvent) (g g' : Gateway) : Prop where
  log : log'.map LinkEvent.outline = log.map LinkEvent.outline
  world : g' = { g with script := g'.script, connection := g'.connection }
  connection : Option.Rel (Accepted.Alike foreign) g.connection g'.connection
  follows : g.Follows script
  follows' : g'.Follows script'
  bank : g.bank = base.bank
  requests : ∀ c r, g.requestAt c r = base.requestAt c r

section Alike

variable {foreign : UInt16 → Prop} {script script' : GatewayScript} {base : Gateway}
  {log log' : List LinkEvent} {g g' : Gateway}

theorem Alike.twin (h : Alike foreign script script' base log log' g g') :
    ∃ s c, g' = { g with script := s, connection := c } := ⟨_, _, h.world⟩

theorem Alike.received (h : Alike foreign script script' base log log' g g') :
    g'.received = g.received := by
  rw [h.world]

theorem Alike.same_bank (h : Alike foreign script script' base log log' g g') :
    g'.bank = g.bank := by
  rw [h.world]

theorem Alike.rebase (h : Alike foreign script script' base log log' g g') :
    Alike foreign script script' g log log' g g' :=
  ⟨h.log, h.world, h.connection, h.follows, h.follows', rfl, fun _ _ => rfl⟩

theorem Alike.event (h : Alike foreign script script' base log log' g g') {e e' : LinkEvent}
    (he : e'.outline = e.outline) :
    Alike foreign script script' base (log ++ [e]) (log' ++ [e']) g g' := by
  refine { h with log := ?_ }
  simp only [List.map_append, List.map_cons, List.map_nil, h.log, he]

/-- Time goes on, and what is on its way may come or be lost. -/
theorem Alike.later (h : Alike foreign script script' base log log' g g') {c c' : Option Accepted}
    (hc : Option.Rel (Accepted.Alike foreign) c c')
    (hreplies : ∀ a, c = some a → ∃ b, g.connection = some b ∧ a.replies = b.replies)
    (hreplies' : ∀ a, c' = some a → ∃ b, g'.connection = some b ∧ a.replies = b.replies)
    (now : TimeSpan) (gone : Bool) :
    Alike foreign script script' base log log' { g with connection := c, now, gone }
      { g' with connection := c', now, gone } := by
  refine ⟨h.log, ?_, hc, h.follows.of_same rfl rfl hreplies, h.follows'.of_same rfl rfl hreplies',
    h.bank, h.requests⟩
  rw [h.world]

theorem Alike.receiveRequest (h : Alike foreign script script' base log log' g g') {c c' : Accepted}
    (hg : g.connection = some c) (hg' : g'.connection = some c') (hc : c.closed = false)
    (hcc : c.Alike foreign c') (frame : List UInt8)
    (place : ∀ front last, g.received = front ++ [last] →
      (script.reply front.length last.length).Interspersed foreign g.bank frame
        (script'.reply front.length last.length)) :
    Alike foreign script script' (g.receiveRequest c frame) log log' (g.receiveRequest c frame)
      (g'.receiveRequest c' frame) := by
  have hc' : c'.closed = false := by rw [hcc.closed, hc]
  obtain ⟨front, last, hr, _⟩ := h.follows.replies c hg
  have hreply := h.follows.reply hg hr
  have hreply' := h.follows'.reply hg' (h.received.trans hr)
  obtain ⟨hsame, hsent, hclose⟩ := place front last hr
  refine ⟨h.log, ?_, ?_, h.follows.receiveRequest hg hc frame,
    h.follows'.receiveRequest hg' hc' frame, rfl, fun _ _ => rfl⟩
  · rw [g.receiveRequest_open hc, g'.receiveRequest_open hc', hreply, hreply', h.same_bank,
      hsame, h.received]
    obtain ⟨s, d, rfl⟩ := h.twin
    rfl
  · rw [g.receiveRequest_open hc, g'.receiveRequest_open hc', hreply, hreply', h.same_bank]
    exact .some ⟨hcc.inFlight.append hsent, hclose⟩

theorem Alike.due (h : Alike foreign script script' g log log' g g') (readTimeout : TimeSpan) :
    let run := g.due readTimeout
    let run' := g'.due readTimeout
    run'.1 = run.1 ∧ Alike foreign script script' run.2 log log' run.2 run'.2 := by
  obtain ⟨s, c, rfl⟩ := h.twin
  unfold Gateway.due
  split
  · exact ⟨rfl, h⟩
  · have hlater := h.later h.connection (fun a ha => ⟨a, ha, rfl⟩) (fun a ha => ⟨a, ha, rfl⟩) g.now true
    exact ⟨rfl, hlater.rebase⟩

def alike (foreign : UInt16 → Prop) (script script' : GatewayScript) (base : Gateway) :
    Simulation (StateT (List LinkEvent) (StateM Gateway)) (StateT (List LinkEvent) (StateM Gateway)) where
  Holds R x y := ∀ log log' g g', Alike foreign script script' base log log' g g' →
    R ((x.run log).run g).1.1 ((y.run log').run g').1.1 ∧
      Alike foreign script script' base ((x.run log).run g).1.2 ((y.run log').run g').1.2
        ((x.run log).run g).2 ((y.run log').run g').2
  pure_holds hab := fun _ _ _ _ h => ⟨hab, h⟩
  bind_holds hx hf := by
    intro log log' g g' h
    obtain ⟨hab, h₁⟩ := hx log log' g g' h
    exact hf _ _ hab _ _ _ _ h₁

theorem Alike.accept (h : Alike foreign script script' base log log' g g') :
    Alike foreign script script' base log log' g.accept g'.accept := by
  refine ⟨h.log, ?_, ?_, h.follows.accept, h.follows'.accept, ?_, ?_⟩
  · obtain ⟨s, c, he⟩ := h.twin
    rw [he, Gateway.accept_eq, Gateway.accept_eq]
  · rw [Gateway.accept_eq, Gateway.accept_eq]
    exact .some ⟨.nil, rfl⟩
  · rw [Gateway.accept_eq]
    exact h.bank
  · intro c r
    rw [Gateway.requestAt_accept, h.requests]

section Links

variable (settings : SessionSettings)

theorem alike_connect (address : String) :
    (alike foreign script script' base).Holds Eq ((Gateway.link settings).logged.connect address)
      ((Gateway.link settings).logged.connect address) := by
  intro log log' g g' h
  obtain ⟨s, c, he⟩ := h.twin
  have hgone : g'.gone = g.gone := by rw [he]
  have hdial : Gateway.dial g'.network g'.address address =
      Gateway.dial g.network g.address address := by rw [he]
  simp only [Link.run_connect_logged, Gateway.run_connect, Gateway.connect_eq, hgone, hdial]
  by_cases hg : g.gone
  · simp only [hg, ↓reduceIte]
    exact ⟨trivial, h.event rfl⟩
  · simp only [hg, Bool.false_eq_true, ↓reduceIte]
    cases Gateway.dial g.network g.address address with
    | error failure => exact ⟨trivial, h.event rfl⟩
    | ok _ => exact ⟨trivial, h.accept.event rfl⟩

theorem alike_close :
    (alike foreign script script' base).Holds Eq (Gateway.link settings).logged.close
      (Gateway.link settings).logged.close := by
  intro log log' g g' h
  obtain ⟨s, c, rfl⟩ := h.twin
  refine ⟨rfl, ?_⟩
  exact (h.later .none (by simp) (by simp) g.now g.gone).event rfl

theorem alike_receive (enough enough' : List UInt8 → Bool) :
    (alike foreign script script' base).Holds
      (fun d d' => Inserted foreign d.bytes d'.bytes ∧ d'.ending = d.ending)
      ((Gateway.link settings).logged.receive enough)
      ((Gateway.link settings).logged.receive enough') := by
  intro log log' g g' h
  obtain ⟨s, c, rfl⟩ := h.twin
  have hc := h.connection
  simp only [Link.run_receive_logged, Gateway.run_receive]
  cases hg : g.connection with
  | none =>
    rw [hg] at hc
    cases hc
    exact ⟨⟨.nil, rfl⟩, h.event rfl⟩
  | some a =>
    rw [hg] at hc
    cases hc with
    | @some _ b hab =>
      have hempty : Option.Rel (Accepted.Alike foreign) (some { a with inFlight := [] })
          (some { b with inFlight := [] }) := .some ⟨.nil, hab.closed⟩
      have hlater := h.later hempty (fun d hd => ⟨a, hg, by cases hd; rfl⟩)
        (fun d hd => ⟨b, rfl, by cases hd; rfl⟩) g.now g.gone
      refine ⟨⟨hab.inFlight, ?_⟩, hlater.event ?_⟩
      · simp only [hab.closed]
      · simp only [LinkEvent.outline, hab.closed]

theorem alike_now :
    (alike foreign script script' base).Holds Eq (Gateway.link settings).logged.now
      (Gateway.link settings).logged.now := by
  intro log log' g g' h
  have hnow : g'.now = g.now := by rw [h.world]
  exact ⟨hnow.symm, h⟩

theorem alike_sleepUntil (t : TimeSpan) :
    (alike foreign script script' base).Holds Eq ((Gateway.link settings).logged.sleepUntil t)
      ((Gateway.link settings).logged.sleepUntil t) := by
  intro log log' g g' h
  obtain ⟨s, c, rfl⟩ := h.twin
  have hlater := h.later h.connection (fun a ha => ⟨a, ha, rfl⟩) (fun a ha => ⟨a, ha, rfl⟩)
  simp only [Link.run_sleepUntil_logged, Gateway.run_sleepUntil]
  refine ⟨trivial, ?_⟩
  by_cases ht : t.onClock
  · simp only [ht, ↓reduceIte]
    exact hlater ⟨max g.now.nanoseconds t.nanoseconds⟩ g.gone
  · simp only [ht, Bool.false_eq_true, ↓reduceIte]
    exact hlater g.now true

theorem Alike.send (h : Alike foreign script script' base log log' g g') (frame : List UInt8)
    (place : ∀ c r, base.requestAt c r = none →
      (((Gateway.link settings).send frame).run g).2.requestAt c r = some frame →
      (script.reply c r).Interspersed foreign base.bank frame (script'.reply c r)) :
    let run := ((Gateway.link settings).send frame).run g
    let run' := ((Gateway.link settings).send frame).run g'
    run'.1 = run.1 ∧ Alike foreign script script' run.2 log log' run.2 run'.2 := by
  have hgone : g'.gone = g.gone := by rw [h.world]
  have hc := h.connection
  simp only [Gateway.run_send, Gateway.send_eq, hgone] at place ⊢
  by_cases hg : g.gone
  · simp only [hg, ↓reduceIte]
    exact ⟨trivial, h.rebase⟩
  · simp only [hg, Bool.false_eq_true, ↓reduceIte] at place ⊢
    cases hcon : g.connection with
    | none =>
      rw [hcon] at hc
      generalize hcon' : g'.connection = none' at hc
      cases hc
      exact ⟨rfl, h.rebase⟩
    | some c =>
      rw [hcon] at hc
      generalize hcon' : g'.connection = some' at hc
      cases hc with
      | @some _ c' hcc =>
        refine Alike.due ?_ settings.readTimeout
        -- Only an open connection takes the request, and only then there is a place for a reply.
        by_cases hclosed : c.closed
        · have hclosed' : c'.closed := by rw [hcc.closed, hclosed]
          simp only [Gateway.receiveRequest, hclosed, hclosed', ↓reduceIte]
          exact h.rebase
        · rw [Bool.not_eq_true] at hclosed
          refine h.receiveRequest hcon hcon' hclosed hcc frame ?_
          intro front last hr
          have hnone : base.requestAt front.length last.length = none := by
            rw [← h.requests, Gateway.requestAt_next hr]
          rw [h.bank]
          refine place _ _ hnone (Gateway.requestAt_logged ?_)
          simp only [hcon]
          rw [Gateway.due_received, g.receiveRequest_open hclosed, hr, Gateway.logFrame_concat]

end Links

end Alike

end MeterPolling
