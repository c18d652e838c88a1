import MeterPolling.Proofs.Session.GatewayLink
import MeterPolling.Proofs.Session.Insertion

namespace MeterPolling

open Modbus

def GatewayScript.reply (script : GatewayScript) (connection request : Nat) : GatewayReply :=
  (script.connections[connection]?.getD [])[request]?.getD script.otherwise

def GatewayReply.serve (reply : GatewayReply) (bank : Bank) (frame : List UInt8) : Bank × List UInt8 :=
  match reply.bank, Request.decode? frame with
  | true, some (request, _) =>
    let (bank, response) := Gateway.answer bank request
    (bank, reply.before ++ response.bytes ++ reply.after)
  | _, _ => (bank, reply.before ++ reply.after)

def GatewayReply.Interspersed (foreign : UInt16 → Prop) (bank : Bank) (frame : List UInt8)
    (reply other : GatewayReply) : Prop :=
  (other.serve bank frame).1 = (reply.serve bank frame).1 ∧
    Inserted foreign (reply.serve bank frame).2 (other.serve bank frame).2 ∧
    other.close = reply.close

def Gateway.requestAt (g : Gateway) (connection request : Nat) : Option (List UInt8) :=
  (g.received[connection]?.getD [])[request]?

namespace Gateway

theorem receiveRequest_open (g : Gateway) {c : Accepted} (hc : c.closed = false) (frame : List UInt8) :
    let reply := c.replies.head?.getD g.script.otherwise
    g.receiveRequest c frame =
      { g with
        bank := (reply.serve g.bank frame).1
        received := logFrame frame g.received
        connection := some ⟨c.replies.tail, c.inFlight ++ (reply.serve g.bank frame).2, reply.close⟩ } := by
  have hserve : ∀ r : GatewayReply, r.serve g.bank frame =
      match r.bank, Request.decode? frame with
      | true, some (request, _) =>
        ((answer g.bank request).1, r.before ++ (answer g.bank request).2.bytes ++ r.after)
      | _, _ => (g.bank, r.before ++ r.after) := fun _ => rfl
  simp only [receiveRequest, hc, Bool.false_eq_true, ↓reduceIte, hserve]
  cases c.replies with
  | nil =>
    simp only [List.head?_nil, Option.getD_none]
    cases g.script.otherwise.bank <;> cases Request.decode? frame <;> simp
  | cons reply replies =>
    simp only [List.head?_cons, Option.getD_some]
    cases reply.bank <;> cases Request.decode? frame <;> simp

/-- The gateway is where the script has got to with the requests received. -/
structure Follows (g : Gateway) (script : GatewayScript) : Prop where
  otherwise : g.script.otherwise = script.otherwise
  connections : g.script.connections = script.connections.drop g.received.length
  replies : ∀ c, g.connection = some c → ∃ front last, g.received = front ++ [last] ∧
    c.replies = (script.connections[front.length]?.getD []).drop last.length

variable {g : Gateway} {script : GatewayScript}

theorem accept_eq (g : Gateway) :
    g.accept = { g with
      script := { g.script with connections := g.script.connections.tail }
      connection := some { replies := g.script.connections.head?.getD [] }
      received := g.received ++ [[]] } := by
  unfold accept
  cases g.script.connections <;> rfl

theorem requestAt_accept (g : Gateway) (c r : Nat) : g.accept.requestAt c r = g.requestAt c r := by
  simp only [requestAt, accept_eq]
  by_cases hc : c < g.received.length
  · rw [List.getElem?_append_left hc]
  · have hnone : g.received[c]? = none := List.getElem?_eq_none (by omega)
    rw [List.getElem?_append_right (by omega), hnone]
    cases c - g.received.length <;> rfl

theorem Follows.accept (h : g.Follows script) : g.accept.Follows script := by
  rw [accept_eq]
  refine ⟨h.otherwise, ?_, ?_⟩
  · simp only [h.connections, List.tail_drop, List.length_append, List.length_singleton]
  · intro c hc
    cases Option.some.inj hc
    refine ⟨g.received, [], rfl, ?_⟩
    simp only [h.connections, List.head?_drop, List.length_nil, List.drop_zero]

/-- Only accepting connections and receiving requests gets further in the script. -/
theorem Follows.of_same (h : g.Follows script) {g' : Gateway} (hscript : g'.script = g.script)
    (hreceived : g'.received = g.received)
    (hreplies : ∀ c, g'.connection = some c →
      ∃ d, g.connection = some d ∧ c.replies = d.replies) : g'.Follows script := by
  refine ⟨?_, ?_, ?_⟩
  · rw [hscript, h.otherwise]
  · rw [hscript, hreceived, h.connections]
  · intro c hc
    obtain ⟨d, hd, he⟩ := hreplies c hc
    rw [hreceived, he]
    exact h.replies d hd

theorem Follows.reply (h : g.Follows script) {c : Accepted} {front : List (List (List UInt8))}
    {last : List (List UInt8)} (hc : g.connection = some c) (hr : g.received = front ++ [last]) :
    c.replies.head?.getD g.script.otherwise = script.reply front.length last.length := by
  obtain ⟨front', last', hr', hreplies⟩ := h.replies c hc
  obtain ⟨hfront, hlast⟩ := List.append_inj' (hr.symm.trans hr') rfl
  cases List.singleton_inj.mp hlast
  subst hfront
  rw [hreplies, List.head?_drop, h.otherwise]
  rfl

theorem Follows.receiveRequest (h : g.Follows script) {c : Accepted} (hg : g.connection = some c)
    (hc : c.closed = false) (frame : List UInt8) :
    (g.receiveRequest c frame).Follows script := by
  obtain ⟨front, last, hr, hreplies⟩ := h.replies c hg
  rw [g.receiveRequest_open hc]
  refine ⟨h.otherwise, ?_, ?_⟩
  · simp only [hr, logFrame_concat, List.length_append, List.length_singleton]
    rw [h.connections, hr, List.length_append, List.length_singleton]
  · intro d hd
    cases Option.some.inj hd
    refine ⟨front, last ++ [frame], by simp only [hr, logFrame_concat], ?_⟩
    simp only [hreplies, List.tail_drop, List.length_append, List.length_singleton]

theorem requestAt_congr {g' : Gateway} (h : g'.received = g.received) (c r : Nat) :
    g'.requestAt c r = g.requestAt c r := by
  simp only [requestAt, h]

theorem requestAt_next {front : List (List (List UInt8))} {last : List (List UInt8)}
    (hr : g.received = front ++ [last]) : g.requestAt front.length last.length = none := by
  simp [requestAt, hr]

theorem requestAt_logged {front : List (List (List UInt8))} {last : List (List UInt8)}
    {frame : List UInt8} (hr : g.received = front ++ [last ++ [frame]]) :
    g.requestAt front.length last.length = some frame := by
  simp [requestAt, hr]

end Gateway

end MeterPolling
