import MeterPolling.Gateway

namespace MeterPolling

namespace Gateway

theorem logFrame_concat (frame : List UInt8) (front : List (List (List UInt8)))
    (last : List (List UInt8)) :
    logFrame frame (front ++ [last]) = front ++ [last ++ [frame]] := by
  induction front with
  | nil => rfl
  | cons first more ih =>
    cases more with
    | nil => rfl
    | cons second others =>
      simp only [List.cons_append, logFrame] at ih ⊢
      rw [ih]

/-- What connecting to an address comes to, whatever the gateway has done so far. -/
def dial (network : Network) (listening : Option String) (address : String) :
    Except ConnectFailure Unit :=
  (connect ⟨network, listening, {}, {}, none, [], .zero, false⟩ address).1

theorem connect_eq (g : Gateway) (address : String) :
    g.connect address =
      (dial g.network g.address address,
        match dial g.network g.address address with
        | .ok _ => g.accept
        | .error _ => g) := by
  unfold dial connect
  cases Endpoint.parse address with
  | error e => rfl
  | ok endpoint =>
    rcases endpoint with ⟨ip | name, port⟩
    · cases g.network.fault <;> by_cases hg : g.address = some address <;> simp [hg]
    · cases hl : lookupFault name <;> cases g.network.fault <;>
        by_cases hg : g.address = some address <;> simp [hg, hl]

def due (g : Gateway) (readTimeout : TimeSpan) : Except SendFailure Unit × Gateway :=
  if (⟨g.now.nanoseconds + readTimeout.nanoseconds⟩ : TimeSpan).onClock then (.ok (), g)
  else (.error .gone, { g with gone := true })

theorem due_received (g : Gateway) (readTimeout : TimeSpan) :
    (g.due readTimeout).2.received = g.received := by
  unfold due
  split <;> rfl

theorem send_eq (g : Gateway) (readTimeout : TimeSpan) (frame : List UInt8) :
    g.send readTimeout frame = match g.connection with
      | none => (.error (.failed "Transport endpoint is not connected (os error 107)"), g)
      | some c => (g.receiveRequest c frame).due readTimeout := rfl

section Link

variable (settings : SessionSettings) (g : Gateway)

theorem run_connect (address : String) :
    ((link settings).connect address).run g =
      if g.gone then (.error .gone, g) else g.connect address := rfl

theorem run_send (frame : List UInt8) :
    ((link settings).send frame).run g =
      if g.gone then (.error .gone, g) else g.send settings.readTimeout frame := rfl

theorem run_receive (enough : List UInt8 → Bool) :
    ((link settings).receive enough).run g =
      match g.connection with
      | some c =>
        (⟨c.inFlight, if c.closed then .closed else .timeout⟩,
          { g with connection := some { c with inFlight := [] } })
      | none => (⟨[], .closed⟩, g) := rfl

theorem run_sleepUntil (t : TimeSpan) :
    ((link settings).sleepUntil t).run g =
      ((), if t.onClock then g.sleepUntil t else { g with gone := true }) := rfl

end Link

end Gateway

end MeterPolling
