import MeterPolling.Proofs.Session.History

namespace MeterPolling

open Modbus

theorem FirstResponse.taken {transaction : UInt16} {bs left : List UInt8} {r : Response}
    (h : FirstResponse transaction bs r left) :
    ∃ taken foreign, bs = taken ++ left ∧ responses taken = (foreign ++ [r], []) := by
  induction h with
  | here next same =>
    obtain ⟨taken, he, ht⟩ := nextResponse_taken next
    refine ⟨taken, [], he, ?_⟩
    rw [responses_some ht]
    rfl
  | @later bs rest left f r next other _ ih =>
    obtain ⟨front, he, hf⟩ := nextResponse_taken next
    obtain ⟨taken, foreign, hrest, ht⟩ := ih
    have hfront : responses front = ([f], []) := by
      rw [responses_some hf]
      rfl
    refine ⟨front ++ taken, f :: foreign, ?_, ?_⟩
    · rw [he, hrest, List.append_assoc]
    · rw [responses_append, hfront]
      simp [ht]

def LinkEvent.extend (bs : List UInt8) : LinkEvent → List UInt8
  | .connected _ _ => []
  | e => bs ++ e.bytes

/-- The bytes that have come on the connection that was opened last. -/
def connectionBytes (log : List LinkEvent) : List UInt8 := log.foldl LinkEvent.extend []

def SendAttempt.bytes (a : SendAttempt) : List UInt8 := a.events.flatMap LinkEvent.bytes

/--
The part of a connection's bytes that the attempts before the last one have used up: none if the last one has
opened it, and else all up to the end of the answer before.
-/
inductive UsedUp (before : List SendAttempt) (last : SendAttempt) : List UInt8 → Prop
  | opened {address : String} {result : Except ConnectFailure Unit}
      (opened : .connected address result ∈ last.events) : UsedUp before last []
  | kept {used : List UInt8} {previous : SendAttempt} {r : Response} {foreign : List Response}
      (previous_last : before.getLast? = some previous) (reply : previous.reply = .ok r)
      (through : responses used = (foreign ++ [r], [])) : UsedUp before last used

theorem UsedUp.responses {before : List SendAttempt} {last : SendAttempt} {used : List UInt8}
    (h : UsedUp before last used) : ∃ rs, Modbus.responses used = (rs, []) := by
  cases h with
  | opened => exact ⟨[], rfl⟩
  | kept _ _ through => exact ⟨_, through⟩

/-- The bytes left on a connection are those behind the last answer. -/
def LeftOver (attempts : List SendAttempt) (left : List UInt8) : Prop :=
  ∃ used foreign a r, attempts.getLast? = some a ∧ a.reply = .ok r ∧
    connectionBytes (attempts.flatMap SendAttempt.events) = used ++ left ∧
    responses used = (foreign ++ [r], [])

theorem RoundTripStep.extend {settings : SessionSettings} {request : Request} {buffer : List UInt8}
    {events : List LinkEvent} {result : Except TransportError (Response × List UInt8)}
    (h : RoundTripStep settings request buffer events result) (bs : List UInt8) :
    events.foldl LinkEvent.extend bs = bs ++ events.flatMap LinkEvent.bytes := by
  cases h <;> simp [LinkEvent.extend, LinkEvent.bytes]

theorem RoundTripStep.answer {settings : SessionSettings} {request : Request} {buffer left : List UInt8}
    {events : List LinkEvent} {r : Response}
    (h : RoundTripStep settings request buffer events (.ok (r, left))) :
    FirstResponse request.transaction (buffer ++ events.flatMap LinkEvent.bytes) r left := by
  cases h with
  | atHand _ answer => simpa [LinkEvent.bytes] using answer
  | received _ _ answer => simpa [LinkEvent.bytes] using answer

theorem extend_opening (settings : SessionSettings) (opened : Option (List UInt8)) (bs : List UInt8) :
    (opening settings opened).foldl LinkEvent.extend bs = if opened.isSome then bs else [] := by
  cases opened with
  | none => rfl
  | some left => rfl

theorem bytes_opening (settings : SessionSettings) (opened : Option (List UInt8)) :
    (opening settings opened).flatMap LinkEvent.bytes = [] := by
  cases opened with
  | none => rfl
  | some left => rfl

theorem ExchangeStep.extend {settings : SessionSettings} {request : Request}
    {opened closed : Option (List UInt8)} {events : List LinkEvent}
    {reply : Except TransportError Response}
    (h : ExchangeStep settings request opened events reply closed) (bs : List UInt8) :
    events.foldl LinkEvent.extend bs =
      (if opened.isSome then bs else []) ++ events.flatMap LinkEvent.bytes := by
  cases h with
  | unconnected => rfl
  | failed trip =>
    simp [extend_opening, bytes_opening, trip.extend, LinkEvent.extend, LinkEvent.bytes]
  | answered trip => simp [extend_opening, bytes_opening, trip.extend]

theorem ExchangeStep.opens {settings : SessionSettings} {request : Request}
    {closed : Option (List UInt8)} {events : List LinkEvent} {reply : Except TransportError Response}
    (h : ExchangeStep settings request none events reply closed) :
    ∃ address result, .connected address result ∈ events := by
  cases h with
  | unconnected => exact ⟨_, _, List.mem_singleton_self _⟩
  | failed trip => exact ⟨addressOf settings.host, .ok (), by simp [opening]⟩
  | answered trip => exact ⟨addressOf settings.host, .ok (), by simp [opening]⟩

theorem ExchangeStep.answer {settings : SessionSettings} {request : Request}
    {opened : Option (List UInt8)} {left : List UInt8} {events : List LinkEvent}
    {reply : Except TransportError Response}
    (h : ExchangeStep settings request opened events reply (some left)) :
    ∃ r, reply = .ok r ∧
      FirstResponse request.transaction (opened.getD [] ++ events.flatMap LinkEvent.bytes) r left := by
  cases h with
  | answered trip =>
    refine ⟨_, rfl, ?_⟩
    simpa [bytes_opening] using trip.answer

theorem ExchangeStep.stream {settings : SessionSettings} {before : List SendAttempt}
    {a : SendAttempt} {opened closed : Option (List UInt8)}
    (h : ExchangeStep settings a.request opened a.events a.reply closed)
    (hl : ∀ left, opened = some left → LeftOver before left) :
    ∃ used, UsedUp before a used ∧
      connectionBytes ((before ++ [a]).flatMap SendAttempt.events) =
        used ++ (opened.getD [] ++ a.bytes) := by
  have hbytes : connectionBytes ((before ++ [a]).flatMap SendAttempt.events) =
      (if opened.isSome then connectionBytes (before.flatMap SendAttempt.events) else []) ++
        a.bytes := by
    simp [connectionBytes, h.extend, SendAttempt.bytes]
  rw [hbytes]
  cases opened with
  | none =>
    obtain ⟨address, result, ho⟩ := h.opens
    exact ⟨[], .opened ho, rfl⟩
  | some left =>
    obtain ⟨used, foreign, previous, r, hlast, hreply, hused, hr⟩ := hl left rfl
    refine ⟨used, .kept hlast hreply hr, ?_⟩
    simp [hused]

theorem ExchangeStep.leftOver {settings : SessionSettings} {before : List SendAttempt}
    {a : SendAttempt} {opened closed : Option (List UInt8)}
    (h : ExchangeStep settings a.request opened a.events a.reply closed)
    (hl : ∀ left, opened = some left → LeftOver before left) :
    ∀ left, closed = some left → LeftOver (before ++ [a]) left := by
  intro left hc
  subst hc
  obtain ⟨used, hu, hbytes⟩ := h.stream hl
  obtain ⟨rs, hrs⟩ := hu.responses
  obtain ⟨r, hreply, hfirst⟩ := h.answer
  obtain ⟨taken, foreign, he, ht⟩ := hfirst.taken
  refine ⟨used ++ taken, rs ++ foreign, a, r, by simp, hreply, ?_, ?_⟩
  · rw [hbytes, SendAttempt.bytes, he, List.append_assoc]
  · rw [responses_append, hrs]
    simp [ht]

theorem Attempts.leftOver {settings : SessionSettings} {attempts : List SendAttempt}
    {opened closed : Option (List UInt8)} (h : Attempts settings opened attempts closed)
    (before : List SendAttempt) (hl : ∀ left, opened = some left → LeftOver before left) :
    ∀ left, closed = some left → LeftOver (before ++ attempts) left := by
  -- From the first attempt on, what is left over is an invariant; those done move over to `before`.
  induction h generalizing before with
  | nil => simpa using hl
  | @cons opened next closed a rest first _ ih =>
    have := ih (before ++ [a]) (first.leftOver hl)
    simpa using this

end MeterPolling
