import MeterPolling.Proofs.Session.Turn

namespace MeterPolling

open Modbus

def LinkEvent.isConnect : LinkEvent → Bool
  | .connected _ _ => true
  | _ => false

def SendAttempt.failed (a : SendAttempt) : Bool :=
  match a.reply with
  | .error _ => true
  | .ok _ => false

def Answered (as : List SendAttempt) : Prop := ∃ a r, as.getLast? = some a ∧ a.reply = .ok r

section Steps

variable {settings : SessionSettings} {request : Request} {opened closed closed' : Option (List UInt8)}
  {buffer : List UInt8} {events : List LinkEvent} {reply reply' : Except TransportError Response}
  {result result' : Except TransportError (Response × List UInt8)}

theorem RoundTripStep.events_open (h : RoundTripStep settings request buffer events result) :
    (∀ e ∈ events, e.isConnect = false) ∧ .closed ∉ events := by
  cases h <;> simp [LinkEvent.isConnect]

theorem RoundTripStep.unique (h : RoundTripStep settings request buffer events result)
    (h' : RoundTripStep settings request buffer events result') : result = result' := by
  cases h with
  | unencoded encoded =>
    cases h' with
    | unencoded encoded' =>
      have he := encoded.symm.trans encoded'
      cases he
      rfl
  | unsent encoded =>
    cases h' with
    | unsent encoded' => rfl
  | atHand encoded answer =>
    cases h' with
    | atHand encoded' answer' =>
      obtain ⟨hr, hl⟩ := answer.unique answer'
      rw [hr, hl]
  | received encoded missing answer =>
    cases h' with
    | received encoded' missing' answer' =>
      obtain ⟨hr, hl⟩ := answer.unique answer'
      rw [hr, hl]
    | unanswered encoded' missing' => exact absurd missing' answer.not_noResponse
  | unanswered encoded missing =>
    cases h' with
    | received encoded' missing' answer' => exact absurd missing answer'.not_noResponse
    | unanswered encoded' missing' => rfl

theorem ExchangeStep.kept_iff (h : ExchangeStep settings request opened events reply closed) :
    closed.isSome ↔ ∃ r, reply = .ok r := by
  cases h <;> simp

theorem countP_opening (settings : SessionSettings) (opened : Option (List UInt8)) :
    (opening settings opened).countP LinkEvent.isConnect = if opened.isSome then 0 else 1 := by
  cases opened with
  | none => rfl
  | some left => rfl

theorem ExchangeStep.connects (h : ExchangeStep settings request opened events reply closed) :
    events.countP LinkEvent.isConnect = if opened.isSome then 0 else 1 := by
  cases h with
  | unconnected => rfl
  | @failed _ during _ trip =>
    have hnone : during.countP LinkEvent.isConnect = 0 :=
      List.countP_eq_zero.mpr (by simpa using trip.events_open.1)
    have hclosed : [LinkEvent.closed].countP LinkEvent.isConnect = 0 := rfl
    rw [List.countP_append, List.countP_append, hnone, hclosed]
    exact countP_opening settings opened
  | @answered _ during _ _ trip =>
    have hnone : during.countP LinkEvent.isConnect = 0 :=
      List.countP_eq_zero.mpr (by simpa using trip.events_open.1)
    rw [List.countP_append, hnone]
    exact countP_opening settings opened

/-- What an exchange comes to can be told from the bytes left before it and from what happens. -/
theorem ExchangeStep.unique (h : ExchangeStep settings request opened events reply closed)
    (h' : ExchangeStep settings request opened events reply' closed') :
    reply = reply' ∧ closed = closed' := by
  generalize he : events = events' at h'
  -- The event that closes the connection tells a failure from an answer.
  cases h with
  | unconnected =>
    cases h' with
    | unconnected =>
      cases he
      exact ⟨rfl, rfl⟩
    | failed trip' => simp [opening] at he
    | answered trip' => simp [opening] at he
  | @failed _ during cause trip =>
    cases h' with
    | unconnected => simp [opening] at he
    | @failed _ during' cause' trip' =>
      have hsame : during = during' := by simpa using he
      subst hsame
      have hresult := trip.unique trip'
      cases hresult
      exact ⟨rfl, rfl⟩
    | @answered _ during' _ _ trip' =>
      have hsame : during ++ [.closed] = during' := by simpa using he
      have hmem : .closed ∈ during' := by simp [← hsame]
      exact absurd hmem trip'.events_open.2
  | @answered _ during r left trip =>
    cases h' with
    | unconnected => simp [opening] at he
    | @failed _ during' cause' trip' =>
      have hsame : during = during' ++ [.closed] := by simpa using he
      have hmem : .closed ∈ during := by simp [hsame]
      exact absurd hmem trip.events_open.2
    | @answered _ during' _ _ trip' =>
      have hsame : during = during' := by simpa using he
      subst hsame
      have hresult := trip.unique trip'
      cases hresult
      exact ⟨rfl, rfl⟩

end Steps

section Runs

variable {settings : SessionSettings} {opened closed : Option (List UInt8)} {as bs : List SendAttempt}

theorem Attempts.kept_iff (h : Attempts settings none as closed) : closed.isSome ↔ Answered as := by
  rcases List.eq_nil_or_concat as with he | ⟨front, last, he⟩
  · subst he
    cases h
    simp [Answered]
  · rw [List.concat_eq_append] at he
    subst he
    obtain ⟨next, _, hlast⟩ := h.split
    cases hlast with
    | cons step rest =>
      cases rest
      simpa [Answered] using step.kept_iff

theorem Attempts.connects (h : Attempts settings opened as closed) (hne : as ≠ []) :
    (as.flatMap SendAttempt.events).countP LinkEvent.isConnect =
      (if opened.isSome then 0 else 1) + as.dropLast.countP SendAttempt.failed := by
  induction h with
  | nil => exact absurd rfl hne
  | @cons opened next closed a rest first others ih =>
    have hfirst := first.connects
    have hkept := first.kept_iff
    rw [List.flatMap_cons, List.countP_append, hfirst]
    cases rest with
    | nil => rfl
    | cons b more =>
      have hrest := ih (List.cons_ne_nil b more)
      rw [hrest, List.dropLast_cons_of_ne_nil (List.cons_ne_nil b more), List.countP_cons]
      have hfailed : (if next.isSome then 0 else 1) = if a.failed then 1 else 0 := by
        unfold SendAttempt.failed
        cases hr : a.reply with
        | error cause =>
          have hnone : ¬ next.isSome := by simp [hkept, hr]
          simp [hnone]
        | ok r =>
          have hsome : next.isSome := hkept.mpr ⟨r, hr⟩
          simp [hsome]
      omega

theorem Attempts.replies_unique {closed' : Option (List UInt8)} (h : Attempts settings opened as closed)
    (h' : Attempts settings opened bs closed')
    (same : as.map (fun a => (a.request, a.events)) = bs.map fun b => (b.request, b.events)) :
    as.map SendAttempt.reply = bs.map SendAttempt.reply := by
  induction h generalizing bs with
  | nil =>
    have hnil : bs = [] := by simpa using same
    subst hnil
    rfl
  | @cons opened next closed a rest first others ih =>
    cases h' with
    | nil => simp at same
    | @cons _ next' _ b more first' others' =>
      simp only [List.map_cons, List.cons.injEq, Prod.mk.injEq] at same
      obtain ⟨⟨hrequest, hevents⟩, hsame⟩ := same
      rw [← hrequest, ← hevents] at first'
      obtain ⟨hreply, hnext⟩ := first.unique first'
      subst hnext
      have hrest := ih others' hsame
      rw [List.map_cons, List.map_cons, hreply, hrest]

end Runs

namespace Moment

variable {σ : Type} (link : Link (StateM σ)) (settings : SessionSettings)

theorem turns_attempts (requests : List Request) (m : Moment σ) :
    ∃ closed, Attempts settings m.session.buffer (sendAttempts (m.turns link settings requests))
      closed := by
  induction requests generalizing m with
  | nil => exact ⟨m.session.buffer, .nil⟩
  | cons request rest ih =>
    obtain ⟨_, hstep, _⟩ := turn_step link settings request m
    obtain ⟨closed, hrest⟩ := ih (m.turn link settings request).after
    exact ⟨closed, .cons hstep hrest⟩

theorem turns_split {requests : List Request} {m : Moment σ} {i : Nat} {t : Turn σ}
    (h : (m.turns link settings requests)[i]? = some t) :
    ExchangeStep settings t.request t.before.session.buffer t.events t.reply
        t.after.session.buffer ∧
      Attempts settings m.session.buffer (sendAttempts ((m.turns link settings requests).take i))
        t.before.session.buffer ∧
      (m.turns link settings requests).drop i =
        t.before.turns link settings (requests.drop i) := by
  induction requests generalizing m i with
  | nil => simp [turns] at h
  | cons request rest ih =>
    obtain ⟨_, hstep, _⟩ := turn_step link settings request m
    cases i with
    | zero =>
      have ht : m.turn link settings request = t := by simpa [turns] using h
      subst ht
      exact ⟨hstep, .nil, rfl⟩
    | succ i =>
      have hrest : ((m.turn link settings request).after.turns link settings rest)[i]? = some t := by
        simpa [turns] using h
      obtain ⟨hexchange, hbefore, hdrop⟩ := ih hrest
      exact ⟨hexchange, .cons hstep hbefore, by simpa [turns] using hdrop⟩

theorem turns_drop_attempts {requests : List Request} {w : σ} {i : Nat}
    (h : ¬ Answered (sendAttempts ((turns link settings requests { world := w }).take i))) :
    ∃ closed, Attempts settings none
      (sendAttempts ((turns link settings requests { world := w }).drop i)) closed := by
  cases ht : (turns link settings requests { world := w })[i]? with
  | none =>
    have hlen := List.getElem?_eq_none_iff.mp ht
    rw [List.drop_of_length_le hlen]
    exact ⟨none, .nil⟩
  | some t =>
    obtain ⟨_, hbefore, hdrop⟩ := turns_split link settings ht
    have hnone : t.before.session.buffer = none := by
      have hkept := hbefore.kept_iff
      simpa using mt hkept.mp h
    obtain ⟨closed, hrest⟩ := turns_attempts link settings (requests.drop i) t.before
    rw [hnone] at hrest
    rw [hdrop]
    exact ⟨closed, hrest⟩

end Moment

/--
Whatever a session is asked and whatever the gateway does: before each exchange a connection is open just if
there was one before it and that has an answer, and an exchange opens one just if none is open. So as many are
opened as there are failures that another exchange follows, and one more. From an exchange that opens one on,
the replies are the same in any two sessions that are asked the same and see the same on their links.
-/
theorem reconnection {σ τ : Type} (link : Link (StateM σ)) (other : Link (StateM τ))
    (settings : SessionSettings) (requests others : List Request) (w : σ) (v : τ) :
    let turns := ({ world := w } : Moment σ).turns link settings requests
    let turns' := ({ world := v } : Moment τ).turns other settings others
    (∀ i t, turns[i]? = some t →
      (t.before.session.buffer.isSome ↔ Answered (sendAttempts (turns.take i))) ∧
      (t.after.session.buffer.isSome ↔ ∃ r, t.reply = .ok r) ∧
      t.events.countP LinkEvent.isConnect = if t.before.session.buffer.isSome then 0 else 1) ∧
    (turns ≠ [] → ((sendAttempts turns).flatMap SendAttempt.events).countP LinkEvent.isConnect =
      1 + (sendAttempts turns).dropLast.countP SendAttempt.failed) ∧
    ∀ i j, ¬ Answered (sendAttempts (turns.take i)) → ¬ Answered (sendAttempts (turns'.take j)) →
      (turns.drop i).map (fun t => (t.request, t.events)) =
        (turns'.drop j).map (fun t => (t.request, t.events)) →
      (turns.drop i).map (·.reply) = (turns'.drop j).map (·.reply) := by
  intro turns turns'
  refine ⟨?_, ?_, ?_⟩
  · intro i t ht
    obtain ⟨hexchange, hbefore, _⟩ := Moment.turns_split link settings ht
    exact ⟨hbefore.kept_iff, hexchange.kept_iff, hexchange.connects⟩
  · intro hne
    obtain ⟨closed, hall⟩ := Moment.turns_attempts link settings requests { world := w }
    have hsome : sendAttempts turns ≠ [] := by simpa using hne
    exact hall.connects hsome
  · intro i j hi hj hsame
    obtain ⟨closed, hall⟩ := Moment.turns_drop_attempts link settings hi
    obtain ⟨closed', hall'⟩ := Moment.turns_drop_attempts other settings hj
    have hreplies := hall.replies_unique hall' (by
      simp only [List.map_map]
      exact hsame)
    simp only [List.map_map] at hreplies
    exact hreplies

end MeterPolling
