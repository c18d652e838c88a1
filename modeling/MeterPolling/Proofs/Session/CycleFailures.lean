import MeterPolling.Proofs.Cycle.Run
import MeterPolling.Proofs.Decoder
import MeterPolling.Proofs.Session.Simulation
import MeterPolling.Proofs.Session.Soundness

namespace MeterPolling

open Modbus

variable {σ : Type}

def Simulation.moments (σ : Type) :
    Simulation (StateT Session (StateT (List LinkEvent) (StateM σ))) (StateM (Moment σ)) where
  Holds R x y := ∀ m, R (m.run x).1 (y.run m).1 ∧ (m.run x).2 = (y.run m).2
  pure_holds hab := fun _ => ⟨hab, rfl⟩
  bind_holds {_ _ _ _ _ _ x y f g} hx hf := by
    intro m
    obtain ⟨hab, hm⟩ := hx m
    have hthen := hf _ _ hab (y.run m).2
    rw [Moment.run_bind, hm]
    exact hthen

namespace Moment

def client (link : Link (StateM σ)) (settings : SessionSettings) : Client (StateM (Moment σ)) where
  read register count := fun m => m.run ((Session.client link.logged settings).read register count)
  write register values := fun m => m.run ((Session.client link.logged settings).write register values)

def executor (x : Executor (StateM σ)) : Executor (StateM (Moment σ)) where
  registry := x.registry
  stopped := fun m => m.run x.lift.lift.stopped
  now := fun m => m.run x.lift.lift.now

def cycle (link : Link (StateM σ)) (settings : SessionSettings) (x : Executor (StateM σ)) (plan : Plan)
    (m : Moment σ) : CycleResult × Moment σ :=
  m.run (x.lift.lift.execute plan (Session.client link.logged settings))

variable (link : Link (StateM σ)) (settings : SessionSettings) (x : Executor (StateM σ)) (plan : Plan)

theorem cycle_eq (m : Moment σ) :
    m.cycle link settings x plan = ((executor x).execute plan (client link settings)).run m := by
  have hclients : (Simulation.moments σ).Clients (Session.client link.logged settings)
      (client link settings) :=
    ⟨fun _ _ _ _ => ⟨rfl, rfl⟩, fun _ _ _ _ => ⟨rfl, rfl⟩⟩
  have hsame : (Simulation.moments σ).Holds Eq
      (x.lift.lift.execute plan (Session.client link.logged settings))
      ((executor x).execute plan (client link settings)) :=
    Simulation.executeTimed hclients (fun _ => ⟨rfl, rfl⟩) (fun _ => ⟨rfl, rfl⟩) plan
  exact Prod.ext (hsame m).1 (hsame m).2

theorem cycle_erased (m : Moment σ) :
    ((x.lift.execute plan (Session.client link settings)).run m.session).run m.world =
      (((m.cycle link settings x plan).1, (m.cycle link settings x plan).2.session),
        (m.cycle link settings x plan).2.world) := by
  have hstopped : ((Simulation.erasure (List LinkEvent) σ).withState Session).Holds Eq
      x.lift.lift.stopped x.lift.stopped := fun _ _ _ => ⟨⟨rfl, rfl⟩, rfl⟩
  have hnow : ((Simulation.erasure (List LinkEvent) σ).withState Session).Holds Eq
      x.lift.lift.now x.lift.now := fun _ _ _ => ⟨⟨rfl, rfl⟩, rfl⟩
  have hsame := Simulation.executeTimed (Simulation.clients settings link.logged_links) hstopped hnow plan
  obtain ⟨hpair, hworld⟩ := Simulation.withState_iff.mp hsame m.session m.log m.world
  exact (Prod.ext hpair hworld).symm

end Moment

theorem WriteCommand.lossless {c : WriteCommand} (sound : (Command.write c).defect? = none) :
    (UInt16.ofNat c.values.length).toNat = c.values.length ∧
      (UInt8.ofNat (2 * c.values.length)).toNat = 2 * c.values.length := by
  have hshort := WriteCommand.length_le sound
  simp only [maxRegisters] at hshort
  rw [UInt16.toNat_ofNat', UInt8.toNat_ofNat']
  omega

theorem Command.not_tooLong {c : Command} (sound : c.defect? = none) :
    ¬ c.call.operation.tooLong := by
  cases c with
  | read c => simp [Command.call, Call.operation, Operation.tooLong]
  | write c =>
    have hshort := WriteCommand.length_le sound
    simp only [maxRegisters] at hshort
    simp only [Command.call, Call.operation]
    rw [Operation.tooLong_write_iff]
    omega

structure Attempted (settings : SessionSettings) (operations : List Operation) (m : Moment σ)
    (made : List SendAttempt) (m' : Moment σ) : Prop where
  chain : Attempts settings m.session.buffer made m'.session.buffer
  log : m'.log = m.log ++ made.flatMap SendAttempt.events
  operation : ∀ a ∈ made, a.request.operation ∈ operations

theorem Attempted.append {settings : SessionSettings} {operations others : List Operation}
    {m m₁ m' : Moment σ} {made more : List SendAttempt} (h : Attempted settings operations m made m₁)
    (hmore : Attempted settings others m₁ more m') :
    Attempted settings (operations ++ others) m (made ++ more) m' := by
  refine ⟨h.chain.append hmore.chain, ?_, ?_⟩
  · rw [hmore.log, h.log, List.append_assoc, List.flatMap_append]
  · intro a ha
    rcases List.mem_append.mp ha with ha | ha
    · exact List.mem_append_left others (h.operation a ha)
    · exact List.mem_append_right operations (hmore.operation a ha)

/-- How a cycle ends at a command, when these are the attempts so far. -/
inductive EndsAt (attempts : List SendAttempt) : Command → CycleError → Prop
  | interrupted {c : Command} : EndsAt attempts c (.interrupted c.name)
  | unread {c : ReadCommand} {a : SendAttempt} {cause : TransportError}
      (last : attempts.getLast? = some a)
      (reply : a.reply.bind (Session.reading c.count) = .error cause) :
      EndsAt attempts (.read c) (.read c.name cause)
  | undecoded {c : ReadCommand} {a : SendAttempt} {words : List UInt16} {cause : DecodeError}
      (last : attempts.getLast? = some a)
      (reply : a.reply.bind (Session.reading c.count) = .ok words)
      (rejected : c.decode words = .error cause) : EndsAt attempts (.read c) (.decode c.name cause)
  | unwritten {c : WriteCommand} {a : SendAttempt} {cause : TransportError}
      (last : attempts.getLast? = some a)
      (reply : a.reply.bind (Session.acknowledgement c.register c.values.length) = .error cause) :
      EndsAt attempts (.write c) (.write c.name cause)

theorem EndsAt.append {made : List SendAttempt} {c : Command} {e : CycleError} (h : EndsAt made c e)
    (earlier : List SendAttempt) : EndsAt (earlier ++ made) c e := by
  have hlast : ∀ a, made.getLast? = some a → (earlier ++ made).getLast? = some a := by
    intro a ha
    rw [List.getLast?_append, ha]
    rfl
  cases h with
  | interrupted => exact .interrupted
  | unread last reply => exact .unread (hlast _ last) reply
  | undecoded last reply rejected => exact .undecoded (hlast _ last) reply rejected
  | unwritten last reply => exact .unwritten (hlast _ last) reply

section Steps

variable {link : Link (StateM σ)} {settings : SessionSettings} {x : Executor (StateM σ)}
  {m m₁ m' : Moment σ}

theorem sendRetrying_attempted (link : Link (StateM σ)) (settings : SessionSettings)
    (operation : Operation) (m : Moment σ) :
    ∃ earlier last m', m.run (Session.sendRetrying link.logged settings operation) =
        (last.reply, m') ∧ Attempted settings [operation] m (earlier ++ [last]) m' := by
  obtain ⟨earlier, last, s', w', hrun, hretried, _⟩ :=
    retrying_retried link settings operation settings.retries m.session m.log m.world
  refine ⟨earlier, last, _, Moment.run_eq hrun, hretried.chain, rfl, ?_⟩
  intro a ha
  obtain ⟨i, hi⟩ := List.mem_iff_getElem?.mp ha
  rw [hretried.requests i a hi]
  exact List.mem_singleton_self operation

theorem Attempted.token {stop : Bool} {operations : List Operation} {made : List SendAttempt}
    (h : (Moment.executor x).stopped.run m = (stop, m₁))
    (hmade : Attempted settings operations m₁ made m') : Attempted settings operations m made m' := by
  cases h
  exact ⟨hmade.chain, hmade.log, hmade.operation⟩

theorem read_attempted {register count : UInt16} {reply : Except TransportError (List UInt16)}
    (h : ((Moment.client link settings).read register count).run m = (reply, m')) :
    ∃ earlier last, last.reply.bind (Session.reading count) = reply ∧
      Attempted settings [.readRegisters register count] m (earlier ++ [last]) m' := by
  obtain ⟨earlier, last, m₂, hrun, hmade⟩ :=
    sendRetrying_attempted link settings (.readRegisters register count) m
  have hread : ((Moment.client link settings).read register count).run m =
      (last.reply.bind (Session.reading count), m₂) := by
    simp only [Moment.client, Session.client, StateT.run, Moment.run_bind, hrun, Moment.run_pure]
  obtain ⟨hreply, hm⟩ := Prod.mk.inj (hread.symm.trans h)
  subst hm
  exact ⟨earlier, last, hreply, hmade⟩

theorem write_attempted {register : UInt16} {values : List UInt16}
    {reply : Except TransportError Unit}
    (h : ((Moment.client link settings).write register values).run m = (reply, m')) :
    ∃ earlier last, last.reply.bind (Session.acknowledgement register values.length) = reply ∧
      Attempted settings [.writeRegisters register values] m (earlier ++ [last]) m' := by
  obtain ⟨earlier, last, m₂, hrun, hmade⟩ :=
    sendRetrying_attempted link settings (.writeRegisters register values) m
  have hwrite : ((Moment.client link settings).write register values).run m =
      (last.reply.bind (Session.acknowledgement register values.length), m₂) := by
    simp only [Moment.client, Session.client, StateT.run, Moment.run_bind, hrun, Moment.run_pure]
  obtain ⟨hreply, hm⟩ := Prod.mk.inj (hwrite.symm.trans h)
  subst hm
  exact ⟨earlier, last, hreply, hmade⟩

theorem step_attempted {c : Command} {calls : List Call} {result : Except CycleError Outcome}
    (h : CommandStep (Moment.client link settings) (Moment.executor x).stopped m c calls result m') :
    ∃ made, Attempted settings [c.call.operation] m made m' ∧
      ∀ e, result = .error e → EndsAt made c e := by
  have hlast : ∀ (earlier : List SendAttempt) last, (earlier ++ [last]).getLast? = some last :=
    fun _ _ => List.getLast?_concat
  cases h with
  | interrupted token =>
    refine ⟨[], .token token ⟨.nil, (List.append_nil _).symm, by simp⟩, ?_⟩
    intro e he
    cases he
    exact .interrupted
  | unread token reply =>
    obtain ⟨earlier, last, hreply, hmade⟩ := read_attempted reply
    refine ⟨_, .token token hmade, ?_⟩
    intro e he
    cases he
    exact .unread (hlast earlier last) hreply
  | undecoded token reply rejected =>
    obtain ⟨earlier, last, hreply, hmade⟩ := read_attempted reply
    refine ⟨_, .token token hmade, ?_⟩
    intro e he
    cases he
    exact .undecoded (hlast earlier last) hreply rejected
  | read token reply =>
    obtain ⟨earlier, last, _, hmade⟩ := read_attempted reply
    exact ⟨_, .token token hmade, by simp⟩
  | unwritten token reply =>
    obtain ⟨earlier, last, hreply, hmade⟩ := write_attempted reply
    refine ⟨_, .token token hmade, ?_⟩
    intro e he
    cases he
    exact .unwritten (hlast earlier last) hreply
  | wrote token reply =>
    obtain ⟨earlier, last, _, hmade⟩ := write_attempted reply
    exact ⟨_, .token token hmade, by simp⟩

theorem completes_attempted {commands : List Command} {outcomes : List Outcome}
    (h : Completes (Moment.client link settings) (Moment.executor x).stopped m commands outcomes m') :
    outcomes.length = commands.length ∧
      ∃ made, Attempted settings (commands.map (·.call.operation)) m made m' := by
  induction h with
  | nil => exact ⟨rfl, [], .nil, (List.append_nil _).symm, by simp⟩
  | cons first _ ih =>
    obtain ⟨made, hmade, _⟩ := step_attempted first
    obtain ⟨hlength, more, hmore⟩ := ih
    exact ⟨by simp [hlength], made ++ more, hmade.append hmore⟩

end Steps

/-- An attempt at a command of a plan. Its request has a frame, from which nothing is lost. -/
structure SendAttempt.Framed (a : SendAttempt) (plan : Plan) : Prop where
  planned : ∃ c ∈ plan.commands, a.request.operation = c.call.operation
  encoded : a.request.encode = .ok a.request.frame.bytes
  whole : ∀ rest, Request.decode? (a.request.frame.bytes ++ rest) = some (a.request, rest)
  length : a.request.frame.header.length.toNat = a.request.frame.data.length + 2
  sent : ∀ frame result, .sent frame result ∈ a.events → frame = a.request.frame.bytes
  unsent : ∀ cause, a.reply = .error (.send cause) →
    .sent a.request.frame.bytes (.error (.failed cause)) ∈ a.events

theorem RoundTripStep.sent_encoded {settings : SessionSettings} {request : Request}
    {buffer frame : List UInt8} {events : List LinkEvent}
    {result : Except TransportError (Response × List UInt8)} {sent : Except SendFailure Unit}
    (h : RoundTripStep settings request buffer events result) (hsent : .sent frame sent ∈ events) :
    request.encode = .ok frame := by
  cases h with
  | unencoded encoded => cases hsent
  | unsent encoded | atHand encoded answer | received encoded missing answer
  | unanswered encoded missing =>
    have he : ∀ other, .ok other = request.encode → frame = other → request.encode = .ok frame := by
      rintro other hother rfl
      exact hother.symm
    simp only [List.mem_cons, List.not_mem_nil, or_false, LinkEvent.sent.injEq, reduceCtorEq] at hsent
    exact he _ encoded.symm hsent.1

theorem ExchangeStep.sent_encoded {settings : SessionSettings} {request : Request}
    {opened closed : Option (List UInt8)} {events : List LinkEvent} {frame : List UInt8}
    {reply : Except TransportError Response} {sent : Except SendFailure Unit}
    (h : ExchangeStep settings request opened events reply closed) (hsent : .sent frame sent ∈ events) :
    request.encode = .ok frame := by
  cases h with
  | unconnected => simp at hsent
  | failed trip => exact trip.sent_encoded (by simpa [mem_opening] using hsent)
  | answered trip => exact trip.sent_encoded (by simpa [mem_opening] using hsent)

theorem Decided.unsent_failed {settings : SessionSettings} {a : SendAttempt} {stream : List UInt8}
    (h : Decided settings a stream) (hshort : ¬ a.request.operation.tooLong) {cause : String}
    (hreply : a.reply = .error (.send cause)) :
    ∃ frame, .sent frame (.error (.failed cause)) ∈ a.events := by
  cases h with
  | answered _ _ reply => cases hreply.symm.trans reply
  | @unanswered d _ _ _ reply =>
    have he := hreply.symm.trans reply
    cases hd : d.ending with
    | closed =>
      simp only [hd, Ending.error] at he
      split at he
      next => cases he
      next => cases he
    | timeout => simp [hd, Ending.error] at he
    | failed cause => simp [hd, Ending.error] at he
  | @unsent frame failure _ failed reply =>
    have he := hreply.symm.trans reply
    cases failure with
    | failed cause =>
      cases he
      exact ⟨frame, failed⟩
    | timeout => cases he
    | gone => cases he
  | tooLong _ long _ => exact absurd long hshort
  | @unconnected failure _ _ reply =>
    have he := hreply.symm.trans reply
    cases failure <;> cases he

theorem Attempts.framed {settings : SessionSettings} {opened closed : Option (List UInt8)}
    {as : List SendAttempt} (h : Attempts settings opened as closed) {plan : Plan}
    (planned : ∀ a ∈ as, a.request.operation ∈ plan.commands.map (·.call.operation)) :
    ∀ a ∈ as, a.Framed plan := by
  induction h with
  | nil => simp
  | @cons _ _ _ a rest first _ ih =>
    intro b hb
    rcases List.mem_cons.mp hb with he | hb
    · subst he
      obtain ⟨c, hc, hop⟩ := List.mem_map.mp (planned b (List.mem_cons_self ..))
      have hshort : ¬ b.request.operation.tooLong := hop ▸ Command.not_tooLong (plan.sound c hc)
      have hencode := Request.encode_of_short hshort
      have hsent : ∀ frame result, .sent frame result ∈ b.events → frame = b.request.frame.bytes := by
        intro frame result hs
        exact Except.ok.inj ((first.sent_encoded hs).symm.trans hencode)
      refine ⟨⟨c, hc, hop.symm⟩, hencode, Request.decode?_bytes hshort,
        Frame.length_header (Request.fits_frame hshort), hsent, ?_⟩
      intro cause hreply
      obtain ⟨frame, hfailed⟩ := first.decided.unsent_failed hshort hreply
      rwa [← hsent frame _ hfailed]
    · exact ih (fun c hc => planned c (List.mem_cons_of_mem a hc)) b hb

/-- Words that are taken for the answer to a read are as many as its decoder takes, at every level. -/
structure ReadCommand.Sized (c : ReadCommand) (words : List UInt16) : Prop where
  whole : c.decode words = c.decoder.decode words
  sized : ∀ depth expected actual,
    (c.decoder.level depth).decode words ≠ .error (.sizeMismatch expected actual)
  rejected : ∀ cause, c.decode words = .error cause → c.decoder.Rejects cause
  number : c.decoder.words.isSome ∨ c.decoder = ⟨.raw, []⟩ → ∃ value, c.decode words = .ok value

theorem ReadCommand.sized_of_reading {c : ReadCommand} (sound : (Command.read c).defect? = none)
    {r : Response} {words : List UInt16} (h : Session.reading c.count r = .ok words) :
    c.Sized words := by
  obtain ⟨_, hlength⟩ := reading_eq_ok_iff.mp h
  have hfits : c.decoder.Fits words.length := hlength ▸ c.fits sound
  have hwhole := c.decode_eq hlength
  refine ⟨hwhole, ?_, ?_, ?_⟩
  · intro depth expected actual he
    exact Decoder.decode_error (hfits.level depth) he
  · intro cause he
    exact Decoder.decode_error hfits (hwhole ▸ he)
  · intro hkind
    cases hdecode : c.decode words with
    | ok value => exact ⟨value, rfl⟩
    | error cause =>
      obtain ⟨hnone, hraw⟩ := (Decoder.decode_error hfits (hwhole ▸ hdecode)).unfixed
      rcases hkind with hsome | he
      · simp [hnone] at hsome
      · exact absurd he hraw

theorem reading_not_send {count : UInt16} {r : Response} {cause : String} :
    Session.reading count r ≠ .error (.send cause) := by
  unfold Session.reading
  split
  next => split <;> simp
  next => simp
  next => simp
  next => simp

theorem acknowledgement_not_send {register : UInt16} {count : Nat} {r : Response} {cause : String} :
    Session.acknowledgement register count r ≠ .error (.send cause) := by
  unfold Session.acknowledgement
  split
  next => split <;> simp
  next => simp
  next => simp
  next => simp

theorem bind_eq_send_iff {α : Type} {reply : Except TransportError Response} {cause : String}
    {f : Response → Except TransportError α} (hf : ∀ r, f r ≠ .error (.send cause)) :
    reply.bind f = .error (.send cause) ↔ reply = .error (.send cause) := by
  cases reply with
  | error e => simp [Except.bind]
  | ok r => simp [Except.bind, hf r]

theorem EndsAt.rejects {attempts : List SendAttempt} {c : Command} {name : String} {cause : DecodeError}
    (h : EndsAt attempts c (.decode name cause)) (sound : c.defect? = none) :
    ∃ r, c = .read r ∧ name = r.name ∧ r.decoder.Rejects cause ∧ r.decoder.words = none ∧
      r.decoder ≠ ⟨.raw, []⟩ := by
  cases h with
  | @undecoded r a words _ last reply rejected =>
    obtain ⟨answer, _, hreading⟩ := bind_eq_ok_iff.mp reply
    have hrejects := (ReadCommand.sized_of_reading sound hreading).rejected cause rejected
    exact ⟨r, rfl, rfl, hrejects, hrejects.unfixed⟩

theorem EndsAt.unsent {attempts : List SendAttempt} {c : Command} {name cause : String}
    (h : EndsAt attempts c (.read name (.send cause)) ∨ EndsAt attempts c (.write name (.send cause))) :
    ∃ a ∈ attempts, a.reply = .error (.send cause) := by
  rcases h with h | h
  · cases h with
    | @unread _ a _ last reply =>
      exact ⟨a, List.mem_of_getLast? last, (bind_eq_send_iff fun _ => reading_not_send).mp reply⟩
  · cases h with
    | @unwritten _ a _ last reply =>
      exact ⟨a, List.mem_of_getLast? last, (bind_eq_send_iff fun _ => acknowledgement_not_send).mp reply⟩

theorem Moment.cycle_attempted (link : Link (StateM σ)) (settings : SessionSettings)
    (x : Executor (StateM σ)) (plan : Plan) (m : Moment σ) :
    let run := m.cycle link settings x plan
    ∃ attempts, Attempted settings (plan.commands.map (·.call.operation)) m attempts run.2 ∧
      ∀ aborted, run.1 = .error aborted → ∃ c, plan.commands[aborted.completed.length]? = some c ∧
        EndsAt attempts c aborted.error := by
  intro run
  have hrun : run = ((executor x).execute plan (client link settings)).run m :=
    cycle_eq link settings x plan m
  -- A look at the clock changes nothing but the world.
  have haround : ∀ {operations : List Operation} {made : List SendAttempt} {m' : Moment σ},
      Attempted settings operations ((executor x).now.run m).2 made m' →
      Attempted settings operations m made ((executor x).now.run m').2 :=
    fun h => ⟨h.chain, h.log, h.operation⟩
  rcases execute_run (executor x) (client link settings) plan m with
    ⟨outcomes, elapsed, m', hc, he⟩ |
    ⟨before, c, after, outcomes, elapsed, m₁, calls, e, m', hcut, hb, hc, he⟩
  · obtain ⟨_, made, hmade⟩ := completes_attempted hc
    rw [hrun, he]
    exact ⟨made, haround hmade, by simp⟩
  · obtain ⟨hlength, made, hmade⟩ := completes_attempted hb
    obtain ⟨more, hmore, hends⟩ := step_attempted hc
    rw [hrun, he]
    have hall := haround (hmade.append hmore)
    refine ⟨made ++ more, ⟨hall.chain, hall.log, ?_⟩, ?_⟩
    · intro a ha
      have hop := hall.operation a ha
      rw [hcut, List.map_append, List.map_cons]
      rcases List.mem_append.mp hop with hop | hop
      · exact List.mem_append_left _ hop
      · rw [List.mem_singleton.mp hop]
        exact List.mem_append_right _ (List.mem_cons_self ..)
    · intro aborted ha
      cases ha
      refine ⟨c, ?_, (hends e rfl).append made⟩
      simp only [hcut, hlength, List.getElem?_append_right (Nat.le_refl _), Nat.sub_self,
        List.getElem?_cons_zero]

/--
Whatever the gateway does in a cycle over a session, in whatever state the session is: every attempt is at a
command of the plan, and has a frame that says what the command says; the counts in it are those of the command.
If the request does not go out, the link has not taken it. Words that are taken for the answer to a read fit its
decoder at every level. A cycle that ends early ends at a command for which the last attempt gives the reason,
and a reason to reject words is one of text or of scaling what is no number. Numbers, scaled or not, and plain
bytes are never rejected.
-/
theorem session_cycle_failures (link : Link (StateM σ)) (settings : SessionSettings)
    (x : Executor (StateM σ)) (plan : Plan) (s : Session) (w : σ) :
    let start : Moment σ := { session := s, world := w }
    let run := start.cycle link settings x plan
    ((x.lift.execute plan (Session.client link settings)).run s).run w =
      ((run.1, run.2.session), run.2.world) ∧
    (∀ c, .write c ∈ plan.commands → (UInt16.ofNat c.values.length).toNat = c.values.length ∧
      (UInt8.ofNat (2 * c.values.length)).toNat = 2 * c.values.length) ∧
    (∀ c, .read c ∈ plan.commands → ∀ r words, Session.reading c.count r = .ok words → c.Sized words) ∧
    ∃ attempts, run.2.log = attempts.flatMap SendAttempt.events ∧
      Attempts settings s.buffer attempts run.2.session.buffer ∧
      (∀ a ∈ attempts, a.Framed plan) ∧
      ∀ aborted, run.1 = .error aborted →
        ∃ c, plan.commands[aborted.completed.length]? = some c ∧
          EndsAt attempts c aborted.error ∧
          (∀ name cause, aborted.error = .decode name cause →
            ∃ r, c = .read r ∧ name = r.name ∧ r.decoder.Rejects cause ∧ r.decoder.words = none ∧
              r.decoder ≠ ⟨.raw, []⟩) ∧
          ∀ name cause, aborted.error = .read name (.send cause) ∨
              aborted.error = .write name (.send cause) →
            ∃ frame, .sent frame (.error (.failed cause)) ∈ run.2.log := by
  intro start run
  obtain ⟨attempts, hmade, hends⟩ := start.cycle_attempted link settings x plan
  have hlog : run.2.log = attempts.flatMap SendAttempt.events := hmade.log
  have hframed : ∀ a ∈ attempts, a.Framed plan := hmade.chain.framed hmade.operation
  refine ⟨start.cycle_erased link settings x plan, fun c hc => WriteCommand.lossless (plan.sound _ hc),
    fun c hc r words hr => ReadCommand.sized_of_reading (plan.sound _ hc) hr, attempts, hlog,
    hmade.chain, hframed, ?_⟩
  intro aborted hrun
  obtain ⟨c, hc, hend⟩ := hends aborted hrun
  have hsound : c.defect? = none := plan.sound c (List.mem_of_getElem? hc)
  refine ⟨c, hc, hend, ?_, ?_⟩
  · intro name cause he
    exact (he ▸ hend).rejects hsound
  · intro name cause he
    obtain ⟨a, ha, hreply⟩ : ∃ a ∈ attempts, a.reply = .error (.send cause) := by
      have hread : EndsAt attempts c (.read name (.send cause)) ∨ EndsAt attempts c (.write name (.send cause)) := by
        rcases he with he | he
        · exact .inl (he ▸ hend)
        · exact .inr (he ▸ hend)
      exact EndsAt.unsent hread
    refine ⟨a.request.frame.bytes, ?_⟩
    rw [hlog]
    exact List.mem_flatMap.mpr ⟨a, ha, (hframed a ha).unsent cause hreply⟩

end MeterPolling
