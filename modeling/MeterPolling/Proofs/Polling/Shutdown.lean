import MeterPolling.Bench
import MeterPolling.Proofs.Polling.Accounting
import MeterPolling.Proofs.Polling.Sightings

namespace MeterPolling

variable {σ ε : Type}

/-- What is known of a leg, when the loop and the executor hold the token or do not. -/
structure Leg.Sound (registry : Registry) (category : Category) (driver executor : Bool) (leg : Leg ε) :
    Prop where
  account : CycleAccount registry category (leg.calls.map Prod.fst) leg.result
  inTime : executor → ∀ c ∈ leg.calls, c.2 = false
  begun : driver → leg.late = false
  cut : leg.interrupted → executor ∧ leg.ended
  climbs : Climbs leg.late (leg.calls.map Prod.snd) leg.ended

inductive Judged (p : Pace) (s : Summary) (leg : Leg ε) : Verdict ε → Prop
  | unreported {e : ε} (outcome : leg.outcome = .error e) : Judged p s leg (.done (.error (.report e)))
  | done {result : Except (PollError ε) Summary} (outcome : leg.outcome = .ok ())
      (verdict : Verdict.of p.stopOnError s leg.result = .done result) : Judged p s leg (.done result)
  | beyondClock {s' : Summary} (outcome : leg.outcome = .ok ())
      (verdict : Verdict.of (ε := ε) p.stopOnError s leg.result = .goOn s') :
      Judged p s leg (.done (.error .beyondClock))
  | goesOn {s' : Summary} (outcome : leg.outcome = .ok ())
      (verdict : Verdict.of (ε := ε) p.stopOnError s leg.result = .goOn s') : Judged p s leg (.goOn s')

theorem verdict_error {stopOnError : Bool} {s : Summary} {result : CycleResult} {e : PollError ε}
    (h : Verdict.of stopOnError s result = .done (.error e)) :
    ∃ a, result = .error a ∧ e = .aborted a ∧ (a.error.isPlan ∨ stopOnError) := by
  cases result with
  | ok c => cases h
  | error a =>
    rw [Verdict.of_error] at h
    split at h
    next => cases h
    next =>
      split at h
      next hp =>
        cases h
        exact ⟨a, rfl, rfl, (Bool.or_eq_true _ _).mp hp⟩
      next => cases h

section Rounds

variable {token : σ → Bool} {watch : Watch (StateM σ)} {x : Executor (StateM σ)} {driver executor : Bool}
  {client : Client (StateM σ)} {report : CycleResult → StateM σ (Except ε Unit)} (p : Pace)

theorem finished_sighted (token : σ → Bool) (watch : Watch (StateM σ)) (s : Summary) (v : Seen σ ε) :
    (finished p (watch.sighted token) s).run v =
      let look := watch.stopped.run v.world
      (look.1 || p.reached s, { v with world := look.2 }) := by
  rcases hl : watch.stopped.run v.world with ⟨stop, w'⟩
  cases stop with
  | true => simp [finished, Watch.sighted, hl]
  | false => simp [finished, Watch.sighted, hl]

theorem awaitNext_sighted (lasting : Lasting token watch x client report)
    (holding : Holding token driver watch.stopped) (start : TimeSpan) (s : Summary) (v : Seen σ ε) :
    ∃ (verdict : Verdict ε) (w' : σ),
      (awaitNext p (watch.sighted token) start s).run v = (verdict, { v with world := w' }) ∧
      (token v.world → token w') ∧
      (verdict = .goOn s ∨ verdict = .done (.error .beyondClock) ∧ (driver → token w' = false)) := by
  by_cases hi : p.interval.nanoseconds = 0
  · exact ⟨.goOn s, v.world, by simp [awaitNext, hi], id, .inl rfl⟩
  · have hlook := finished_sighted p token watch s v
    obtain ⟨hstop, hstays⟩ := holding v.world
    rcases hl : watch.stopped.run v.world with ⟨stop, w₁⟩
    rw [hl] at hlook hstop hstays
    by_cases hf : stop || p.reached s
    · refine ⟨.goOn s, w₁, ?_, hstays, .inl rfl⟩
      simp [awaitNext, hi, hlook, hf]
    · by_cases hn : TimeSpan.onClock ⟨start.nanoseconds + p.interval.nanoseconds⟩
      · refine ⟨.goOn s, ((watch.waitUntil ⟨start.nanoseconds + p.interval.nanoseconds⟩).run w₁).2, ?_,
          fun h => lasting.waitUntil _ w₁ (hstays h), .inl rfl⟩
        simp [awaitNext, hi, hlook, hf, hn]
      · refine ⟨.done (.error .beyondClock), w₁, ?_, hstays, .inr ⟨rfl, ?_⟩⟩
        · simp [awaitNext, hi, hlook, hf, hn]
        · rintro rfl
          have hnone : stop = false := by
            rw [Bool.not_eq_true] at hf
            exact (Bool.or_eq_false_iff.mp hf).1
          exact hstop.symm.trans hnone

def sightedRound (token : σ → Bool) (watch : Watch (StateM σ)) (x : Executor (StateM σ))
    (category : Category) (client : Client (StateM σ))
    (report : CycleResult → StateM σ (Except ε Unit)) (s : Summary) : StateM (Seen σ ε) (Verdict ε) :=
  pollOnce p (watch.sighted token) (sightedCycle token x category client) (sightedReport token report) s

theorem sightedRound_run (lasting : Lasting token watch x client report)
    (loop : Holding token driver watch.stopped) (holding : Holding token executor x.stopped)
    (category : Category) (s : Summary) {v : Seen σ ε} (begun : driver → token v.world = false) :
    ∃ (leg : Leg ε) (verdict : Verdict ε) (v' : Seen σ ε),
      (sightedRound p token watch x category client report s).run v = (verdict, v') ∧
      v'.sights = v.sights ++ leg.sights ∧
      Climbs (token v.world) (leg.sights.map Sight.late) (token v'.world) ∧
      leg.Sound x.registry category driver executor ∧ Judged p s leg verdict ∧
      (verdict = .done (.error .beyondClock) → driver → token v'.world = false) := by
  let v₁ : Seen σ ε := ⟨(watch.now.run v.world).2, v.sights ++ [⟨.started, token v.world⟩]⟩
  obtain ⟨calls, result, v₂, hcycle, hsights, hclimbs, hinTime, haccount, hcut⟩ :=
    sightedCycle_run lasting holding category v₁
  rcases ho : (report result).run v₂.world with ⟨outcome, w₃⟩
  have hreported : token v₂.world → token w₃ := by
    have hstays := lasting.report result v₂.world
    rwa [ho] at hstays
  let leg : Leg ε := ⟨token v.world, calls, result, token v₂.world, outcome, token w₃⟩
  let v₃ : Seen σ ε := ⟨w₃, v.sights ++ leg.sights⟩
  have hnotes : v₂.sights ++ [⟨.reported result outcome, token w₃⟩] = v.sights ++ leg.sights := by
    simp [hsights, v₁, leg, Leg.sights]
  have hlegClimbs : ∀ {w' : σ}, (token w₃ → token w') →
      Climbs (token v.world) (leg.sights.map Sight.late) (token w') := by
    intro w' hw'
    have hstart : Climbs (token v.world) [token v.world] (token v₁.world) :=
      .cons id (.nil (lasting.loopNow v.world))
    have hend : Climbs (token v₂.world) [token v₂.world, token w₃] (token w') :=
      .cons id (.cons hreported (.nil hw'))
    have hall := (hstart.append hclimbs).append hend
    simpa [leg, Leg.sights, Function.comp_def] using hall
  have hsound : leg.Sound x.registry category driver executor := by
    refine ⟨haccount, hinTime, begun, ?_, hclimbs.weaken (lasting.loopNow v.world)⟩
    intro hi
    cases hr : result with
    | ok c => simp [leg, Leg.interrupted, hr] at hi
    | error a => exact hcut a hr (by simpa [leg, Leg.interrupted, hr] using hi)
  have hcycle' := hcycle
  simp only [v₁] at hcycle'
  cases outcome with
  | error e =>
    refine ⟨leg, _, v₃, ?_, rfl, hlegClimbs id, hsound, .unreported rfl, by simp⟩
    simp [sightedRound, pollOnce_eq, hcycle', ho, hnotes, v₃]
  | ok _ =>
    cases hv : Verdict.of (ε := ε) p.stopOnError s result with
    | done ending =>
      have hjudged : Judged p s leg (.done ending) := .done rfl hv
      refine ⟨leg, _, v₃, ?_, rfl, hlegClimbs id, hsound, hjudged, ?_⟩
      · simp [sightedRound, pollOnce_eq, hcycle', ho, hnotes, hv, v₃]
      · intro he
        cases he
        obtain ⟨_, _, hnot, _⟩ := verdict_error hv
        cases hnot
    | goOn s' =>
      obtain ⟨verdict, w', hwait, hstays, hverdict⟩ :=
        awaitNext_sighted p lasting loop (watch.now.run v.world).1 s' v₃
      refine ⟨leg, verdict, ⟨w', v₃.sights⟩, ?_, rfl, hlegClimbs hstays, hsound, ?_, ?_⟩
      · simp only [v₃] at hwait
        simp [sightedRound, pollOnce_eq, hcycle', ho, hnotes, hv, hwait, v₃]
      · rcases hverdict with he | ⟨he, _⟩
        · rw [he]
          exact .goesOn rfl hv
        · rw [he]
          exact .beyondClock rfl hv
      · intro hdone hdriver
        rcases hverdict with he | ⟨_, hcalm⟩
        · rw [he] at hdone
          cases hdone
        · exact hcalm hdriver

end Rounds

/--
The loop from its head to its end: the counters, the state of the token before and after, the legs, and the
result.
-/
inductive Course (registry : Registry) (category : Category) (driver executor : Bool) (p : Pace) :
    Summary → Bool → List (Leg ε) → Option (Except (PollError ε) Summary) → Bool → Prop
  | outOfFuel {s : Summary} {b : Bool} : Course registry category driver executor p s b [] none b
  | halted {s : Summary} {b b' : Bool} (stays : b → b') :
      Course registry category driver executor p s b [] (some (.ok s)) b'
  | last {s : Summary} {b b' : Bool} {leg : Leg ε} {result : Except (PollError ε) Summary}
      (sound : leg.Sound registry category driver executor) (judged : Judged p s leg (.done result))
      (climbs : Climbs b (leg.sights.map Sight.late) b')
      (calm : result = .error .beyondClock → driver → b' = false) :
      Course registry category driver executor p s b [leg] (some result) b'
  | next {s s' : Summary} {b b₁ b' : Bool} {leg : Leg ε} {legs : List (Leg ε)}
      {result : Option (Except (PollError ε) Summary)}
      (sound : leg.Sound registry category driver executor) (judged : Judged p s leg (.goOn s'))
      (climbs : Climbs b (leg.sights.map Sight.late) b₁)
      (others : Course registry category driver executor p s' b₁ legs result b') :
      Course registry category driver executor p s b (leg :: legs) result b'

section Loop

variable {token : σ → Bool} {watch : Watch (StateM σ)} {x : Executor (StateM σ)} {driver executor : Bool}
  {client : Client (StateM σ)} {report : CycleResult → StateM σ (Except ε Unit)} (p : Pace)

theorem sightedPoll_succ (category : Category) (fuel : Nat) (s : Summary) :
    sightedPoll token p watch x category client report (fuel + 1) s = (do
      if ← finished p (watch.sighted token) s then return some (.ok s)
      match ← sightedRound p token watch x category client report s with
      | .done r => return some r
      | .goOn s => sightedPoll token p watch x category client report fuel s) := rfl

theorem sightedPoll_course (lasting : Lasting token watch x client report)
    (loop : Holding token driver watch.stopped) (holding : Holding token executor x.stopped)
    (category : Category) (fuel : Nat) (s : Summary) (v : Seen σ ε) :
    ∃ (legs : List (Leg ε)) (result : Option (Except (PollError ε) Summary)) (v' : Seen σ ε),
      (sightedPoll token p watch x category client report fuel s).run v = (result, v') ∧
      v'.sights = v.sights ++ legs.flatMap Leg.sights ∧
      Course x.registry category driver executor p s (token v.world) legs result (token v'.world) ∧
      (result = none → legs.length = fuel) := by
  induction fuel generalizing s v with
  | zero => exact ⟨[], none, v, rfl, by simp, .outOfFuel, fun _ => rfl⟩
  | succ fuel ih =>
    have hlook := finished_sighted p token watch s v
    obtain ⟨hstop, hstays⟩ := loop v.world
    rcases hl : watch.stopped.run v.world with ⟨stop, w₁⟩
    rw [hl] at hlook hstop hstays
    rw [sightedPoll_succ]
    by_cases hf : stop || p.reached s
    · refine ⟨[], some (.ok s), { v with world := w₁ }, ?_, by simp, .halted hstays, by simp⟩
      simp [hlook, hf]
    · have hnone : stop = false := by
        rw [Bool.not_eq_true] at hf
        exact (Bool.or_eq_false_iff.mp hf).1
      have hbegun : driver → token w₁ = false := by
        rintro rfl
        exact hstop.symm.trans hnone
      obtain ⟨leg, verdict, v₂, hround, hsights, hclimbs, hsound, hjudged, hcalm⟩ :=
        sightedRound_run p lasting loop holding category s (v := { v with world := w₁ }) hbegun
      have hall := hclimbs.weaken hstays
      cases verdict with
      | done result =>
        refine ⟨[leg], some result, v₂, ?_, by simpa using hsights,
          .last hsound hjudged hall fun he => hcalm (by rw [he]), by simp⟩
        simp [hlook, hf, hround]
      | goOn s' =>
        obtain ⟨legs, result, v', hrest, hmore, hcourse, hfuel⟩ := ih s' v₂
        refine ⟨leg :: legs, result, v', ?_, ?_, .next hsound hjudged hall hcourse, ?_⟩
        · simp [hlook, hf, hround, hrest]
        · simp [hmore, hsights]
        · intro he
          rw [List.length_cons, hfuel he]

end Loop

namespace Leg.Sound

variable {registry : Registry} {category : Category} {driver executor : Bool} {leg : Leg ε}

theorem no_calls (h : leg.Sound registry category driver executor) (hexecutor : executor)
    (hlate : leg.late) : leg.calls = [] := by
  refine List.eq_nil_iff_forall_not_mem.mpr ?_
  intro c hc
  have hlater := h.climbs.all hlate c.2 (List.mem_map_of_mem hc)
  rw [h.inTime hexecutor c hc] at hlater
  cases hlater

theorem late_interrupted (h : leg.Sound registry category driver executor) (hexecutor : executor)
    (hlate : leg.late) {plan : Plan} (known : registry.get category = .ok plan) {c : Command}
    {rest : List Command} (hplan : plan.commands = c :: rest) :
    ∃ elapsed, leg.result = .error ⟨plan.category, [], elapsed, .interrupted c.name⟩ := by
  have haccount := h.account
  rw [h.no_calls hexecutor hlate, List.map_nil] at haccount
  generalize hcalls : ([] : List Call) = calls at haccount
  generalize leg.result = result at haccount ⊢
  cases haccount with
  | planless missing => cases known.symm.trans missing
  | through known' _ =>
    cases known.symm.trans known'
    simp [hplan] at hcalls
  | failed => simp at hcalls
  | @interrupted plan' before after d outcomes elapsed known' hcut outcomesOf =>
    cases known.symm.trans known'
    have hbefore : before = [] := by simpa using hcalls.symm
    subst hbefore
    have houtcomes : outcomes = [] := by simpa [OutcomesOf] using outcomesOf
    subst houtcomes
    obtain ⟨hc, _⟩ := List.cons.inj (hplan.symm.trans hcut)
    subst hc
    exact ⟨elapsed, rfl⟩

end Leg.Sound

theorem verdict_goOn_own {stopOnError : Bool} {s s' : Summary} {result : CycleResult}
    (h : Verdict.of (ε := ε) stopOnError s result = .goOn s') {a : Aborted} (ha : result = .error a) :
    a.error.isInterrupted = false ∧ a.error.isPlan = false := by
  subst ha
  rw [Verdict.of_error] at h
  split at h
  next => cases h
  next hi =>
    split at h
    next => cases h
    next hp =>
      rw [Bool.not_eq_true] at hi hp
      exact ⟨hi, (Bool.or_eq_false_iff.mp hp).1⟩

theorem verdict_interrupted {stopOnError : Bool} {s : Summary} {a : Aborted}
    (hi : a.error.isInterrupted) : Verdict.of (ε := ε) stopOnError s (.error a) = .done (.ok s) := by
  rw [Verdict.of_error, if_pos hi]

namespace Leg

variable {p : Pace} {s : Summary} {leg : Leg ε}

theorem interrupted_iff : leg.interrupted ↔ ∃ a, leg.result = .error a ∧ a.error.isInterrupted := by
  unfold interrupted
  cases leg.result with
  | ok c => simp
  | error a => simp

theorem goesOn_not_interrupted {s' : Summary} (h : Judged p s leg (.goOn s')) : leg.interrupted = false := by
  cases h with
  | goesOn outcome verdict =>
    rw [← Bool.not_eq_true, interrupted_iff]
    rintro ⟨a, ha, hi⟩
    rw [(verdict_goOn_own verdict ha).1] at hi
    cases hi

theorem done_interrupted {result : Except (PollError ε) Summary} (h : Judged p s leg (.done result))
    (hi : leg.interrupted) (hreported : leg.outcome = .ok ()) : result = .ok s := by
  obtain ⟨a, ha, hia⟩ := interrupted_iff.mp hi
  cases h with
  | unreported outcome => cases hreported.symm.trans outcome
  | done _ verdict =>
    rw [ha, verdict_interrupted hia] at verdict
    cases verdict
    rfl
  | beyondClock _ verdict =>
    rw [ha, verdict_interrupted hia] at verdict
    cases verdict

end Leg

/--
What shutting down comes to, given who holds the token, whether it is cancelled in the end, the legs and the
result.
-/
structure ShutDown (p : Pace) (registry : Registry) (category : Category) (driver executor cancelled : Bool)
    (legs : List (Leg ε)) (result : Option (Except (PollError ε) Summary)) : Prop where
  /-- Every call in a cycle has its outcome in the result that is reported, or is what the cycle failed at. -/
  accounts : ∀ leg ∈ legs, CycleAccount registry category (leg.calls.map Prod.fst) leg.result
  noLateCall : executor → ∀ leg ∈ legs, ∀ c ∈ leg.calls, c.2 = false
  noLateCycle : driver → ∀ leg ∈ legs, leg.late = false
  oneReport : driver → legs.countP Leg.ended ≤ 1
  runsThrough : executor = false → ∀ leg ∈ legs, leg.interrupted = false
  firstInterrupted : executor → ∀ leg ∈ legs, leg.late → ∀ plan c rest,
    registry.get category = .ok plan → plan.commands = c :: rest → leg.calls = [] ∧
      ∃ elapsed, leg.result = .error ⟨plan.category, [], elapsed, .interrupted c.name⟩
  interruptedLast : ∀ leg ∈ legs, leg.interrupted → leg.ended ∧ legs.getLast? = some leg ∧
    (leg.outcome = .ok () → ∃ s, result = some (.ok s))
  unreported : ∀ cause, result = some (.error (.report cause)) →
    ∃ leg, legs.getLast? = some leg ∧ leg.outcome = .error cause
  aborted : ∀ a, result = some (.error (.aborted a)) →
    ∃ leg, legs.getLast? = some leg ∧ leg.result = .error a ∧ (a.error.isPlan ∨ p.stopOnError)
  beyondClock : result = some (.error .beyondClock) → driver → cancelled = false

namespace Course

variable {registry : Registry} {category : Category} {driver executor : Bool} {p : Pace} {s : Summary}
  {b b' : Bool} {leg : Leg ε} {legs : List (Leg ε)} {result : Option (Except (PollError ε) Summary)}

theorem climbs (h : Course registry category driver executor p s b legs result b') :
    Climbs b ((legs.flatMap Leg.sights).map Sight.late) b' := by
  induction h with
  | outOfFuel => exact .nil id
  | halted stays => exact .nil stays
  | last _ _ climbs _ => simpa using climbs
  | next _ _ climbs _ ih =>
    rw [List.flatMap_cons, List.map_append]
    exact climbs.append ih

theorem sound (h : Course registry category driver executor p s b legs result b') :
    ∀ leg ∈ legs, leg.Sound registry category driver executor := by
  induction h with
  | outOfFuel => simp
  | halted => simp
  | last sound => simpa using sound
  | next sound _ _ _ ih => exact List.forall_mem_cons.mpr ⟨sound, ih⟩

theorem first_late (h : Course registry category driver executor p s true (leg :: legs) result b') :
    leg.late := by
  have hclimbs := h.climbs
  rw [List.flatMap_cons, List.map_append] at hclimbs
  exact hclimbs.all rfl leg.late (by simp [Leg.sights])

theorem oneReport (h : Course registry category driver executor p s b legs result b')
    (hdriver : driver) : legs.countP Leg.ended ≤ 1 := by
  induction h with
  | outOfFuel => simp
  | halted => simp
  | last =>
    rw [List.countP_singleton]
    split <;> omega
  | @next _ _ _ _ _ leg legs _ _ _ climbs others ih =>
    rw [List.countP_cons]
    by_cases he : leg.ended
    · -- Once the token is cancelled, the loop turns to no other cycle.
      have hlate := climbs.ends leg.ended (by simp [Leg.sights]) he
      have hnil : legs = [] := by
        cases legs with
        | nil => rfl
        | cons next more =>
          rw [hlate] at others
          have hfirst := others.first_late
          rw [(others.sound next (List.mem_cons_self ..)).begun hdriver] at hfirst
          cases hfirst
      subst hnil
      simp [he]
    · simpa [he] using ih

theorem interruptedLast (h : Course registry category driver executor p s b legs result b') :
    ∀ leg ∈ legs, leg.interrupted → leg.ended ∧ legs.getLast? = some leg ∧
      (leg.outcome = .ok () → ∃ s, result = some (.ok s)) := by
  induction h with
  | outOfFuel => simp
  | halted => simp
  | @last s _ _ leg result sound judged _ _ =>
    intro other hmem hi
    have he := List.mem_singleton.mp hmem
    subst he
    refine ⟨(sound.cut hi).2, rfl, ?_⟩
    intro hreported
    exact ⟨s, congrArg some (Leg.done_interrupted judged hi hreported)⟩
  | @next _ _ _ _ _ leg legs _ _ judged _ _ ih =>
    intro other hmem hi
    rcases List.mem_cons.mp hmem with he | hmem
    · subst he
      rw [Leg.goesOn_not_interrupted judged] at hi
      cases hi
    · obtain ⟨hended, hlast, hresult⟩ := ih other hmem hi
      refine ⟨hended, ?_, hresult⟩
      rw [List.getLast?_cons, hlast]
      rfl

theorem failure {e : PollError ε} (h : Course registry category driver executor p s b legs result b')
    (hresult : result = some (.error e)) :
    ∃ leg s, legs.getLast? = some leg ∧ Judged p s leg (.done (.error e)) ∧
      (e = .beyondClock → driver → b' = false) := by
  induction h with
  | outOfFuel => cases hresult
  | halted => cases hresult
  | @last s _ _ leg _ _ judged _ calm =>
    cases hresult
    refine ⟨leg, s, rfl, judged, ?_⟩
    rintro rfl
    exact calm rfl
  | next _ _ _ _ ih =>
    obtain ⟨leg, s, hlast, hjudged, hcalm⟩ := ih hresult
    refine ⟨leg, s, ?_, hjudged, hcalm⟩
    rw [List.getLast?_cons, hlast]
    rfl

theorem shutDown (h : Course registry category driver executor p s b legs result b') :
    ShutDown p registry category driver executor b' legs result := by
  refine ⟨fun leg hleg => (h.sound leg hleg).account, fun hx leg hleg => (h.sound leg hleg).inTime hx,
    fun hd leg hleg => (h.sound leg hleg).begun hd, h.oneReport, ?_, ?_, h.interruptedLast, ?_, ?_, ?_⟩
  · intro hnone leg hleg
    rw [← Bool.not_eq_true]
    intro hi
    rw [((h.sound leg hleg).cut hi).1] at hnone
    cases hnone
  · intro hx leg hleg hlate plan c rest known hplan
    exact ⟨(h.sound leg hleg).no_calls hx hlate,
      (h.sound leg hleg).late_interrupted hx hlate known hplan⟩
  · intro cause hresult
    obtain ⟨leg, s, hlast, hjudged, _⟩ := h.failure hresult
    refine ⟨leg, hlast, ?_⟩
    cases hjudged with
    | unreported outcome => exact outcome
    | done _ verdict =>
      obtain ⟨_, _, hnot, _⟩ := verdict_error verdict
      cases hnot
  · intro a hresult
    obtain ⟨leg, s, hlast, hjudged, _⟩ := h.failure hresult
    refine ⟨leg, hlast, ?_⟩
    cases hjudged with
    | done _ verdict =>
      obtain ⟨_, hleg, he, hcause⟩ := verdict_error verdict
      cases he
      exact ⟨hleg, hcause⟩
  · intro hresult
    obtain ⟨_, _, _, _, hcalm⟩ := h.failure hresult
    exact hcalm rfl

end Course

theorem Course.stops {registry : Registry} {category : Category} {driver executor : Bool} {p : Pace}
    {s : Summary} {b' : Bool} {legs : List (Leg ε)} {result : Option (Except (PollError ε) Summary)}
    (h : Course registry category driver executor p s true legs result b') (hlegs : legs ≠ [])
    (holds : driver ∨ executor ∧ ∀ plan, registry.get category = .ok plan → plan.commands ≠ []) :
    result.isSome := by
  cases h with
  | outOfFuel => exact absurd rfl hlegs
  | halted => rfl
  | last => rfl
  | @next _ _ _ _ _ leg _ _ sound judged climbs _ =>
    have hlate : leg.late := climbs.all rfl leg.late (by simp [Leg.sights])
    exfalso
    rcases holds with hdriver | ⟨hexecutor, hplans⟩
    · rw [sound.begun hdriver] at hlate
      cases hlate
    · cases known : registry.get category with
      | ok plan =>
        obtain ⟨c, rest, hplan⟩ := List.exists_cons_of_ne_nil (hplans plan known)
        obtain ⟨elapsed, hresult⟩ := sound.late_interrupted hexecutor hlate known hplan
        have hi : leg.interrupted := Leg.interrupted_iff.mpr ⟨_, hresult, rfl⟩
        rw [Leg.goesOn_not_interrupted judged] at hi
        cases hi
      | error cause =>
        have haccount := sound.account
        cases judged with
        | goesOn _ verdict =>
          generalize leg.result = result at haccount verdict
          generalize leg.calls.map Prod.fst = calls at haccount
          cases haccount with
          | planless => cases verdict
          | through known' => cases known.symm.trans known'
          | failed known' => cases known.symm.trans known'
          | interrupted known' => cases known.symm.trans known'

theorem poll_extends {p : Pace} {watch : Watch (StateM σ)} {cycle : StateM σ CycleResult}
    {report : CycleResult → StateM σ (Except ε Unit)} {fuel : Nat} {s : Summary} {w w' : σ}
    (h : (poll p watch cycle report fuel s).run w = (none, w')) :
    ∃ s', ∀ more, (poll p watch cycle report (fuel + more) s).run w =
      (poll p watch cycle report more s').run w' := by
  induction fuel generalizing s w with
  | zero =>
    cases h
    refine ⟨s, ?_⟩
    intro more
    rw [Nat.zero_add]
  | succ fuel ih =>
    rcases hf : (finished p watch s).run w with ⟨full, w₁⟩
    cases full with
    | true =>
      have hend := congrArg Prod.fst h
      simp [poll, hf] at hend
    | false =>
      rcases hr : (pollOnce p watch cycle report s).run w₁ with ⟨verdict, w₂⟩
      cases verdict with
      | done result =>
        have hend := congrArg Prod.fst h
        simp [poll, hf, hr] at hend
      | goOn s₁ =>
        have hrest : (poll p watch cycle report fuel s₁).run w₂ = (none, w') := by
          simpa [poll, hf, hr] using h
        obtain ⟨s', hmore⟩ := ih hrest
        refine ⟨s', ?_⟩
        intro more
        rw [Nat.succ_add, ← hmore more]
        simp [poll, hf, hr]

namespace Bench

variable {b : Bench}

theorem stopped_sleepUntil (h : b.stopped) (t : TimeSpan) : (b.sleepUntil t).stopped := by
  unfold sleepUntil
  split
  next => simp [h]
  next => exact h

theorem stopped_waitUntil (h : b.stopped) (t : TimeSpan) : (b.waitUntil t).stopped := by
  unfold waitUntil
  rwa [if_pos h]

theorem stopped_arrive (h : b.stopped) : b.arrive.2.stopped := by
  have hslept := stopped_sleepUntil (b := { b with calls := b.calls + 1 }) h (b.now.pauseEnd b.delay)
  unfold arrive
  simp only
  split
  next => simp [hslept]
  next => simp [hslept]

theorem read_world (register count : UInt16) (b : Bench) :
    ((client.read register count).run b).2 = b.arrive.2 := by
  rcases ha : b.arrive with ⟨reply, b'⟩
  rcases reply with _ | ⟨words⟩ | ⟨cause⟩
  · cases hb : b'.bank with
    | none => simp [client, read, ha, hb]
    | some bank => simp [client, read, ha, hb]
  · simp [client, read, ha]
  · simp [client, read, ha]

theorem write_world (register : UInt16) (values : List UInt16) (b : Bench) :
    ∃ bank, ((client.write register values).run b).2 = { b.arrive.2 with bank } := by
  rcases ha : b.arrive with ⟨reply, b'⟩
  rcases reply with _ | ⟨words⟩ | ⟨cause⟩
  · cases hb : b'.bank with
    | none =>
      have hsame : ((client.write register values).run b).2 = b' := by simp [client, write, ha, hb]
      exact ⟨b'.bank, hsame⟩
    | some bank => exact ⟨some (bank.write register values), by simp [client, write, ha, hb]⟩
  · exact ⟨b'.bank, by simp [client, write, ha]⟩
  · exact ⟨b'.bank, by simp [client, write, ha]⟩

theorem lasting (registry : Registry) (driver executor : Bool)
    {report : CycleResult → StateM Bench (Except ε Unit)}
    (hreport : ∀ result (b : Bench), b.stopped → ((report result).run b).2.stopped) :
    Lasting (·.stopped) (watch driver) (Bench.executor registry executor) client report where
  read register count b h := by
    rw [read_world]
    exact stopped_arrive h
  write register values b h := by
    obtain ⟨bank, hw⟩ := write_world register values b
    rw [hw]
    exact stopped_arrive h
  report := hreport
  waitUntil t b h := by
    cases driver with
    | true => exact stopped_waitUntil h t
    | false => exact stopped_sleepUntil h t
  loopNow _ h := h
  now _ h := h

theorem watch_holding (driver : Bool) : Holding (·.stopped) driver (watch driver).stopped :=
  fun _ => ⟨rfl, id⟩

theorem executor_holding (registry : Registry) (executor : Bool) :
    Holding (·.stopped) executor (Bench.executor registry executor).stopped :=
  fun _ => ⟨rfl, id⟩

end Bench

/--
Polling under a token that is cancelled at any time, in a call, in a report, in a wait or between these, and that
the loop and the executor hold or do not hold. What happens is a sequence of cycles, each with its report, and
once something is late, so is all that follows. Then the rules of `ShutDown` hold. If polling has not ended when
the token is cancelled, it ends with at most one more cycle, unless only an executor holds the token that has no
command to be interrupted at.
-/
theorem shutdown_safety (token : σ → Bool) (p : Pace) (watch : Watch (StateM σ))
    (x : Executor (StateM σ)) (category : Category) (client : Client (StateM σ))
    (report : CycleResult → StateM σ (Except ε Unit)) (driver executor : Bool) (fuel : Nat) (w : σ)
    (lasting : Lasting token watch x client report) (loop : Holding token driver watch.stopped)
    (holding : Holding token executor x.stopped) :
    ∃ (legs : List (Leg ε)) (result : Option (Except (PollError ε) Summary)) (w' : σ),
      (sightedPoll token p watch x category client report fuel {}).run { world := w } =
        (result, ⟨w', legs.flatMap Leg.sights⟩) ∧
      (poll p watch (x.runCycle category client) report fuel {}).run w = (result, w') ∧
      (token w :: (legs.flatMap Leg.sights).map Sight.late ++ [token w']).Pairwise
        (fun earlier later : Bool => earlier → later) ∧
      ShutDown p x.registry category driver executor (token w') legs result ∧
      (result = none → token w' →
        (driver ∨ executor ∧ ∀ plan, x.registry.get category = .ok plan → plan.commands ≠ []) →
        ∃ ending w'', (poll p watch (x.runCycle category client) report (fuel + 1) {}).run w =
          (some ending, w'')) := by
  let start : Seen σ ε := { world := w }
  obtain ⟨legs, result, ⟨w', sights⟩, hrun, hsights, hcourse, _⟩ :=
    sightedPoll_course p lasting loop holding category fuel {} start
  have hlegs : sights = legs.flatMap Leg.sights := hsights.trans (List.nil_append _)
  subst hlegs
  have herased : (poll p watch (x.runCycle category client) report fuel {}).run w = (result, w') := by
    rw [sightedPoll_erased token p watch x category client report fuel {} start, hrun]
  refine ⟨legs, result, w', hrun, herased, hcourse.climbs.pairwise, hcourse.shutDown, ?_⟩
  intro hnone hcancelled holds
  rw [hnone] at herased
  obtain ⟨s', hmore⟩ := poll_extends herased
  obtain ⟨more, ending, v'', hrun', _, hcourse', hfuel⟩ :=
    sightedPoll_course p lasting loop holding category 1 s' { world := w' }
  rw [hcancelled] at hcourse'
  have hsome : ending.isSome := by
    cases hending : ending with
    | some r => rfl
    | none =>
      have hne : more ≠ [] := by
        intro hnil
        have hone := hfuel hending
        simp [hnil] at hone
      rw [← hending]
      exact hcourse'.stops hne holds
  obtain ⟨r, hr⟩ := Option.isSome_iff_exists.mp hsome
  refine ⟨r, v''.world, ?_⟩
  rw [hmore 1, sightedPoll_erased token p watch x category client report 1 s' { world := w' }, hrun', hr]

/-- A stop during the first call of a cycle that would go on without end, and only the executor sees it. -/
theorem shutdown_safety_bench :
    let watch := Bench.watch false
    let x := Bench.executor .builtin true
    let report : CycleResult → StateM Bench (Except String Unit) := fun _ => pure (.ok ())
    let b : Bench := { stopAtCall := some 1, bank := some {} }
    Lasting (·.stopped) watch x Bench.client report ∧
      Holding (·.stopped) false watch.stopped ∧ Holding (·.stopped) true x.stopped ∧
    ∃ (legs : List (Leg String)) (result : Option (Except (PollError String) Summary)) (w' : Bench),
      (sightedPoll (·.stopped) {} watch x .abb Bench.client report 3 {}).run { world := b } =
        (result, ⟨w', legs.flatMap Leg.sights⟩) ∧
      (poll {} watch (x.runCycle .abb Bench.client) report 3 {}).run b = (result, w') ∧
      (b.stopped :: (legs.flatMap Leg.sights).map Sight.late ++ [w'.stopped]).Pairwise
        (fun earlier later : Bool => earlier → later) ∧
      ShutDown {} x.registry .abb false true w'.stopped legs result ∧
      (result = none → w'.stopped →
        (false ∨ true ∧ ∀ plan, x.registry.get .abb = .ok plan → plan.commands ≠ []) →
        ∃ ending w'', (poll {} watch (x.runCycle .abb Bench.client) report (3 + 1) {}).run b =
          (some ending, w'')) := by
  intro watch x report b
  have hlasting : Lasting (·.stopped) watch x Bench.client report :=
    Bench.lasting .builtin false true fun _ _ h => h
  obtain ⟨legs, result, w', hrun, herased, hlater, hrules, hends⟩ :=
    shutdown_safety (·.stopped) {} watch x .abb Bench.client report false true 3 b hlasting
      (Bench.watch_holding false) (Bench.executor_holding .builtin true)
  exact ⟨hlasting, Bench.watch_holding false, Bench.executor_holding .builtin true, legs, result, w',
    hrun, herased, hlater, hrules, hends⟩

end MeterPolling
