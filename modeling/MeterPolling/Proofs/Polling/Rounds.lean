import MeterPolling.Proofs.Effect
import MeterPolling.Proofs.Polling.Simulation

namespace MeterPolling

inductive PollEvent (ε : Type) where
  | looked (stop : Bool)
  | started
  | called (call : Call)
  | ended (result : CycleResult)
  | reported (result : CycleResult) (outcome : Except ε Unit)
  | waited (next : TimeSpan)

namespace PollEvent

variable {ε : Type}

def inCycle : PollEvent ε → Bool
  | .looked _ | .called _ => true
  | _ => false

def inPause : PollEvent ε → Bool
  | .looked _ | .waited _ => true
  | _ => false

end PollEvent

section Noted

variable {m : Type → Type} [Monad m] {ε : Type}

def noting {α : Type} (event : α → PollEvent ε) (x : m α) : StateT (List (PollEvent ε)) m α := do
  let a ← x
  modify (· ++ [event a])
  return a

def Client.noted (client : Client m) : Client (StateT (List (PollEvent ε)) m) where
  read register count := do
    modify (· ++ [.called (.read register count)])
    client.read register count
  write register values := do
    modify (· ++ [.called (.write register values)])
    client.write register values

def Watch.noted (watch : Watch m) : Watch (StateT (List (PollEvent ε)) m) where
  now := StateT.lift watch.now
  waitUntil t := noting (fun _ => .waited t) (watch.waitUntil t)
  stopped := noting .looked watch.stopped

def Executor.noted (x : Executor m) : Executor (StateT (List (PollEvent ε)) m) :=
  ⟨x.registry, noting .looked x.stopped, StateT.lift x.now⟩

def Executor.notedCycle (x : Executor m) (category : Category) (client : Client m) :
    StateT (List (PollEvent ε)) m CycleResult := do
  modify (· ++ [.started])
  let result ← x.noted.runCycle category client.noted
  modify (· ++ [.ended result])
  return result

def notedReport (report : CycleResult → m (Except ε Unit)) (result : CycleResult) :
    StateT (List (PollEvent ε)) m (Except ε Unit) :=
  noting (.reported result) (report result)

end Noted

def CycleError.isInterrupted : CycleError → Bool
  | .interrupted _ => true
  | _ => false

def CycleError.isPlan : CycleError → Bool
  | .plan _ => true
  | _ => false

structure Round (ε : Type) where
  during : List (PollEvent ε)
  result : CycleResult
  outcome : Except ε Unit
  after : List (PollEvent ε)
  asks : ∀ e ∈ during, e.inCycle
  pauses : ∀ e ∈ after, e.inPause
  /-- A cycle is cut short only when it is told to. -/
  told : ∀ a, result = .error a → a.error.isInterrupted → .looked true ∈ during

def Round.events {ε : Type} (r : Round ε) : List (PollEvent ε) :=
  [.looked false, .started] ++ r.during ++ [.ended r.result, .reported r.result r.outcome] ++ r.after

variable {σ ε : Type}

@[simp] theorem run_noting {α : Type} (event : α → PollEvent ε) (x : StateM σ α)
    (log : List (PollEvent ε)) (w : σ) :
    ((noting event x).run log).run w =
      (((x.run w).1, log ++ [event (x.run w).1]), (x.run w).2) := rfl

@[simp] theorem Client.run_read_noted (client : Client (StateM σ)) (register count : UInt16)
    (log : List (PollEvent ε)) (w : σ) :
    ((client.noted.read register count).run log).run w =
      let run := (client.read register count).run w
      ((run.1, log ++ [.called (.read register count)]), run.2) := rfl

@[simp] theorem Client.run_write_noted (client : Client (StateM σ)) (register : UInt16)
    (values : List UInt16) (log : List (PollEvent ε)) (w : σ) :
    ((client.noted.write register values).run log).run w =
      let run := (client.write register values).run w
      ((run.1, log ++ [.called (.write register values)]), run.2) := rfl

@[simp] theorem Watch.now_noted (watch : Watch (StateM σ)) :
    (watch.noted (ε := ε)).now = StateT.lift watch.now := rfl

@[simp] theorem Watch.waitUntil_noted (watch : Watch (StateM σ)) (t : TimeSpan) :
    (watch.noted (ε := ε)).waitUntil t = noting (fun _ => .waited t) (watch.waitUntil t) := rfl

theorem runCommand_noted (client : Client (StateM σ)) (c : Command) (log : List (PollEvent ε)) (w : σ) :
    ∃ call result w', ((runCommand client.noted c).run log).run w =
        ((result, log ++ [.called call]), w') ∧
      ∀ e, result = .error e → e.isInterrupted = false := by
  cases c with
  | read c =>
    rcases hr : (client.read c.register c.count).run w with ⟨reply, w'⟩
    refine ⟨.read c.register c.count, ?_⟩
    cases reply with
    | error cause =>
      refine ⟨.error (.read c.name cause), w', by simp [runCommand, hr], ?_⟩
      rintro _ ⟨⟩
      rfl
    | ok words =>
      cases hd : c.decode words with
      | error cause =>
        refine ⟨.error (.decode c.name cause), w', by simp [runCommand, hr, hd], ?_⟩
        rintro _ ⟨⟩
        rfl
      | ok value =>
        exact ⟨.ok ⟨c.name, c.register, .read value⟩, w', by simp [runCommand, hr, hd], by simp⟩
  | write c =>
    rcases hr : (client.write c.register c.values).run w with ⟨reply, w'⟩
    refine ⟨.write c.register c.values, ?_⟩
    cases reply with
    | error cause =>
      refine ⟨.error (.write c.name cause), w', by simp [runCommand, hr], ?_⟩
      rintro _ ⟨⟩
      rfl
    | ok _ =>
      exact ⟨.ok ⟨c.name, c.register, .wrote c.values⟩, w', by simp [runCommand, hr], by simp⟩

theorem runCommands_noted (client : Client (StateM σ)) (stopped : StateM σ Bool)
    (commands : List Command) (log : List (PollEvent ε)) (w : σ) :
    ∃ during outcomes failure w',
      ((runCommands client.noted (noting .looked stopped) commands).run log).run w =
        (((outcomes, failure), log ++ during), w') ∧
      (∀ e ∈ during, e.inCycle) ∧
      ∀ e, failure = some e → e.isInterrupted → .looked true ∈ during := by
  induction commands generalizing log w with
  | nil => exact ⟨[], [], none, w, by simp [runCommands], by simp, by simp⟩
  | cons c rest ih =>
    rcases ht : stopped.run w with ⟨stop, w₁⟩
    cases stop with
    | true =>
      refine ⟨[.looked true], [], some (.interrupted c.name), w₁, ?_, ?_, ?_⟩
      · simp [runCommands, ht]
      · simp [PollEvent.inCycle]
      · simp
    | false =>
      obtain ⟨call, result, w₂, hc, hown⟩ := runCommand_noted client c (log ++ [.looked false]) w₁
      cases result with
      | error e =>
        refine ⟨[.looked false, .called call], [], some e, w₂, ?_, ?_, ?_⟩
        · simp [runCommands, ht, hc]
        · simp [PollEvent.inCycle]
        · rintro _ ⟨⟩ hi
          simp [hown e rfl] at hi
      | ok outcome =>
        obtain ⟨during, outcomes, failure, w', hrest, hasks, htold⟩ :=
          ih (log ++ [.looked false, .called call]) w₂
        refine ⟨.looked false :: .called call :: during, outcome :: outcomes, failure, w', ?_, ?_, ?_⟩
        · simp [runCommands, ht, hc, hrest]
        · simpa [PollEvent.inCycle] using hasks
        · intro e he hi
          have hmem := htold e he hi
          simp [hmem]

theorem notedCycle_run (x : Executor (StateM σ)) (category : Category) (client : Client (StateM σ))
    (log : List (PollEvent ε)) (w : σ) :
    ∃ during result w', ((x.notedCycle category client).run log).run w =
        ((result, log ++ [.started] ++ during ++ [.ended result]), w') ∧
      (∀ e ∈ during, e.inCycle) ∧
      ∀ a, result = .error a → a.error.isInterrupted → .looked true ∈ during := by
  cases hp : x.registry.get category with
  | error cause =>
    refine ⟨[], .error ⟨category, [], .zero, .plan cause⟩, w, ?_, by simp, ?_⟩
    · simp [Executor.notedCycle, Executor.runCycle, Executor.noted, hp]
    · rintro _ ⟨⟩ hi
      simp [CycleError.isInterrupted] at hi
  | ok plan =>
    obtain ⟨during, outcomes, failure, w₁, hrun, hasks, htold⟩ :=
      runCommands_noted client x.stopped plan.commands (log ++ [.started]) (x.now.run w).2
    let elapsed : TimeSpan := ⟨(x.now.run w₁).1.nanoseconds - (x.now.run w).1.nanoseconds⟩
    cases failure with
    | none =>
      refine ⟨during, .ok ⟨plan.category, outcomes, elapsed⟩, (x.now.run w₁).2, ?_, hasks, by simp⟩
      simp [Executor.notedCycle, Executor.runCycle, Executor.execute, Executor.noted, hp, hrun, elapsed]
    | some e =>
      refine ⟨during, .error ⟨plan.category, outcomes, elapsed, e⟩, (x.now.run w₁).2, ?_, hasks, ?_⟩
      · simp [Executor.notedCycle, Executor.runCycle, Executor.execute, Executor.noted, hp, hrun,
          elapsed]
      · rintro _ ⟨⟩ hi
        exact htold e rfl hi

/-- How a round can go, from the counters before it. -/
inductive RoundStep (p : Pace) (s : Summary) (r : Round ε) : Verdict ε → Prop
  | unreported {e : ε} (outcome : r.outcome = .error e) (quiet : r.after = []) :
      RoundStep p s r (.done (.error (.report e)))
  | judged {result : Except (PollError ε) Summary} (outcome : r.outcome = .ok ())
      (verdict : Verdict.of p.stopOnError s r.result = .done result) (quiet : r.after = []) :
      RoundStep p s r (.done result)
  | beyondClock {s' : Summary} (outcome : r.outcome = .ok ())
      (verdict : Verdict.of (ε := ε) p.stopOnError s r.result = .goOn s') :
      RoundStep p s r (.done (.error .beyondClock))
  | goesOn {s' : Summary} (outcome : r.outcome = .ok ())
      (verdict : Verdict.of (ε := ε) p.stopOnError s r.result = .goOn s') :
      RoundStep p s r (.goOn s')

section Loop

variable (p : Pace) (watch : Watch (StateM σ)) (x : Executor (StateM σ)) (category : Category)
  (client : Client (StateM σ)) (report : CycleResult → StateM σ (Except ε Unit))

def notedRound (s : Summary) : StateT (List (PollEvent ε)) (StateM σ) (Verdict ε) :=
  pollOnce p watch.noted (x.notedCycle category client) (notedReport report) s

def awaitNext {m : Type → Type} [Monad m] (p : Pace) (watch : Watch m) (start : TimeSpan)
    (s : Summary) : m (Verdict ε) := do
  if p.interval.nanoseconds = 0 then return .goOn s
  if ← finished p watch s then return .goOn s
  let next : TimeSpan := ⟨start.nanoseconds + p.interval.nanoseconds⟩
  if !next.onClock then return .done (.error .beyondClock)
  watch.waitUntil next
  return .goOn s

theorem pollOnce_eq {m : Type → Type} [Monad m] (p : Pace) (watch : Watch m)
    (cycle : m CycleResult) (report : CycleResult → m (Except ε Unit)) (s : Summary) :
    pollOnce p watch cycle report s = (do
      let start ← watch.now
      let result ← cycle
      match ← report result with
      | .error e => return .done (.error (.report e))
      | .ok () =>
        match Verdict.of p.stopOnError s result with
        | .done r => return .done r
        | .goOn s => awaitNext p watch start s) := rfl

theorem finished_noted (s : Summary) (log : List (PollEvent ε)) (w : σ) :
    ((finished p watch.noted s).run log).run w =
      let token := watch.stopped.run w
      ((token.1 || p.reached s, log ++ [.looked token.1]), token.2) := by
  rcases ht : watch.stopped.run w with ⟨stop, w'⟩
  cases stop with
  | true => simp [finished, Watch.noted, ht]
  | false => simp [finished, Watch.noted, ht]

theorem awaitNext_noted (start : TimeSpan) (s : Summary) (log : List (PollEvent ε)) (w : σ) :
    ∃ after verdict w', ((awaitNext (ε := ε) p watch.noted start s).run log).run w =
        ((verdict, log ++ after), w') ∧
      (∀ e ∈ after, e.inPause) ∧ (verdict = .goOn s ∨ verdict = .done (.error .beyondClock)) := by
  by_cases hi : p.interval.nanoseconds = 0
  · exact ⟨[], .goOn s, w, by simp [awaitNext, hi], by simp, .inl rfl⟩
  · have hlook := finished_noted p watch s log w
    rcases ht : watch.stopped.run w with ⟨stop, w₁⟩
    rw [ht] at hlook
    by_cases hf : stop || p.reached s
    · refine ⟨[.looked stop], .goOn s, w₁, ?_, by simp [PollEvent.inPause], .inl rfl⟩
      simp [awaitNext, hi, hlook, hf]
    · by_cases hn : TimeSpan.onClock ⟨start.nanoseconds + p.interval.nanoseconds⟩
      · refine ⟨[.looked stop, .waited ⟨start.nanoseconds + p.interval.nanoseconds⟩], .goOn s,
          ((watch.waitUntil ⟨start.nanoseconds + p.interval.nanoseconds⟩).run w₁).2, ?_,
          by simp [PollEvent.inPause], .inl rfl⟩
        simp [awaitNext, hi, hlook, hf, hn]
      · refine ⟨[.looked stop], .done (.error .beyondClock), w₁, ?_, by simp [PollEvent.inPause],
          .inr rfl⟩
        simp [awaitNext, hi, hlook, hf, hn]

theorem notedRound_step (s : Summary) (log : List (PollEvent ε)) (w : σ) :
    ∃ r verdict w', ((notedRound p watch x category client report s).run
        (log ++ [.looked false])).run w = ((verdict, log ++ r.events), w') ∧
      RoundStep p s r verdict := by
  obtain ⟨during, result, w₁, hc, hasks, htold⟩ :=
    notedCycle_run x category client (log ++ [.looked false]) (watch.now.run w).2
  rcases ho : (report result).run w₁ with ⟨outcome, w₂⟩
  cases outcome with
  | error e =>
    refine ⟨⟨during, result, .error e, [], hasks, by simp, htold⟩, _, w₂, ?_, .unreported rfl rfl⟩
    simp [notedRound, pollOnce, notedReport, Round.events, hc, ho]
  | ok _ =>
    cases hv : Verdict.of (ε := ε) p.stopOnError s result with
    | done ending =>
      refine ⟨⟨during, result, .ok (), [], hasks, by simp, htold⟩, _, w₂, ?_, .judged rfl hv rfl⟩
      simp [notedRound, pollOnce, notedReport, Round.events, hc, ho, hv]
    | goOn s' =>
      obtain ⟨after, verdict, w', hwait, hpauses, hverdict⟩ := awaitNext_noted p watch
        (watch.now.run w).1 s' (log ++ [.looked false] ++ [.started] ++ during ++ [.ended result] ++
          [.reported result (.ok ())]) w₂
      refine ⟨⟨during, result, .ok (), after, hasks, hpauses, htold⟩, verdict, w', ?_, ?_⟩
      · simp only [List.append_assoc, List.cons_append, List.nil_append] at hwait
        rw [notedRound, pollOnce_eq]
        simp [notedReport, Round.events, hc, ho, hv, hwait]
      · rcases hverdict with he | he
        · rw [he]
          exact .goesOn rfl hv
        · rw [he]
          exact .beyondClock rfl hv

/-- What the loop may have done when it is at its head: the rounds, the counters, and the world. -/
inductive PollReach (w : σ) : List (Round ε) → Summary → σ → Prop
  | start : PollReach w [] {} w
  | next {rounds : List (Round ε)} {r : Round ε} {s s' : Summary} {w₁ w₂ w' : σ}
      (previous : PollReach w rounds s w₁) (token : watch.stopped.run w₁ = (false, w₂))
      (room : p.reached s = false) (step : RoundStep p s r (.goOn s'))
      (run : ((notedRound p watch x category client report s).run
          (rounds.flatMap Round.events ++ [.looked false])).run w₂ =
        ((.goOn s', (rounds ++ [r]).flatMap Round.events), w')) :
      PollReach w (rounds ++ [r]) s' w'

/-- How the loop ends from its head: a last round if there is one, the events behind it, and the result. -/
inductive PollEnd (s : Summary) :
    List (Round ε) → List (PollEvent ε) → Option (Except (PollError ε) Summary) → Prop
  | outOfFuel : PollEnd s [] [] none
  | stopped : PollEnd s [] [.looked true] (some (.ok s))
  | reached (full : p.reached s) : PollEnd s [] [.looked false] (some (.ok s))
  | last {r : Round ε} {result : Except (PollError ε) Summary} (room : p.reached s = false)
      (step : RoundStep p s r (.done result)) : PollEnd s [r] [] (some result)

def notedPoll (fuel : Nat) (s : Summary) :
    StateT (List (PollEvent ε)) (StateM σ) (Option (Except (PollError ε) Summary)) :=
  poll p watch.noted (x.notedCycle category client) (notedReport report) fuel s

theorem notedPoll_succ (fuel : Nat) (s : Summary) :
    notedPoll p watch x category client report (fuel + 1) s = (do
      if ← finished p watch.noted s then return some (.ok s)
      match ← notedRound p watch x category client report s with
      | .done r => return some r
      | .goOn s => notedPoll p watch x category client report fuel s) := rfl

variable {p watch x category client report}

theorem notedPoll_erased {fuel : Nat} {s : Summary} {log log' : List (PollEvent ε)} {w w' : σ}
    {result : Option (Except (PollError ε) Summary)}
    (h : ((notedPoll p watch x category client report fuel s).run log).run w =
      ((result, log'), w')) :
    (poll p watch (x.runCycle category client) report fuel s).run w = (result, w') := by
  let sim := Simulation.erasure (List (PollEvent ε)) σ
  have hclient : sim.Clients client.noted client :=
    ⟨fun _ _ _ _ _ => ⟨rfl, rfl⟩, fun _ _ _ _ _ => ⟨rfl, rfl⟩⟩
  have hwatch : sim.Watches watch.noted watch :=
    ⟨fun _ _ => ⟨rfl, rfl⟩, fun _ _ _ => ⟨rfl, rfl⟩, fun _ _ => ⟨rfl, rfl⟩⟩
  have hrun : sim.Holds Eq (x.noted.runCycle category client.noted) (x.runCycle category client) :=
    Simulation.runCycle hclient rfl (fun _ _ => ⟨rfl, rfl⟩) (fun _ _ => ⟨rfl, rfl⟩) category
  have hcycle : sim.Holds Eq (x.notedCycle category client) (x.runCycle category client) :=
    fun log w => hrun (log ++ [PollEvent.started]) w
  have hreport : ∀ result, sim.Holds Eq (notedReport report result) (report result) :=
    fun _ _ _ => ⟨rfl, rfl⟩
  have hpoll : sim.Holds Eq (notedPoll p watch x category client report fuel s)
      (poll p watch (x.runCycle category client) report fuel s) :=
    Simulation.poll p hwatch hcycle hreport fuel s
  obtain ⟨hresult, hworld⟩ := hpoll log w
  rw [h] at hresult hworld
  exact Prod.ext hresult.symm hworld.symm

theorem notedPoll_ends (fuel : Nat) {w w₁ : σ} {rounds : List (Round ε)} {s : Summary}
    (reach : PollReach p watch x category client report w rounds s w₁) :
    ∃ more s' w₂ final tail result w',
      PollReach p watch x category client report w (rounds ++ more) s' w₂ ∧
      PollEnd p s' final tail result ∧
      ((notedPoll p watch x category client report fuel s).run (rounds.flatMap Round.events)).run w₁ =
        ((result, (rounds ++ more ++ final).flatMap Round.events ++ tail), w') ∧
      (result = none → more.length = fuel) := by
  -- Each round uses up some fuel and leaves the loop at its head.
  induction fuel generalizing rounds s w₁ with
  | zero =>
    refine ⟨[], s, w₁, [], [], none, w₁, ?_, .outOfFuel, ?_, fun _ => rfl⟩
    · rwa [List.append_nil]
    · simp [notedPoll, poll]
  | succ fuel ih =>
    have hlook := finished_noted p watch s (rounds.flatMap Round.events) w₁
    rcases ht : watch.stopped.run w₁ with ⟨stop, w₂⟩
    rw [ht] at hlook
    rw [notedPoll_succ]
    cases stop with
    | true =>
      refine ⟨[], s, w₁, [], _, _, w₂, ?_, .stopped, ?_, by simp⟩
      · rwa [List.append_nil]
      · simp [hlook]
    | false =>
      cases hr : p.reached s with
      | true =>
        refine ⟨[], s, w₁, [], _, _, w₂, ?_, .reached hr, ?_, by simp⟩
        · rwa [List.append_nil]
        · simp [hlook, hr]
      | false =>
        obtain ⟨r, verdict, w₃, hround, hstep⟩ := notedRound_step p watch x category client report s
          (rounds.flatMap Round.events) w₂
        cases verdict with
        | done result =>
          refine ⟨[], s, w₁, [r], _, _, w₃, ?_, .last hr hstep, ?_, by simp⟩
          · rwa [List.append_nil]
          · simp [hlook, hr, hround]
        | goOn s' =>
          have hevents : rounds.flatMap Round.events ++ r.events =
              (rounds ++ [r]).flatMap Round.events := by simp
          rw [hevents] at hround
          obtain ⟨more, s'', w₄, final, tail, result, w', hreach, hend, hrest, hfuel⟩ :=
            ih (.next reach ht hr hstep hround)
          refine ⟨r :: more, s'', w₄, final, tail, result, w', ?_, hend, ?_, ?_⟩
          · simpa using hreach
          · simpa [hlook, hr, hround] using hrest
          · intro hnone
            rw [List.length_cons, hfuel hnone]

end Loop

end MeterPolling
