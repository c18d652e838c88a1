import MeterPolling.Proofs.Output.Refusal
import MeterPolling.Proofs.Polling.Laps
import MeterPolling.Proofs.Probe.Book

namespace MeterPolling

variable {σ : Type}

namespace Probe

def page (cycle : Nat) (result : CycleResult) : List OutputStep :=
  (entries cycle result).map OutputStep.result ++ [.flush]

def steps (cycle : Nat) : List CycleResult → List OutputStep
  | [] => []
  | result :: rest => page cycle result ++ steps (cycle + 1) rest

theorem write_eq {m : Type → Type} [Monad m] [LawfulMonad m] (o : Output m) (cycle : Nat) (result : CycleResult) :
    write o cycle result = o.performAll (page cycle result) := by
  have hflush : (o.performAll [.flush] : StateT Formatter m _) = o.flush := o.performAll_single .flush
  have happend : (o.performAll _ : StateT Formatter m _) = _ :=
    o.performAll_append ((entries cycle result).map OutputStep.result) [.flush]
  rw [hflush, ← o.results_eq] at happend
  exact happend.symm

end Probe

theorem performAll_beside (sink : Sink (StateM σ)) (path : Option String) (steps : List OutputStep) (f : Formatter)
    (t : Session) (log : List SinkEvent) (w : σ) :
    let o : Output (StateT Session (StateT (List SinkEvent) (StateM σ))) := ⟨sink.logged.lift, path⟩
    ∃ events result f' w',
      ((((o.performAll steps).run f).run t).run log).run w = ((((result, f'), t), log ++ events), w') ∧
      Performed path f steps events result f' := by
  intro o
  let logging := (Simulation.same σ).withState (List SinkEvent)
  have hsame : logging.Sinks sink.logged sink.logged :=
    ⟨fun _ _ _ => ⟨⟨rfl, rfl⟩, rfl⟩, fun _ _ => ⟨⟨rfl, rfl⟩, rfl⟩⟩
  obtain ⟨events, result, f', w', hrun, hperformed⟩ := performAll_performed sink path steps f log w
  obtain ⟨⟨⟨⟨hresult, hformatter⟩, hbeside⟩, hlog⟩, hworld⟩ :=
    Simulation.performAll (hsame.aside Session) path steps f t log w
  rw [hrun] at hresult hformatter hlog hworld
  exact ⟨events, result, f', w', Prod.ext (Prod.ext (Prod.ext (Prod.ext hresult hformatter) hbeside) hlog) hworld,
    hperformed⟩

theorem Verdict.of_ne_report {ε : Type} (stopOnError : Bool) (s : Summary) (result : CycleResult) (e : ε) :
    Verdict.of stopOnError s result ≠ .done (.error (.report e)) := by
  cases result with
  | ok c => exact nofun
  | error a =>
    rw [Verdict.of_error]
    split
    next => simp
    next =>
      split
      next => simp
      next => simp

theorem Passed.report_iff {ε : Type} {p : Pace} {watch : Watch (StateM σ)} {s : Summary} {lap : Lap σ ε}
    {v : Verdict ε} {w' : σ} (h : Passed p watch s lap v w') (e : ε) :
    lap.outcome = .error e ↔ v = .done (.error (.report e)) := by
  have hreported : lap.outcome = .ok () → v ≠ .done (.error (.report e)) →
      (lap.outcome = .error e ↔ v = .done (.error (.report e))) := by
    intro outcome other
    rw [outcome]
    exact ⟨nofun, fun hv => absurd hv other⟩
  cases h with
  | unreported outcome =>
    rw [outcome]
    simp
  | judged outcome verdict => exact hreported outcome fun hv => Verdict.of_ne_report _ _ _ e (verdict.trans hv)
  | unpaced outcome => exact hreported outcome nofun
  | full outcome => exact hreported outcome nofun
  | beyondClock outcome => exact hreported outcome nofun
  | waited outcome => exact hreported outcome nofun

/-- What there is while a probe polls and keeps a log of its sink, side by side. -/
structure Ledger (σ : Type) where
  count : Nat
  formatter : Formatter
  session : Session
  log : List SinkEvent
  world : σ

namespace Ledger

def act {α : Type} (x : Probe.Desk (List SinkEvent) σ α) : StateM (Ledger σ) α := fun d =>
  let run := ((((x.run d.count).run d.formatter).run d.session).run d.log).run d.world
  (run.1.1.1.1.1, ⟨run.1.1.1.1.2, run.1.1.1.2, run.1.1.2, run.1.2, run.2⟩)

@[simp] theorem run_act {α : Type} (x : Probe.Desk (List SinkEvent) σ α) (d : Ledger σ) :
    (act x).run d =
      let run := ((((x.run d.count).run d.formatter).run d.session).run d.log).run d.world
      (run.1.1.1.1.1, ⟨run.1.1.1.1.2, run.1.1.1.2, run.1.1.2, run.1.2, run.2⟩) := rfl

theorem run_of_act {α : Type} {x : Probe.Desk (List SinkEvent) σ α} {d d' : Ledger σ} {a : α}
    (h : (act x).run d = (a, d')) :
    ((((x.run d.count).run d.formatter).run d.session).run d.log).run d.world =
      (((((a, d'.count), d'.formatter), d'.session), d'.log), d'.world) := by
  rw [run_act] at h
  obtain ⟨rfl, rfl⟩ := Prod.mk.inj h
  rfl

def acting (σ : Type) : Simulation (Probe.Desk (List SinkEvent) σ) (StateM (Ledger σ)) where
  Holds R x y := ∀ d, R ((act x).run d).1 (y.run d).1 ∧ ((act x).run d).2 = (y.run d).2
  pure_holds hab := fun _ => ⟨hab, rfl⟩
  bind_holds {_ _ _ _ _ _ x y f g} hx hf := by
    intro d
    obtain ⟨hab, hd⟩ := hx d
    have hthen := hf _ _ hab (y.run d).2
    have hrun : (act (x >>= f)).run d = (act (f ((act x).run d).1)).run (y.run d).2 := by
      rw [← hd]
      rfl
    rw [hrun]
    exact hthen

/-- What of a ledger the output is about. -/
def kept (d : Ledger σ) : Nat × Formatter × List SinkEvent := (d.count, d.formatter, d.log)

theorem kept_inj {d d' : Ledger σ} (h : d'.kept = d.kept) :
    d'.count = d.count ∧ d'.formatter = d.formatter ∧ d'.log = d.log := by
  simpa [kept] using h

def watch (watch : Watch (StateM σ)) : Watch (StateM (Ledger σ)) where
  now := act watch.lift.lift.lift.lift.now
  waitUntil t := act (watch.lift.lift.lift.lift.waitUntil t)
  stopped := act watch.lift.lift.lift.lift.stopped

def cycle (registry : Registry) (link : Link (StateM σ)) (watch : Watch (StateM σ)) (settings : ProbeSettings) :
    StateM (Ledger σ) CycleResult :=
  let watching : Watch (Probe.Desk (List SinkEvent) σ) := watch.lift.lift.lift.lift
  let executor : Executor (Probe.Desk (List SinkEvent) σ) := ⟨registry, watching.stopped, watching.now⟩
  act (executor.runCycle settings.category (Session.client link.lift settings.session).lift.lift)

def report (sink : Sink (StateM σ)) (path : Option String) (result : CycleResult) :
    StateM (Ledger σ) (Except OutputFailure Unit) :=
  act (Probe.report ⟨sink.logged.lift, path⟩ result)

theorem cycle_kept (registry : Registry) (link : Link (StateM σ)) (watch : Watch (StateM σ)) (settings : ProbeSettings)
    (d : Ledger σ) : ((cycle registry link watch settings).run d).2.kept = d.kept := by
  obtain ⟨⟨⟨⟨⟨_, hcount⟩, hformatter⟩, _⟩, hlog⟩, _⟩ :=
    Probe.sessions_cycle registry link watch settings d.count d.formatter d.session d.log d.world
  exact Prod.ext hcount (Prod.ext hformatter hlog)

theorem report_performed (sink : Sink (StateM σ)) (path : Option String) (result : CycleResult) (d : Ledger σ) :
    ∃ events outcome d', (report sink path result).run d = (outcome, d') ∧ d'.count = d.count + 1 ∧
      d'.log = d.log ++ events ∧
      Performed path d.formatter (Probe.page (d.count + 1) result) events outcome d'.formatter := by
  obtain ⟨events, outcome, f', w', hrun, hperformed⟩ :=
    performAll_beside sink path (Probe.page (d.count + 1) result) d.formatter d.session d.log d.world
  rw [← Probe.write_eq] at hrun
  refine ⟨events, outcome, ⟨d.count + 1, f', d.session, d.log ++ events, w'⟩, ?_, rfl, rfl, hperformed⟩
  simp [report, Probe.report, hrun]

section Laps

variable {registry : Registry} {link : Link (StateM σ)} {watch : Watch (StateM σ)} {settings : ProbeSettings}
  {sink : Sink (StateM σ)} {path : Option String} {p : Pace} {s : Summary} {lap : Lap (Ledger σ) OutputFailure}
  {d d' : Ledger σ}

theorem looked_kept {full : Bool} (h : (finished p (Ledger.watch watch) s).run d = (full, d')) : d'.kept = d.kept := by
  rw [finished_run] at h
  rw [← (Prod.mk.inj h).2]
  rfl

theorem ended_kept
    (h : lap.Follows (Ledger.watch watch) (cycle registry link watch settings) (report sink path) d) :
    lap.ended.kept = d.kept := by
  have hbegun : lap.begun.kept = d.kept := congrArg (kept ∘ Prod.snd) h.begun.symm
  have hended := cycle_kept registry link watch settings lap.begun
  rw [h.ended] at hended
  exact hended.trans hbegun

theorem passed_kept {v : Verdict OutputFailure} (h : Passed p (Ledger.watch watch) s lap v d') :
    d'.kept = lap.reported.kept := by
  cases h with
  | unreported => rfl
  | judged => rfl
  | unpaced => rfl
  | full _ _ _ look => exact looked_kept look
  | beyondClock _ _ _ look => exact looked_kept look
  | @waited s' d₁ d' _ _ _ look _ _ wait =>
    have hwaited : d'.kept = d₁.kept := congrArg (kept ∘ Prod.snd) wait.symm
    exact hwaited.trans (looked_kept look)

theorem lap_performed {v : Verdict OutputFailure}
    (follows : lap.Follows (Ledger.watch watch) (cycle registry link watch settings) (report sink path) d)
    (passed : Passed p (Ledger.watch watch) s lap v d') :
    ∃ events, d'.count = d.count + 1 ∧ d'.log = d.log ++ events ∧
      Performed path d.formatter (Probe.page (d.count + 1) lap.result) events lap.outcome d'.formatter := by
  obtain ⟨events, outcome, d₁, hreport, hcount, hlog, hperformed⟩ := report_performed sink path lap.result lap.ended
  obtain ⟨rfl, rfl⟩ := Prod.mk.inj (hreport.symm.trans follows.reported)
  obtain ⟨hc, hf, hl⟩ := kept_inj (ended_kept follows)
  obtain ⟨hc', hf', hl'⟩ := kept_inj (passed_kept passed)
  rw [hc, hf] at hperformed
  refine ⟨events, ?_, ?_, ?_⟩
  · rw [hc', hcount, hc]
  · rw [hl', hlog, hl]
  · rw [hf']
    exact hperformed

/-- What a poll has asked for is what the operations of its reports ask for, up to the first that fails. -/
theorem polled_performed {laps : List (Lap (Ledger σ) OutputFailure)}
    {result : Option (Except (PollError OutputFailure) Summary)}
    (h : Polled p (Ledger.watch watch) (cycle registry link watch settings) (report sink path) s d laps result d') :
    ∃ events outcome, d'.log = d.log ++ events ∧
      Performed path d.formatter (Probe.steps (d.count + 1) (laps.map Lap.result)) events outcome d'.formatter ∧
      ∀ failure, outcome = .error failure ↔ result = some (.error (.report failure)) := by
  induction h with
  | outOfFuel => exact ⟨[], .ok (), (List.append_nil _).symm, .nil, by simp⟩
  | @halted s d d' look =>
    obtain ⟨_, hf, hl⟩ := kept_inj (looked_kept look)
    refine ⟨[], .ok (), ?_, ?_, by simp⟩
    · rw [hl, List.append_nil]
    · rw [hf]
      exact .nil
  | @last s lap ending d d₁ d' look follows passed =>
    obtain ⟨hc, hf, hl⟩ := kept_inj (looked_kept look)
    obtain ⟨events, _, hlog, hperformed⟩ := lap_performed follows passed
    rw [hc, hf] at hperformed
    refine ⟨events, lap.outcome, ?_, ?_, ?_⟩
    · rw [hlog, hl]
    · simpa [Probe.steps] using hperformed
    · intro failure
      rw [passed.report_iff]
      simp
  | @next s s' lap laps result d d₁ d₂ d' look follows passed more ih =>
    obtain ⟨hc, hf, hl⟩ := kept_inj (looked_kept look)
    obtain ⟨events, hcount, hlog, hperformed⟩ := lap_performed follows passed
    obtain ⟨later, outcome, hlater, hmore, hresult⟩ := ih
    have hgood : lap.outcome = .ok () := by
      cases houtcome : lap.outcome with
      | ok => rfl
      | error failure => cases (passed.report_iff failure).mp houtcome
    rw [hgood, hc, hf] at hperformed
    rw [hcount, hc] at hmore
    refine ⟨events ++ later, outcome, ?_, hperformed.append hmore, hresult⟩
    rw [hlater, hlog, hl, List.append_assoc]

end Laps

end Ledger

end MeterPolling
