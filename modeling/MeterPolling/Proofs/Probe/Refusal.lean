import MeterPolling.Proofs.Probe.Exit
import MeterPolling.Proofs.Probe.Ledger
import MeterPolling.Proofs.Probe.Simulation

namespace MeterPolling

def Files.logged {m : Type → Type} [Monad m] (files : Files m) : Files (StateT (List SinkEvent) m) where
  terminal := files.terminal.logged
  openFile path := do
    let opened ← StateT.lift (files.openFile path)
    return opened.map Sink.logged

def Host.logged {m : Type → Type} [Monad m] (host : Host m) : Host (StateT (List SinkEvent) m) :=
  ⟨host.files.logged, host.watch.lift, fun settings => (host.link settings).lift⟩

variable {σ : Type}

theorem Host.logged_hosts (host : Host (StateM σ)) :
    (Simulation.erasure (List SinkEvent) σ).Hosts host.logged host := by
  have hopened : ∀ opened : Except OsError (Sink (StateM σ)),
      (Simulation.erasure (List SinkEvent) σ).Opened (opened.map Sink.logged) opened := by
    intro opened
    cases opened with
    | error cause => exact .refused cause
    | ok sink => exact .opened sink.logged_sinks
  refine ⟨⟨host.files.terminal.logged_sinks, fun _ _ _ => ⟨hopened _, rfl⟩⟩, ?_, ?_⟩
  · exact ⟨fun _ _ => ⟨rfl, rfl⟩, fun _ _ _ => ⟨rfl, rfl⟩, fun _ _ => ⟨rfl, rfl⟩⟩
  · intro settings
    exact ⟨fun _ _ _ => ⟨rfl, rfl⟩, fun _ _ _ => ⟨rfl, rfl⟩, fun _ _ _ => ⟨rfl, rfl⟩, fun _ _ => ⟨rfl, rfl⟩,
      fun _ _ => ⟨rfl, rfl⟩, fun _ _ _ => ⟨rfl, rfl⟩⟩

namespace Probe

def flushes : Option (Except (PollError OutputFailure) Summary) → Bool
  | some (.error (.report _)) | some (.error .beyondClock) => false
  | _ => true

theorem session_eq {m : Type → Type} [Monad m] [LawfulMonad m] (registry : Registry) (watch : Watch m)
    (client : Client m) (o : Output m) (settings : ProbeSettings) :
    session registry watch client o settings = (do
      match ← o.headers headers with
      | .error failure => return .error (.output failure)
      | .ok () =>
        let result ← poll registry watch client o settings
        if flushes result then
          match ← o.flush with
          | .error failure => return .error (.output failure)
          | .ok () => return closing result
        else return closing result) := by
  refine bind_congr fun begun => ?_
  cases begun with
  | error failure => rfl
  | ok =>
    refine bind_congr fun result => ?_
    rcases result with _ | e | summary
    · rfl
    · cases e with
      | report failure => rfl
      | beyondClock => rfl
      | aborted a => rfl
    · rfl

theorem closing_output_iff (result : Option (Except (PollError OutputFailure) Summary)) (failure : OutputFailure) :
    closing result = .error (.output failure) ↔ result = some (.error (.report failure)) := by
  rcases result with _ | e | summary
  · simp [closing]
  · cases e with
    | report other => simp [closing]
    | beyondClock => simp [closing]
    | aborted a => simp [closing]
  · simp [closing]

section Run

variable (registry : Registry) (link : Link (StateM σ)) (watch : Watch (StateM σ)) (settings : ProbeSettings)
  (sink : Sink (StateM σ)) (path : Option String)

theorem poll_performed (f : Formatter) (t : Session) (log : List SinkEvent) (w : σ) :
    let o : Output (StateT Session (StateT (List SinkEvent) (StateM σ))) := ⟨sink.logged.lift, path⟩
    let client := Session.client link.lift settings.session
    ∃ results result f' t' events w' outcome,
      ((((poll registry watch.lift.lift client o settings).run f).run t).run log).run w =
        ((((result, f'), t'), log ++ events), w') ∧
      Performed path f (steps 1 results) events outcome f' ∧
      ∀ failure, outcome = .error failure ↔ result = some (.error (.report failure)) := by
  intro o client
  have hwatch : (Ledger.acting σ).Watches watch.lift.lift.lift.lift (Ledger.watch watch) :=
    ⟨fun _ => ⟨rfl, rfl⟩, fun _ _ => ⟨rfl, rfl⟩, fun _ => ⟨rfl, rfl⟩⟩
  let watching : Watch (Desk (List SinkEvent) σ) := watch.lift.lift.lift.lift
  let executor : Executor (Desk (List SinkEvent) σ) := ⟨registry, watching.stopped, watching.now⟩
  have hcycle : (Ledger.acting σ).Holds Eq (executor.runCycle settings.category client.lift.lift)
      (Ledger.cycle registry link watch settings) := fun _ => ⟨rfl, rfl⟩
  have hreport : ∀ result, (Ledger.acting σ).Holds Eq (report o result) (Ledger.report sink path result) :=
    fun _ _ => ⟨rfl, rfl⟩
  have hsame := Simulation.poll settings.pace hwatch hcycle hreport (fuel settings.pace) {} ⟨0, f, t, log, w⟩
  obtain ⟨laps, result, d', hpoll, hpolled, _⟩ := poll_polled settings.pace (Ledger.watch watch)
    (Ledger.cycle registry link watch settings) (Ledger.report sink path) (fuel settings.pace) {} ⟨0, f, t, log, w⟩
  obtain ⟨events, outcome, hlog, hperformed, hresult⟩ := Ledger.polled_performed hpolled
  have hact := Prod.ext hsame.1 hsame.2
  rw [hpoll] at hact
  have hrun := run_uncounted (Ledger.run_of_act hact)
  rw [hlog] at hrun
  exact ⟨laps.map Lap.result, result, d'.formatter, d'.session, events, d'.world, outcome, hrun, hperformed, hresult⟩

theorem session_performed (f : Formatter) (t : Session) (log : List SinkEvent) (w : σ) :
    let o : Output (StateT Session (StateT (List SinkEvent) (StateM σ))) := ⟨sink.logged.lift, path⟩
    let client := Session.client link.lift settings.session
    ∃ results closing result f' t' events w' outcome,
      ((((session registry watch.lift.lift client o settings).run f).run t).run log).run w =
        ((((result, f'), t'), log ++ events), w') ∧
      (closing = [] ∨ closing = [.flush]) ∧
      Performed path f (.headers headers :: steps 1 results ++ closing) events outcome f' ∧
      ∀ failure, outcome = .error failure ↔ result = .error (.output failure) := by
  intro o client
  obtain ⟨begun, outcome₀, f₁, w₁, hheaders, hbegun⟩ := performAll_beside sink path [.headers headers] f t log w
  rw [Output.performAll_single] at hheaders
  change ((((o.headers headers).run f).run t).run log).run w = _ at hheaders
  cases outcome₀ with
  | error failure =>
    refine ⟨[], [], .error (.output failure), f₁, t, begun, w₁, .error failure, ?_, .inl rfl, hbegun, ?_⟩
    · simp [session, hheaders]
    · intro other
      simp
  | ok =>
    obtain ⟨results, result, f₂, t₂, events, w₂, outcome, hpoll, hpolled, hresult⟩ :=
      poll_performed registry link watch settings sink path f₁ t (log ++ begun) w₁
    have hperformed : Performed path f (.headers headers :: steps 1 results) (begun ++ events) outcome f₂ :=
      hbegun.append hpolled
    rw [List.append_assoc] at hpoll
    cases hlast : flushes result with
    | false =>
      refine ⟨results, [], closing result, f₂, t₂, begun ++ events, w₂, outcome, ?_, .inl rfl, ?_, ?_⟩
      · simp [session_eq, hheaders, hpoll, hlast, o, client]
      · rw [List.append_nil]
        exact hperformed
      · intro failure
        rw [hresult, closing_output_iff]
    | true =>
      obtain rfl : outcome = .ok () := by
        cases outcome with
        | ok => rfl
        | error failure =>
          rw [(hresult failure).mp rfl] at hlast
          cases hlast
      obtain ⟨last, outcome', f', w', hflush, hended⟩ :=
        performAll_beside sink path [.flush] f₂ t₂ (log ++ (begun ++ events)) w₂
      rw [Output.performAll_single, List.append_assoc] at hflush
      change ((((o.flush).run f₂).run t₂).run (log ++ (begun ++ events))).run w₂ = _ at hflush
      have hall := hperformed.append hended
      cases outcome' with
      | error failure =>
        refine ⟨results, [.flush], .error (.output failure), f', t₂, _, w', .error failure, ?_, .inr rfl, hall, ?_⟩
        · simp [session_eq, hheaders, hpoll, hlast, hflush, o, client]
        · intro other
          simp
      | ok =>
        refine ⟨results, [.flush], closing result, f', t₂, _, w', .ok (), ?_, .inr rfl, hall, ?_⟩
        · simp [session_eq, hheaders, hpoll, hlast, hflush, o, client]
        · intro failure
          rw [closing_output_iff, ← hresult]

end Run

theorem start_logged (files : Files (StateM σ)) (settings : OutputSettings) (t : Session) (log : List SinkEvent)
    (w : σ) : ∃ opened w',
      (((Output.start files.logged.lift settings).run t).run log).run w = (((opened, t), log), w') ∧
      ((∃ sink : Sink (StateM σ), opened = .ok ⟨sink.logged.lift, settings.path⟩) ∨
        ∃ name cause, settings.path = some name ∧ (files.openFile name).run w = (.error cause, w') ∧
          opened = .error (.error (.openFile cause name))) := by
  obtain ⟨path, format⟩ := settings
  cases path with
  | none => exact ⟨_, w, rfl, .inl ⟨files.terminal, rfl⟩⟩
  | some name =>
    have hopen : (((files.logged.lift.openFile name).run t).run log).run w =
        ((((((files.openFile name).run w).1.map Sink.logged).map Sink.lift, t), log), ((files.openFile name).run w).2) :=
      rfl
    rcases hfile : (files.openFile name).run w with ⟨opened, w'⟩
    rw [hfile] at hopen
    cases opened with
    | error cause =>
      refine ⟨_, w', ?_, .inr ⟨name, cause, rfl, hfile, rfl⟩⟩
      simp [Output.start, hopen, Except.map]
    | ok sink =>
      refine ⟨_, w', ?_, .inl ⟨sink, rfl⟩⟩
      simp [Output.start, hopen, Except.map]

/-- What a probe does with its output: it is not opened, or asked for what the operations of the probe ask for. -/
theorem serve_performed (host : Host (StateM σ)) (settings : ProbeSettings) (w : σ) :
    ∃ exit events w',
      ((Program.serve host.logged (.probe settings)).run []).run w = ((exit, events), w') ∧
      ((∃ name cause, settings.output.path = some name ∧ (host.files.openFile name).run w = (.error cause, w') ∧
        events = [] ∧ exit = .failure ("could not output the readings" :: (OutputError.openFile cause name).chain)) ∨
      ∃ results closing outcome f', (closing = [] ∨ closing = [.flush]) ∧
        Performed settings.output.path (.new settings.output.format)
          (.headers headers :: steps 1 results ++ closing) events outcome f' ∧
        ∀ e, outcome = .error (.error e) → exit = .failure ("could not output the readings" :: e.chain)) := by
  obtain ⟨opened, w₁, hstart, ⟨sink, rfl⟩ | ⟨name, cause, hname, hopen, rfl⟩⟩ :=
    start_logged host.files settings.output {} [] w
  · obtain ⟨results, closing, result, f', t', events, w', outcome, hsession, hclosing, hperformed, hresult⟩ :=
      session_performed .builtin (host.link settings.session) host.watch settings sink settings.output.path
        (.new settings.output.format) {} [] w₁
    refine ⟨.ofResult ProbeError.chain ProbeError.break? result, events, w', ?_,
      .inr ⟨results, closing, outcome, f', hclosing, hperformed, ?_⟩⟩
    · simp [Program.serve, Host.logged, run, hstart, hsession]
    · intro e failed
      rw [(hresult _).mp failed]
      rfl
  · refine ⟨_, [], w₁, ?_, .inl ⟨name, cause, hname, hopen, rfl, rfl⟩⟩
    simp [Program.serve, Host.logged, run, hstart, Exit.ofResult, ProbeError.break?, ProbeError.chain,
      OutputFailure.break?, OutputFailure.chain]

end Probe

/--
Headers, results and flushes in any order, on any sink, up to the first thing that the sink refuses. The operation
that has asked for it fails, and nothing is asked for behind it. The error has the cause of the refusal and names the
file that was given, or the terminal if none was. Only where a record is refused as a JSON line, it says instead that
the record could not be serialized. So it is for a whole probe on any host: a refusal ends the probe, and its exit
tells this error as the reason.
-/
theorem refusals_attributed {σ : Type} (sink : Sink (StateM σ)) (path : Option String) (format : OutputFormat)
    (steps : List OutputStep) (host : Host (StateM σ)) (settings : ProbeSettings) (w : σ) :
    (let logged : Output (StateT (List SinkEvent) (StateM σ)) := ⟨sink.logged, path⟩
      let plain : Output (StateM σ) := ⟨sink, path⟩
      ∃ result f' events w',
        (((logged.performAll steps).run (.new format)).run []).run w = (((result, f'), events), w') ∧
        ((plain.performAll steps).run (.new format)).run w = ((result, f'), w') ∧
        Performed path (.new format) steps events result f' ∧
        ∀ event ∈ events, ∀ cause, event.answer = .error cause →
          ∃ e, result = .error (.error e) ∧ Attributed path format steps cause event.call e) ∧
    ∃ exit events w',
      ((Program.serve host.logged (.probe settings)).run []).run w = ((exit, events), w') ∧
      (Program.serve host (.probe settings)).run w = (exit, w') ∧
      ((∃ name cause, settings.output.path = some name ∧ (host.files.openFile name).run w = (.error cause, w') ∧
        events = [] ∧ exit = .failure ("could not output the readings" :: (OutputError.openFile cause name).chain)) ∨
      ∃ results closing outcome f',
        let done := .headers Probe.headers :: Probe.steps 1 results ++ closing
        (closing = [] ∨ closing = [.flush]) ∧
        Performed settings.output.path (.new settings.output.format) done events outcome f' ∧
        ∀ event ∈ events, ∀ cause, event.answer = .error cause →
          ∃ e, exit = .failure ("could not output the readings" :: e.chain) ∧
            Attributed settings.output.path settings.output.format done cause event.call e) := by
  refine ⟨?_, ?_⟩
  · intro logged plain
    obtain ⟨events, result, f', w', hrun, hperformed⟩ := performAll_performed sink path steps (.new format) [] w
    refine ⟨result, f', events, w', hrun, performAll_erased sink path steps hrun, hperformed, ?_⟩
    intro event mem cause refused
    have hattributed := hperformed.attributed mem refused
    rwa [Formatter.format_new] at hattributed
  · obtain ⟨exit, events, w', hrun, hend⟩ := Probe.serve_performed host settings w
    have hplain := Simulation.erased (Program.probe_holds host.logged_hosts settings) hrun
    refine ⟨exit, events, w', hrun, hplain, ?_⟩
    rcases hend with hunopened | ⟨results, closing, outcome, f', hclosing, hperformed, hexit⟩
    · exact .inl hunopened
    · refine .inr ⟨results, closing, outcome, f', hclosing, hperformed, ?_⟩
      intro event mem cause refused
      obtain ⟨e, failed, hattributed⟩ := hperformed.attributed mem refused
      rw [Formatter.format_new] at hattributed
      exact ⟨e, hexit e failed, hattributed⟩

/-- A disk without space left, and the first reading of a probe as a JSON line: no file is named. -/
theorem full_disk_unnamed :
    let disk : Medium := { fault := some .noSpace }
    let o : Output (StateM Medium) := ⟨Medium.sink, some "/dev/full"⟩
    let reading := Probe.outcomeEntry 1 ⟨"Type designation", 0x8960, .read (.text "B23")⟩
    ((o.perform (.result reading)).run (.new .jsonl : Formatter)).run disk =
      ((.error (.error (.serialize .noSpace)), .jsonl), disk) := by
  rfl

end MeterPolling
