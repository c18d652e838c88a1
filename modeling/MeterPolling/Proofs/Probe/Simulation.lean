import MeterPolling.Program
import MeterPolling.Proofs.Polling.Simulation
import MeterPolling.Proofs.Probe.Book

namespace MeterPolling

namespace Simulation

variable {m n : Type → Type} [Monad m] [Monad n] {sim : Simulation m n}

theorem Clients.lift {client : Client m} {model : Client n} (h : sim.Clients client model) (S : Type) :
    (sim.withState S).Clients client.lift model.lift :=
  ⟨fun register count hcount => Simulation.lift (h.read register count hcount),
    fun register values hlength => Simulation.lift (h.write register values hlength)⟩

theorem Watches.lift {watch : Watch m} {model : Watch n} (h : sim.Watches watch model) (S : Type) :
    (sim.withState S).Watches watch.lift model.lift :=
  ⟨Simulation.lift h.now, fun t => Simulation.lift (h.waitUntil t), Simulation.lift h.stopped⟩

inductive Opened (sim : Simulation m n) : Except OsError (Sink m) → Except OsError (Sink n) → Prop
  | refused (cause : OsError) : Opened sim (.error cause) (.error cause)
  | opened {sink : Sink m} {model : Sink n} (h : sim.Sinks sink model) : Opened sim (.ok sink) (.ok model)

structure Stores (sim : Simulation m n) (files : Files m) (model : Files n) : Prop where
  terminal : sim.Sinks files.terminal model.terminal
  openFile : ∀ path, sim.Holds sim.Opened (files.openFile path) (model.openFile path)

theorem Stores.lift {files : Files m} {model : Files n} (h : sim.Stores files model) (S : Type) :
    (sim.withState S).Stores files.lift model.lift := by
  refine ⟨h.terminal.lift S, ?_⟩
  intro path s
  refine sim.bind_holds (R := fun a b => sim.Opened a.1 b.1 ∧ a.2 = b.2) ?_ ?_
  · refine sim.bind_holds (h.openFile path) ?_
    intro a b hab
    exact sim.pure_holds ⟨hab, rfl⟩
  · rintro ⟨a, t⟩ ⟨b, _⟩ ⟨hab, rfl⟩
    cases hab with
    | refused cause => exact sim.pure_holds ⟨.refused cause, rfl⟩
    | opened hsinks => exact sim.pure_holds ⟨.opened (hsinks.lift S), rfl⟩

inductive Started (sim : Simulation m n) :
    Except OutputFailure (Output m) → Except OutputFailure (Output n) → Prop
  | failed (failure : OutputFailure) : Started sim (.error failure) (.error failure)
  | started {sink : Sink m} {model : Sink n} (h : sim.Sinks sink model) (path : Option String) :
      Started sim (.ok ⟨sink, path⟩) (.ok ⟨model, path⟩)

theorem start {files : Files m} {model : Files n} (h : sim.Stores files model) (settings : OutputSettings) :
    sim.Holds sim.Started (Output.start files settings) (Output.start model settings) := by
  obtain ⟨path, format⟩ := settings
  cases path with
  | none => exact sim.pure_holds (.started h.terminal none)
  | some path =>
    refine sim.bind_holds (h.openFile path) ?_
    rintro _ _ opened
    cases opened with
    | refused cause => exact sim.pure_holds (.failed _)
    | opened hsinks => exact sim.pure_holds (.started hsinks (some path))

structure Hosts (sim : Simulation m n) (host : Host m) (model : Host n) : Prop where
  files : sim.Stores host.files model.files
  watch : sim.Watches host.watch model.watch
  link : ∀ settings, sim.Links (host.link settings) (model.link settings)

theorem forgotten [LawfulMonad m] [LawfulMonad n] {S α : Type} {x : StateT S m α} {y : StateT S n α}
    (h : (sim.withState S).Holds Eq x y) (s : S) : sim.Holds Eq (x.run' s) (y.run' s) := by
  have hx : x.run' s = x.run s >>= fun p => pure p.1 := map_eq_pure_bind ..
  have hy : y.run' s = y.run s >>= fun p => pure p.1 := map_eq_pure_bind ..
  rw [hx, hy]
  refine sim.bind_holds (h s) ?_
  rintro a b ⟨hab, _⟩
  exact sim.pure_holds hab

end Simulation

namespace Probe

variable {m n : Type → Type} [Monad m] [Monad n] {sim : Simulation m n} {sink : Sink m} {model : Sink n}

theorem report_holds (h : sim.Sinks sink model) (path : Option String) (result : CycleResult) :
    ((sim.withState Formatter).withState Nat).Holds Eq (report ⟨sink, path⟩ result)
      (report ⟨model, path⟩ result) := by
  let both := (sim.withState Formatter).withState Nat
  refine both.bind_holds (R := Eq) (Simulation.modifyGet _) ?_
  rintro _ _ _
  refine both.bind_holds (R := Eq) (Simulation.modifyGet fun n => (n, n)) ?_
  rintro cycle _ rfl
  exact Simulation.lift (write_holds h path cycle result)

theorem poll_holds [LawfulMonad m] [LawfulMonad n] (registry : Registry) {watch : Watch m} {watch' : Watch n}
    {client : Client m} {client' : Client n} (hw : sim.Watches watch watch') (hc : sim.Clients client client')
    (hs : sim.Sinks sink model) (path : Option String) (settings : ProbeSettings) :
    (sim.withState Formatter).Holds Eq (poll registry watch client ⟨sink, path⟩ settings)
      (poll registry watch' client' ⟨model, path⟩ settings) := by
  let both := (sim.withState Formatter).withState Nat
  have hwatch : both.Watches watch.lift.lift watch'.lift.lift := (hw.lift Formatter).lift Nat
  have hclient : both.Clients client.lift.lift client'.lift.lift := (hc.lift Formatter).lift Nat
  have hcycle := Simulation.runCycle hclient (x := ⟨registry, watch.lift.lift.stopped, watch.lift.lift.now⟩)
    (y := ⟨registry, watch'.lift.lift.stopped, watch'.lift.lift.now⟩) rfl hwatch.stopped hwatch.now settings.category
  exact Simulation.forgotten
    (Simulation.poll settings.pace hwatch hcycle (report_holds hs path) (fuel settings.pace) {}) 0

theorem session_holds [LawfulMonad m] [LawfulMonad n] (registry : Registry) {watch : Watch m} {watch' : Watch n}
    {client : Client m} {client' : Client n} (hw : sim.Watches watch watch') (hc : sim.Clients client client')
    (hs : sim.Sinks sink model) (path : Option String) (settings : ProbeSettings) :
    (sim.withState Formatter).Holds Eq (session registry watch client ⟨sink, path⟩ settings)
      (session registry watch' client' ⟨model, path⟩ settings) := by
  let both := sim.withState Formatter
  refine both.bind_holds (Simulation.headers hs path headers) ?_
  rintro begun _ rfl
  cases begun with
  | error failure => exact both.pure_holds rfl
  | ok _ =>
    refine both.bind_holds (poll_holds registry hw hc hs path settings) ?_
    rintro result _ rfl
    split
    next => exact both.pure_holds rfl
    next => exact both.pure_holds rfl
    next =>
      refine both.bind_holds (Simulation.flush hs path) ?_
      rintro flushed _ rfl
      cases flushed with
      | error failure => exact both.pure_holds rfl
      | ok _ =>
        rcases result with _ | ending
        · exact both.pure_holds rfl
        · cases ending with
          | error e => exact both.pure_holds rfl
          | ok summary => exact both.pure_holds rfl

theorem run_holds [LawfulMonad m] [LawfulMonad n] (registry : Registry) {files : Files m} {files' : Files n}
    {watch : Watch m} {watch' : Watch n} {client : Client m} {client' : Client n} (hf : sim.Stores files files')
    (hw : sim.Watches watch watch') (hc : sim.Clients client client') (settings : ProbeSettings) :
    sim.Holds Eq (run registry files watch client settings) (run registry files' watch' client' settings) := by
  refine sim.bind_holds (Simulation.start hf settings.output) ?_
  rintro _ _ started
  cases started with
  | failed failure => exact sim.pure_holds rfl
  | started hs path => exact Simulation.forgotten (session_holds registry hw hc hs path settings) _

end Probe

theorem Program.probe_holds {m n : Type → Type} [Monad m] [LawfulMonad m] [Monad n] [LawfulMonad n]
    {sim : Simulation m n} {host : Host m} {model : Host n} (h : sim.Hosts host model) (settings : ProbeSettings) :
    sim.Holds Eq (serve host (.probe settings)) (serve model (.probe settings)) := by
  have hrun := Probe.run_holds .builtin (h.files.lift Session) (h.watch.lift Session)
    (Simulation.clients settings.session (h.link settings.session)) settings
  refine sim.bind_holds (Simulation.forgotten hrun {}) ?_
  rintro result _ rfl
  exact sim.pure_holds rfl

end MeterPolling
