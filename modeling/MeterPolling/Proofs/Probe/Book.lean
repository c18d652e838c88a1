import MeterPolling.Proofs.Cycle.Run
import MeterPolling.Proofs.Output.Simulation
import MeterPolling.Proofs.Output.StorageIntake
import MeterPolling.Proofs.Polling.LapCount
import MeterPolling.Proofs.Probe.Pages

namespace MeterPolling

variable {σ : Type}

/-- A session, the world that its link leads to, and the results of the cycles so far. -/
structure Book (σ : Type) where
  session : Session := {}
  world : σ
  results : List CycleResult := []

namespace Book

def act {α : Type} (a : StateT Session (StateM σ) α) : StateM (Book σ) α := fun b =>
  let run := (a.run b.session).run b.world
  (run.1.1, { b with session := run.1.2, world := run.2 })

@[simp] theorem run_act {α : Type} (a : StateT Session (StateM σ) α) (b : Book σ) :
    (act a).run b =
      let run := (a.run b.session).run b.world
      (run.1.1, { b with session := run.1.2, world := run.2 }) := rfl

def watch (watch : Watch (StateM σ)) : Watch (StateM (Book σ)) where
  now := act watch.lift.now
  waitUntil t := act (watch.lift.waitUntil t)
  stopped := act watch.lift.stopped

def cycle (registry : Registry) (link : Link (StateM σ)) (watch : Watch (StateM σ)) (settings : ProbeSettings) :
    StateM (Book σ) CycleResult :=
  let executor : Executor (StateT Session (StateM σ)) := ⟨registry, watch.lift.stopped, watch.lift.now⟩
  act (executor.runCycle settings.category (Session.client link settings.session))

def client (link : Link (StateM σ)) (settings : SessionSettings) : Client (StateM (Book σ)) where
  read register count := act ((Session.client link settings).read register count)
  write register values := act ((Session.client link settings).write register values)

def acting (σ : Type) : Simulation (StateT Session (StateM σ)) (StateM (Book σ)) where
  Holds R x y := ∀ b, R ((act x).run b).1 (y.run b).1 ∧ ((act x).run b).2 = (y.run b).2
  pure_holds hab := fun _ => ⟨hab, rfl⟩
  bind_holds {_ _ _ _ _ _ x y f g} hx hf := by
    intro b
    obtain ⟨hab, hb⟩ := hx b
    have hthen := hf _ _ hab (y.run b).2
    have hrun : (act (x >>= f)).run b = (act (f ((act x).run b).1)).run (y.run b).2 := by
      rw [← hb]
      rfl
    rw [hrun]
    exact hthen

theorem cycle_eq (registry : Registry) (link : Link (StateM σ)) (watch : Watch (StateM σ))
    (settings : ProbeSettings) : cycle registry link watch settings =
      (⟨registry, (Book.watch watch).stopped, (Book.watch watch).now⟩ : Executor (StateM (Book σ))).runCycle
        settings.category (client link settings.session) := by
  have hclients : (acting σ).Clients (Session.client link settings.session) (client link settings.session) :=
    ⟨fun _ _ _ _ => ⟨rfl, rfl⟩, fun _ _ _ _ => ⟨rfl, rfl⟩⟩
  have hcycle := Simulation.runCycle hclients (x := ⟨registry, watch.lift.stopped, watch.lift.now⟩)
    (y := ⟨registry, (Book.watch watch).stopped, (Book.watch watch).now⟩) rfl (fun _ => ⟨rfl, rfl⟩)
    (fun _ => ⟨rfl, rfl⟩) settings.category
  funext b
  exact Prod.ext (hcycle b).1 (hcycle b).2

theorem cycle_own {registry : Registry} (link : Link (StateM σ)) {watch : Watch (StateM σ)}
    {settings : ProbeSettings} {plan : Plan} (serves : registry.get settings.category = .ok plan)
    (quiet : ∀ w, (watch.stopped.run w).1 = false) (b : Book σ) {a : Aborted}
    (aborted : ((cycle registry link watch settings).run b).1 = .error a) :
    a.category = plan.category ∧ a.error.isInterrupted = false ∧ a.error.isPlan = false := by
  rw [cycle_eq] at aborted
  exact Executor.runCycle_own _ _ serves (fun b => quiet b.world) b aborted

def report (result : CycleResult) : StateM (Book σ) (Except OutputFailure Unit) := fun b =>
  (.ok (), { b with results := b.results ++ [result] })

@[simp] theorem run_report (result : CycleResult) (b : Book σ) :
    (report result).run b = (.ok (), { b with results := b.results ++ [result] }) := rfl

theorem act_results {α : Type} {a : StateT Session (StateM σ) α} {b b' : Book σ} {r : α}
    (h : (act a).run b = (r, b')) : b'.results = b.results := by
  rw [run_act] at h
  rw [← (Prod.mk.inj h).2]

section Laps

variable {registry : Registry} {link : Link (StateM σ)} {watch : Watch (StateM σ)} {settings : ProbeSettings}
  {p : Pace} {s s' : Summary} {lap : Lap (Book σ) OutputFailure} {b b' : Book σ}

theorem finished_results {full : Bool} (h : (finished p (Book.watch watch) s).run b = (full, b')) :
    b'.results = b.results := by
  rw [finished_run] at h
  rw [← (Prod.mk.inj h).2]
  exact act_results rfl

theorem follows_results (h : lap.Follows (Book.watch watch) (cycle registry link watch settings) report b) :
    lap.reported.results = b.results ++ [lap.result] := by
  have hreported := h.reported
  rw [run_report] at hreported
  rw [← (Prod.mk.inj hreported).2, act_results h.ended, act_results h.begun]

theorem passed_results {v : Verdict OutputFailure} (h : Passed p (Book.watch watch) s lap v b') :
    b'.results = lap.reported.results := by
  cases h with
  | unreported => rfl
  | judged => rfl
  | unpaced => rfl
  | full _ _ _ look => exact finished_results look
  | beyondClock _ _ _ look => exact finished_results look
  | waited _ _ _ look _ _ wait => exact (act_results wait).trans (finished_results look)

theorem polled_results {laps : List (Lap (Book σ) OutputFailure)}
    {result : Option (Except (PollError OutputFailure) Summary)}
    (h : Polled p (Book.watch watch) (cycle registry link watch settings) report s b laps result b') :
    b'.results = b.results ++ laps.map Lap.result := by
  induction h with
  | outOfFuel => simp
  | halted look => simpa using finished_results look
  | last look follows passed =>
    rw [passed_results passed, follows_results follows, finished_results look]
    rfl
  | next look follows passed _ ih =>
    rw [ih, passed_results passed, follows_results follows, finished_results look, List.append_assoc]
    rfl

end Laps

end Book

def Simulation.worldless (S σ : Type) : Simulation (StateT S (StateM σ)) (StateM S) where
  Holds R x y := ∀ s w, R ((x.run s).run w).1.1 (y.run s).1 ∧ ((x.run s).run w).1.2 = (y.run s).2 ∧
    ((x.run s).run w).2 = w
  pure_holds hab := fun _ _ => ⟨hab, rfl, rfl⟩
  bind_holds {_ _ _ _ _ _ x y f g} hx hf := by
    intro s w
    obtain ⟨hab, hs, hw⟩ := hx s w
    have hthen := hf _ _ hab (y.run s).2 w
    have hrun : ((x >>= f).run s).run w = ((f ((x.run s).run w).1.1).run (y.run s).2).run w := by
      calc ((x >>= f).run s).run w =
            ((f ((x.run s).run w).1.1).run ((x.run s).run w).1.2).run ((x.run s).run w).2 := rfl
        _ = ((f ((x.run s).run w).1.1).run (y.run s).2).run w := by rw [hs, hw]
    rw [hrun]
    exact hthen

theorem Storage.sinks (path : Option String) (σ : Type) :
    (Simulation.worldless Storage σ).Sinks (sinkTo path) (sinkTo path) :=
  ⟨fun _ _ _ => ⟨rfl, rfl, rfl⟩, fun _ _ => ⟨rfl, rfl, rfl⟩⟩

theorem Storage.delivered_beside {S α : Type} {x : StateT Formatter (StateT S (StateT Storage (StateM σ))) α}
    {y : StateT Formatter (StateM Storage) α}
    (h : (((Simulation.worldless Storage σ).aside S).withState Formatter).Holds Eq x y)
    {path : Option String} {f f' : Formatter} {s : Storage} {a : α} {text : List Char}
    (delivers : (intake path).Delivers (y f) (a, f') text) (fine : (intake path).fine s) (t : S) (w : σ) :
    ∃ s', y f s = ((a, f'), s') ∧ (((x.run f).run t).run s).run w = ((((a, f'), t), s'), w) ∧
      (intake path).fine s' ∧ (intake path).taken s' = (intake path).taken s ++ text := by
  obtain ⟨s', hrun, hfine, htaken⟩ := delivers s fine
  obtain ⟨⟨⟨hresult, hformatter⟩, hbeside⟩, hstorage, hworld⟩ := h f t s w
  have hmodel : (y.run f).run s = ((a, f'), s') := hrun
  rw [hmodel] at hresult hformatter hstorage
  exact ⟨s', hrun, Prod.ext (Prod.ext (Prod.ext (Prod.ext hresult hformatter) hbeside) hstorage) hworld,
    hfine, htaken⟩

namespace Probe

theorem write_holds {m n : Type → Type} [Monad m] [Monad n] {sim : Simulation m n} {sink : Sink m}
    {model : Sink n} (h : sim.Sinks sink model) (path : Option String) (cycle : Nat) (result : CycleResult) :
    (sim.withState Formatter).Holds Eq (write ⟨sink, path⟩ cycle result) (write ⟨model, path⟩ cycle result) := by
  refine (sim.withState Formatter).bind_holds (Simulation.results h path _) ?_
  rintro outcome _ rfl
  cases outcome with
  | error failure => exact (sim.withState Formatter).pure_holds rfl
  | ok _ => exact Simulation.flush h path

abbrev Desk (S σ : Type) : Type → Type :=
  StateT Nat (StateT Formatter (StateT Session (StateT S (StateM σ))))

/-- The counter, the formatter and the storage behind the reports of some results. -/
structure Kept (format : OutputFormat) (path : Option String) (base : List Char) (n : Nat) (f : Formatter)
    (s : Storage) (results : List CycleResult) : Prop where
  counted : n = results.length
  formatter : f = between format
  fine : (Storage.intake path).fine s
  taken : (Storage.intake path).taken s = base ++ pages format 1 results
  settled : results ≠ [] → (Storage.intake path).written s = (Storage.intake path).taken s

/-- A poll that writes side by side with one that keeps a book. -/
def books (format : OutputFormat) (path : Option String) (base : List Char) (σ : Type) :
    Simulation (Desk Storage σ) (StateM (Book σ)) where
  Holds R x y := ∀ n f t s w results, Kept format path base n f s results →
    ∃ a b n' f' t' s' w' results',
      ((((x.run n).run f).run t).run s).run w = (((((a, n'), f'), t'), s'), w') ∧
      y.run ⟨t, w, results⟩ = (b, ⟨t', w', results'⟩) ∧ R a b ∧
      Kept format path base n' f' s' results'
  pure_holds hab := fun n f t s w results h => ⟨_, _, n, f, t, s, w, results, rfl, rfl, hab, h⟩
  bind_holds hx hf := by
    intro n f t s w results h
    obtain ⟨a, b, n₁, f₁, t₁, s₁, w₁, results₁, hrun, hdirect, hab, h₁⟩ := hx n f t s w results h
    obtain ⟨c, d, n', f', t', s', w', results', hrun', hdirect', hcd, h'⟩ :=
      hf a b hab n₁ f₁ t₁ s₁ w₁ results₁ h₁
    refine ⟨c, d, n', f', t', s', w', results', ?_, ?_, hcd, h'⟩
    · simp [hrun, hrun']
    · simp [hdirect, hdirect']

def sessions (S σ : Type) : Simulation (Desk S σ) (StateT Session (StateM σ)) :=
  ((((Simulation.same σ).aside S).withState Session).aside Formatter).aside Nat

section Sessions

variable {S : Type}

theorem sessions_client (link : Link (StateM σ)) (settings : SessionSettings) :
    (sessions S σ).Clients (Session.client link.lift settings).lift.lift (Session.client link settings) :=
  .aside Nat <| .aside Formatter <| Simulation.clients settings <| .aside S <| Simulation.links_refl link

theorem sessions_lift {α : Type} (x : StateM σ α) : (sessions S σ).Holds Eq
    (StateT.lift (StateT.lift (StateT.lift (StateT.lift x)))) (StateT.lift x) :=
  Simulation.aside_lift Nat <| Simulation.aside_lift Formatter <| Simulation.lift <|
    Simulation.aside_lift S (Simulation.same_refl x)

theorem sessions_cycle (registry : Registry) (link : Link (StateM σ)) (watch : Watch (StateM σ))
    (settings : ProbeSettings) :
    let watching : Watch (Desk S σ) := (watch.lift : Watch (StateT S (StateM σ))).lift.lift.lift
    let executor : Executor (Desk S σ) := ⟨registry, watching.stopped, watching.now⟩
    let model : Executor (StateT Session (StateM σ)) := ⟨registry, watch.lift.stopped, watch.lift.now⟩
    (sessions S σ).Holds Eq
      (executor.runCycle settings.category (Session.client link.lift settings.session).lift.lift)
      (model.runCycle settings.category (Session.client link settings.session)) := by
  intro watching executor model
  have hstopped : (sessions S σ).Holds Eq executor.stopped model.stopped := sessions_lift watch.stopped
  have hnow : (sessions S σ).Holds Eq executor.now model.now := sessions_lift watch.now
  have hregistry : executor.registry = model.registry := rfl
  exact Simulation.runCycle (sessions_client link settings.session) hregistry hstopped hnow settings.category

end Sessions

variable {format : OutputFormat} {path : Option String} {base : List Char}

theorem books_act {α : Type} {x : Desk Storage σ α} {y : StateT Session (StateM σ) α}
    (h : (sessions Storage σ).Holds Eq x y) :
    (books format path base σ).Holds Eq x (Book.act y) := by
  intro n f t s w results hkept
  obtain ⟨⟨⟨⟨⟨hab, hn⟩, hf⟩, ht⟩, hs⟩, hw⟩ := h n f t s w
  rcases hrun : ((((x.run n).run f).run t).run s).run w with ⟨⟨⟨⟨⟨a, n'⟩, f'⟩, t'⟩, s'⟩, w'⟩
  rw [hrun] at hab hn hf ht hs hw
  obtain rfl : n' = n := hn
  obtain rfl : f' = f := hf
  obtain rfl : s' = s := hs
  obtain rfl : t' = ((y.run t).run w).1.2 := ht
  obtain rfl : w' = ((y.run t).run w).2 := hw
  exact ⟨a, _, n', f', _, s', _, results, rfl, rfl, hab, hkept⟩

theorem books_watch (watch : Watch (StateM σ)) : (books format path base σ).Watches
    (watch.lift : Watch (StateT Storage (StateM σ))).lift.lift.lift (Book.watch watch) :=
  ⟨books_act (sessions_lift watch.now), fun t => books_act (sessions_lift (watch.waitUntil t)),
    books_act (sessions_lift watch.stopped)⟩

theorem books_report (result : CycleResult) : (books format path base σ).Holds Eq
    (report ⟨(Storage.sinkTo path).lift, path⟩ result) (Book.report result) := by
  intro n f t s w results h
  obtain ⟨rfl, rfl, hfine, htaken, _⟩ := h
  have hsame := write_holds ((Storage.sinks path σ).aside Session) path (results.length + 1) result
  obtain ⟨hdelivers, hsettles⟩ := write_delivered (k := Storage.intake path) path format (results.length + 1) result
  obtain ⟨s', hpage, hwrite, hfine', htaken'⟩ := Storage.delivered_beside hsame hdelivers hfine t w
  have hwritten := hsettles s hfine
  rw [hpage] at hwritten
  let act : Desk Storage σ (Except OutputFailure Unit) := report ⟨(Storage.sinkTo path).lift, path⟩ result
  have hreport : ((((act.run results.length).run (between format)).run t).run s).run w =
      (((((.ok (), results.length + 1), between format), t), s'), w) := by
    simp [act, report, hwrite]
  refine ⟨_, _, _, _, _, _, _, _, hreport, rfl, rfl, ⟨by simp, rfl, hfine', ?_, fun _ => hwritten⟩⟩
  rw [htaken', htaken, pages_concat, List.append_assoc, Nat.add_comm 1]

theorem books_cycle (registry : Registry) (link : Link (StateM σ)) (watch : Watch (StateM σ))
    (settings : ProbeSettings) :
    let watching : Watch (Desk Storage σ) := (watch.lift : Watch (StateT Storage (StateM σ))).lift.lift.lift
    let executor : Executor (Desk Storage σ) := ⟨registry, watching.stopped, watching.now⟩
    (books format path base σ).Holds Eq
      (executor.runCycle settings.category (Session.client link.lift settings.session).lift.lift)
      (Book.cycle registry link watch settings) :=
  books_act (sessions_cycle registry link watch settings)

end Probe

end MeterPolling
