import MeterPolling.Gateway
import MeterPolling.Program
import MeterPolling.Proofs.Probe.Book

namespace MeterPolling

variable {σ : Type}

theorem Registry.builtin_serves (category : Category) :
    ∃ plan, builtin.get category = .ok plan ∧ plan.category = category := by
  cases category with
  | abb => exact ⟨.abb, rfl, rfl⟩
  | schneider => exact ⟨.schneider, rfl, rfl⟩

namespace Probe

def closing : Option (Except (PollError OutputFailure) Summary) → Except ProbeError Unit
  | some (.error (.report failure)) => .error (.output failure)
  | some (.error e) => .error (.poll e)
  | _ => .ok ()

theorem run_uncounted {S α : Type} {x : Desk S σ α} {n n' : Nat} {f f' : Formatter} {t t' : Session} {s s' : S}
    {w w' : σ} {a : α} (h : ((((x.run n).run f).run t).run s).run w = (((((a, n'), f'), t'), s'), w')) :
    ((((x.run' n).run f).run t).run s).run w = ((((a, f'), t'), s'), w') := by
  simp [h]

theorem between_flush (format : OutputFormat) : (between format).flush = ({}, between format) := by
  cases format with
  | table => rfl
  | jsonl => rfl
  | csv => rfl

section Run

variable (registry : Registry) (link : Link (StateM σ)) (watch : Watch (StateM σ)) (settings : ProbeSettings)
  {path : Option String} {s : Storage}

theorem poll_run (format : OutputFormat) (fine : (Storage.intake path).fine s) (w : σ) :
    let o : Output (StateT Session (StateT Storage (StateM σ))) := ⟨(Storage.sinkTo path).lift, path⟩
    let client := Session.client link.lift settings.session
    let k := Storage.intake path
    ∃ laps result t' s' w',
      ((((poll registry watch.lift.lift client o settings).run (between format)).run {}).run s).run w =
        ((((result, between format), t'), s'), w') ∧
      Polled settings.pace (Book.watch watch) (Book.cycle registry link watch settings) Book.report {}
        { world := w } laps result ⟨t', w', laps.map Lap.result⟩ ∧
      (result = none → laps.length = fuel settings.pace) ∧ k.fine s' ∧
      k.taken s' = k.taken s ++ pages format 1 (laps.map Lap.result) ∧
      (laps ≠ [] → k.written s' = k.taken s') := by
  intro o client k
  have hwatch : (books format path (k.taken s) σ).Watches _ _ := books_watch watch
  have hsame := Simulation.poll settings.pace hwatch (books_cycle registry link watch settings) books_report
    (fuel settings.pace) {}
  obtain ⟨laps, result, b', hpoll, hpolled, hfuel⟩ := poll_polled settings.pace (Book.watch watch)
    (Book.cycle registry link watch settings) Book.report (fuel settings.pace) {} { world := w }
  have hresults := Book.polled_results hpolled
  -- The poll that writes goes along with the one in the book, whose laps are known.
  obtain ⟨a, _, n', f', t', s', w', results, hrun, hbook, rfl, hkept⟩ :=
    hsame 0 (between format) {} s w [] ⟨rfl, rfl, fine, by simp [pages, k], by simp⟩
  obtain ⟨rfl, rfl⟩ := Prod.mk.inj (hbook.symm.trans hpoll)
  obtain rfl : results = laps.map Lap.result := hresults
  obtain ⟨_, rfl, hfine, htaken, hsettled⟩ := hkept
  exact ⟨laps, _, t', s', w', run_uncounted hrun, hpolled, hfuel, hfine, htaken,
    fun hlaps => hsettled (by simpa using hlaps)⟩

theorem session_run {n : Nat} (count : settings.pace.cycles = some n) (quiet : ∀ w, (watch.stopped.run w).1 = false)
    {plan : Plan} (serves : registry.get settings.category = .ok plan) (format : OutputFormat)
    (fine : (Storage.intake path).fine s) (w : σ) :
    let o : Output (StateT Session (StateT Storage (StateM σ))) := ⟨(Storage.sinkTo path).lift, path⟩
    let client := Session.client link.lift settings.session
    let k := Storage.intake path
    ∃ laps result f' t' s' w',
      ((((session registry watch.lift.lift client o settings).run (.new format)).run {}).run s).run w =
        ((((closing (some result), f'), t'), s'), w') ∧
      Polled settings.pace (Book.watch watch) (Book.cycle registry link watch settings) Book.report {}
        { world := w } laps (some result) ⟨t', w', laps.map Lap.result⟩ ∧
      CountedEnd settings.pace n laps ⟨t', w', laps.map Lap.result⟩ (some result) ∧
      k.written s' = k.taken s ++ headText format ++ pages format 1 (laps.map Lap.result) := by
  intro o client k
  have hsinks := (Storage.sinks path σ).aside Session
  obtain ⟨pieces, hnew, hhead⟩ := headers_between format
  obtain ⟨s₁, _, hheaders, hfine₁, htaken₁⟩ := Storage.delivered_beside (Simulation.headers hsinks path headers)
    (Output.headers_delivered (k := k) hnew path) fine {} w
  obtain ⟨laps, result, t', s', w', hpoll, hpolled, hfuel, hfine', htaken', hsettled⟩ :=
    poll_run registry link watch settings format hfine₁ w
  have hflushed := Output.flush_printed (k := k) (between_flush format) path
  have hsettles := Output.flush_settles (k := k) (between_flush format) path
  obtain ⟨s₂, hlast, hflush, _, htaken₂⟩ :=
    Storage.delivered_beside (Simulation.flush hsinks path) hflushed hfine' t' w'
  have hown : ∀ b, CycleResult.Own ((Book.cycle registry link watch settings).run b).1 :=
    fun b _ aborted => (Book.cycle_own link serves quiet b aborted).2
  have hcounted := hpolled.counted count (fun b => quiet b.world) hown (fun _ _ => rfl) (n := n) (Nat.zero_add n)
  have htext : k.taken s' = k.taken s ++ headText format ++ pages format 1 (laps.map Lap.result) := by
    rw [htaken', htaken₁, hhead]
  have hprinted : k.written s₂ = k.taken s ++ headText format ++ pages format 1 (laps.map Lap.result) := by
    have hwritten := hsettles s' hfine'
    rw [hlast] at hwritten
    rw [hwritten, htaken₂, htext]
    exact List.append_nil _
  cases hcounted with
  | outOfFuel short =>
    have hlength := hfuel rfl
    have hmore : fuel settings.pace = n + 1 := by rw [fuel, count]
    omega
  | @through summary full kept =>
    refine ⟨laps, .ok summary, between format, t', s₂, w', ?_, hpolled, .through full kept, hprinted⟩
    simp [session, hheaders, hpoll, hflush, closing, o, client]
  | @aborted earlier last a stop split within kept result still =>
    refine ⟨laps, .error (.aborted a), between format, t', s₂, w', ?_, hpolled,
      .aborted stop split within kept result still, hprinted⟩
    simp [session, hheaders, hpoll, hflush, closing, o, client]
  | @beyondClock earlier last split short kept paced beyond =>
    -- There is no last flush behind a break, but each report has flushed its own page.
    refine ⟨laps, .error .beyondClock, between format, t', s', w', ?_, hpolled,
      .beyondClock split short kept paced beyond, (hsettled ?_).trans htext⟩
    · simp [session, hheaders, hpoll, closing, o, client]
    · simp [split]

theorem run_run {n : Nat} (count : settings.pace.cycles = some n) (quiet : ∀ w, (watch.stopped.run w).1 = false)
    {plan : Plan} (serves : registry.get settings.category = .ok plan) (writable : s.Writable settings.output.path)
    (w : σ) :
    let client := Session.client link.lift settings.session
    let opened := (s.opening settings.output.path).medium settings.output.path
    ∃ laps result t' s' w',
      (((run registry Storage.files.lift watch.lift.lift client settings).run {}).run s).run w =
        (((closing (some result), t'), s'), w') ∧
      Polled settings.pace (Book.watch watch) (Book.cycle registry link watch settings) Book.report {}
        { world := w } laps (some result) ⟨t', w', laps.map Lap.result⟩ ∧
      CountedEnd settings.pace n laps ⟨t', w', laps.map Lap.result⟩ (some result) ∧
      (s'.medium settings.output.path).written.toList = (opened.written ++ opened.held).toList ++
        headText settings.output.format ++ pages settings.output.format 1 (laps.map Lap.result) := by
  intro client opened
  have hstart := Storage.start_writable settings.output writable ({} : Session) w
  have hfine : (Storage.intake settings.output.path).fine (s.opening settings.output.path) :=
    ⟨writable.fault, writable.empty⟩
  obtain ⟨laps, result, f', t', s', w', hsession, hpolled, hcounted, hwritten⟩ :=
    session_run registry link watch settings count quiet serves settings.output.format hfine w
  refine ⟨laps, result, t', s', w', ?_, hpolled, hcounted, hwritten⟩
  simp [run, hstart, hsession, client]

end Run

/-- How the program exits behind the laps of a probe for `n` cycles, and what world it leaves. -/
inductive Ends (settings : ProbeSettings) (n : Nat) (laps : List (Lap (Book σ) OutputFailure)) (w' : σ) :
    Exit → Prop
  | through (full : laps.length = n) (kept : settings.pace.stopOnError → ∀ lap ∈ laps, lap.result.isOk) :
      Ends settings n laps w' .success
  /-- The last cycle was aborted. Nothing is asked of the meter any more, and its failure is told twice. -/
  | stopped {earlier : List (Lap (Book σ) OutputFailure)} {last : Lap (Book σ) OutputFailure} {a : Aborted}
      {failure : Entry} (stop : settings.pace.stopOnError) (split : laps = earlier ++ [last])
      (within : laps.length ≤ n) (kept : ∀ lap ∈ earlier, lap.result.isOk) (result : last.result = .error a)
      (still : w' = last.ended.world)
      (listed : entries laps.length last.result = a.completed.map (outcomeEntry laps.length) ++ [failure])
      (row : failure.row = [toString laps.length, a.error.command?.getD "", "",
        "error: " ++ ": ".intercalate a.error.chain])
      (record : failure.record = .object [("cycle", .int laps.length),
        ("name", (a.error.command?.map Json.string).getD .null),
        ("error", .string (": ".intercalate a.error.chain))]) :
      Ends settings n laps w' {
        status := 1
        complaint := "error: polling the meter failed" :: (["polling stopped",
          s!"the {settings.category.name} poll cycle was aborted after {a.completed.length} commands"] ++
          a.error.chain).map ("  because: " ++ ·) }
  /-- The next cycle would begin at a time that the clock cannot tell. -/
  | beyondClock {earlier : List (Lap (Book σ) OutputFailure)} {last : Lap (Book σ) OutputFailure}
      (split : laps = earlier ++ [last]) (short : laps.length < n)
      (kept : settings.pace.stopOnError → ∀ lap ∈ laps, lap.result.isOk)
      (paced : settings.pace.interval.nanoseconds ≠ 0) (beyond : (last.next settings.pace).onClock = false) :
      Ends settings n laps w' (.broken "overflow when adding duration to instant")

theorem exit_aborted (a : Aborted) :
    Exit.ofResult ProbeError.chain ProbeError.break? (closing (some (.error (.aborted a)))) = {
      status := 1
      complaint := "error: polling the meter failed" :: (["polling stopped",
        s!"the {a.category.name} poll cycle was aborted after {a.completed.length} commands"] ++
        a.error.chain).map ("  because: " ++ ·) } := by
  simp [Exit.ofResult, closing, ProbeError.break?, Exit.failure, ProbeError.chain, PollError.chain, Aborted.chain]

theorem ends_of_counted {settings : ProbeSettings} {n : Nat} {laps : List (Lap (Book σ) OutputFailure)} {b' : Book σ}
    {result : Except (PollError OutputFailure) Summary} (h : CountedEnd settings.pace n laps b' (some result))
    (served : ∀ lap ∈ laps, ∀ a, lap.result = .error a → a.category = settings.category)
    (noted : ∀ lap ∈ laps, lap.reported.world = lap.ended.world) :
    Ends settings n laps b'.world (Exit.ofResult ProbeError.chain ProbeError.break? (closing (some result))) := by
  cases h with
  | through full kept => exact .through full kept
  | @aborted earlier last a stop split within kept result still =>
    have hlast : last ∈ laps := by simp [split]
    have hlisted : entries laps.length last.result =
        a.completed.map (outcomeEntry laps.length) ++ [failureEntry laps.length a.error] := by
      rw [result]
      rfl
    rw [exit_aborted, served last hlast a result]
    exact .stopped stop split within kept result (still ▸ noted last hlast) hlisted rfl rfl
  | beyondClock split short kept paced beyond => exact .beyondClock split short kept paced beyond

end Probe

/--
A probe is asked for `n` cycles, nobody asks for a stop, and its output can be written. Then it polls the meter with
the built-in plans and writes the results of all cycles that it runs, from the first one on. It runs `n` cycles and
exits well, whatever fails in them; or it is told to stop at a failure, and the first aborted cycle is the last one;
or it breaks off between two cycles, because the clock does not reach as far as the interval.
-/
theorem probe_exit (watch : Watch (StateM σ)) (link : SessionSettings → Link (StateM σ)) (storage : Storage) (w : σ)
    {logFilter : String} {arguments : List String} {settings : ProbeSettings} {n : Nat}
    (filter : Options.checkLogFilter logFilter = .ok ())
    (accepted : Invocation.parse arguments = .ok (.probe settings)) (count : settings.pace.cycles = some n)
    (writable : storage.Writable settings.output.path) (quiet : ∀ w, (watch.stopped.run w).1 = false) :
    let host : Host (StateT Storage (StateM σ)) := ⟨Storage.files, watch.lift, fun s => (link s).lift⟩
    let cycle := Book.cycle .builtin (link settings.session) watch settings
    let path := settings.output.path
    let format := settings.output.format
    let opened := (storage.opening path).medium path
    ∃ exit storage' laps ending session' w',
      ((Program.run host logFilter arguments).run storage).run w = ((exit, storage'), w') ∧
      Polled settings.pace (Book.watch watch) cycle Book.report {} { world := w } laps (some ending)
        ⟨session', w', laps.map Lap.result⟩ ∧
      (∀ lap ∈ laps, lap.result.Own) ∧
      (storage'.medium path).written.toList = (opened.written ++ opened.held).toList ++ Probe.headText format ++
        Probe.pages format 1 (laps.map Lap.result) ∧
      Probe.Ends settings n laps w' exit := by
  intro host cycle path format opened
  obtain ⟨plan, hplan, hcategory⟩ := Registry.builtin_serves settings.category
  obtain ⟨laps, result, t', s', w', hrun, hpolled, hcounted, hwritten⟩ :=
    Probe.run_run .builtin (link settings.session) watch settings count quiet hplan writable w
  have hprogram : ((Program.run host logFilter arguments).run storage).run w =
      ((Exit.ofResult ProbeError.chain ProbeError.break? (Probe.closing (some result)), s'), w') := by
    simp [Program.run, filter, accepted, Program.serve, host, hrun]
  have hlaps : ∀ lap ∈ laps, lap.reported.world = lap.ended.world ∧ ∀ a, lap.result = .error a →
      a.category = settings.category ∧ a.error.isInterrupted = false ∧ a.error.isPlan = false := by
    intro lap hlap
    obtain ⟨b, hfollows⟩ := hpolled.follows lap hlap
    refine ⟨(congrArg (·.2.world) hfollows.reported).symm, ?_⟩
    intro a aborted
    have hown := Book.cycle_own (link settings.session) hplan quiet lap.begun (a := a)
    rw [hfollows.ended, hcategory] at hown
    exact hown aborted
  refine ⟨_, s', laps, result, t', w', hprogram, hpolled, ?_, hwritten, ?_⟩
  · exact fun lap hlap a aborted => ((hlaps lap hlap).2 a aborted).2
  · exact Probe.ends_of_counted hcounted (fun lap hlap a aborted => ((hlaps lap hlap).2 a aborted).1)
      fun lap hlap => (hlaps lap hlap).1

theorem probe_exit_twice :
    let arguments := ["probe", "--tcp", "127.0.0.1", "-d", "abb", "-n", "2", "-f", "csv"]
    let settings : ProbeSettings :=
      { session := { host := "127.0.0.1" }, category := .abb, pace := { cycles := some 2 }, output := { format := .csv } }
    let gateway : Gateway := { network := {}, address := some "127.0.0.1", script := {}, bank := {} }
    let host : Host (StateT Storage (StateM Gateway)) :=
      ⟨Storage.files, Gateway.watch.lift, fun s => (Gateway.link s).lift⟩
    Options.checkLogFilter "info" = .ok () ∧ Invocation.parse arguments = .ok (.probe settings) ∧
    settings.pace.cycles = some 2 ∧ Storage.Writable {} settings.output.path ∧
    (∀ g, (Gateway.watch.stopped.run g).1 = false) ∧
    ∃ storage' results gateway',
      ((Program.run host "info" arguments).run {}).run gateway = ((.success, storage'), gateway') ∧
      results.length = 2 ∧
      storage'.terminal.written.toList = Probe.headText .csv ++ Probe.pages .csv 1 results := by
  intro arguments settings gateway host
  have hfilter : Options.checkLogFilter "info" = .ok () := rfl
  have haccepted : Invocation.parse arguments = .ok (.probe settings) := rfl
  have hwritable : Storage.Writable {} settings.output.path := ⟨nofun, rfl, fun _ => rfl⟩
  have hquiet : ∀ g, (Gateway.watch.stopped.run g).1 = false := fun _ => rfl
  obtain ⟨exit, storage', laps, ending, session', gateway', hrun, _, _, hwritten, hends⟩ :=
    probe_exit Gateway.watch Gateway.link {} gateway hfilter haccepted rfl hwritable hquiet
  refine ⟨hfilter, haccepted, rfl, hwritable, hquiet, storage', laps.map Lap.result, gateway', ?_⟩
  cases hends with
  | through full _ => exact ⟨hrun, by rw [List.length_map, full], hwritten⟩
  | stopped stop => cases stop
  | beyondClock _ _ _ paced => exact absurd rfl paced

end MeterPolling
