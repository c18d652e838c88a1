import Mathlib.Algebra.GroupWithZero.Nat
import MeterPolling.Proofs.Polling.Accounting
import MeterPolling.Proofs.Polling.Laps
import MeterPolling.Proofs.Polling.Shutdown

namespace MeterPolling

variable {σ ε : Type}

/--
What of virtual time is relied on. `time` tells it, and `cut` when the token that the loop holds, if any, is
cancelled in a wait from a world until some time. Such a token stays cancelled.
-/
structure VirtualTime (time : σ → Nat) (cut : σ → TimeSpan → Option Nat) (watch : Watch (StateM σ))
    (x : Executor (StateM σ)) (client : Client (StateM σ))
    (report : CycleResult → StateM σ (Except ε Unit)) : Prop where
  clock : ∀ w, (watch.now.run w).1.nanoseconds = time w ∧ time (watch.now.run w).2 = time w
  look : ∀ w, time (watch.stopped.run w).2 = time w
  lasting : ∀ w, (watch.stopped.run w).1 → (watch.stopped.run (watch.stopped.run w).2).1
  through : ∀ w t, cut w t = none → time ((watch.waitUntil t).run w).2 = max (time w) t.nanoseconds ∧
    (watch.stopped.run ((watch.waitUntil t).run w).2).1 = false
  short : ∀ w t T, cut w t = some T → time ((watch.waitUntil t).run w).2 = T ∧
    (watch.stopped.run ((watch.waitUntil t).run w).2).1
  cycleLook : ∀ w, time (x.stopped.run w).2 = time w
  cycleClock : ∀ w, time (x.now.run w).2 = time w
  read : ∀ register count w, time w ≤ time ((client.read register count).run w).2
  write : ∀ register values w, time w ≤ time ((client.write register values).run w).2
  report : ∀ result w, time ((report result).run w).2 = time w

def clocking {α : Type} (time : σ → Nat) (a : StateM σ α) : StateT (List Nat) (StateM σ) α :=
  fun durations w =>
    let run := a.run w
    ((run.1, durations ++ [time run.2 - time w]), run.2)

def Client.clocked (time : σ → Nat) (client : Client (StateM σ)) :
    Client (StateT (List Nat) (StateM σ)) where
  read register count := clocking time (client.read register count)
  write register values := clocking time (client.write register values)

def Simulation.clocked (time : σ → Nat) : Simulation (StateT (List Nat) (StateM σ)) (StateM σ) where
  Holds R x y := ∀ durations w,
    R ((x.run durations).run w).1.1 (y.run w).1 ∧ ((x.run durations).run w).2 = (y.run w).2 ∧
      time (y.run w).2 + durations.sum = time w + ((x.run durations).run w).1.2.sum
  pure_holds hab := fun _ _ => ⟨hab, rfl, rfl⟩
  bind_holds {_ _ _ _ _ _ x y f g} hx hf := by
    intro durations w
    obtain ⟨hab, hw, hfirst⟩ := hx durations w
    obtain ⟨hcd, hw', hthen⟩ := hf _ _ hab ((x.run durations).run w).1.2 (y.run w).2
    have hlast : ((x >>= f).run durations).run w =
        ((f ((x.run durations).run w).1.1).run ((x.run durations).run w).1.2).run (y.run w).2 := by
      rw [← hw]
      rfl
    rw [hlast]
    refine ⟨hcd, hw', ?_⟩
    have hsum : time ((y >>= g).run w).2 = time ((g (y.run w).1).run (y.run w).2).2 := rfl
    omega

section Time

variable {time : σ → Nat} {cut : σ → TimeSpan → Option Nat} {p : Pace} {watch : Watch (StateM σ)}
  {x : Executor (StateM σ)} {client : Client (StateM σ)} {report : CycleResult → StateM σ (Except ε Unit)}

theorem clocking_holds {α : Type} {a : StateM σ α} (later : ∀ w, time w ≤ time (a.run w).2) :
    (Simulation.clocked time).Holds Eq (clocking time a) a := by
  intro durations w
  refine ⟨rfl, rfl, ?_⟩
  have hlater := later w
  have hsum : (durations ++ [time (a.run w).2 - time w]).sum =
      durations.sum + (time (a.run w).2 - time w) := by simp
  calc time (a.run w).2 + durations.sum = time w + (durations.sum + (time (a.run w).2 - time w)) := by omega
    _ = time w + (durations ++ [time (a.run w).2 - time w]).sum := by rw [hsum]

theorem still_holds {α : Type} {a : StateM σ α} (still : ∀ w, time (a.run w).2 = time w) :
    (Simulation.clocked time).Holds Eq (StateT.lift a) a := by
  intro durations w
  exact ⟨rfl, rfl, congrArg (· + durations.sum) (still w)⟩

namespace VirtualTime

theorem cycle_takes (h : VirtualTime time cut watch x client report) (category : Category) (w : σ) :
    ∃ durations : List Nat,
      ((x.lift.runCycle category (client.clocked time)).run []).run w =
        ((((x.runCycle category client).run w).1, durations), ((x.runCycle category client).run w).2) ∧
      time ((x.runCycle category client).run w).2 = time w + durations.sum := by
  have hclient : (Simulation.clocked time).Clients (client.clocked time) client :=
    ⟨fun register count _ => clocking_holds (h.read register count),
      fun register values _ => clocking_holds (h.write register values)⟩
  have hcycle := Simulation.runCycle hclient (x := x.lift) (y := x) rfl (still_holds h.cycleLook)
    (still_holds h.cycleClock) category
  obtain ⟨hresult, hworld, htime⟩ := hcycle [] w
  refine ⟨_, ?_, htime⟩
  rw [← hresult, ← hworld]
  rfl

end VirtualTime

/-- When the token is cancelled in the wait behind a lap, if it is. -/
def Lap.cutAt (lap : Lap σ ε) (cut : σ → TimeSpan → Option Nat) (p : Pace) : Option Nat :=
  lap.waits.bind fun w => cut w (lap.next p)

namespace VirtualTime

variable {s s' : Summary} {lap : Lap σ ε} {w w' : σ}

theorem finished_time (h : VirtualTime time cut watch x client report) {full : Bool}
    (look : (finished p watch s).run w = (full, w')) : time w' = time w := by
  rw [finished_run] at look
  obtain ⟨_, hw⟩ := Prod.mk.inj look
  rw [← hw]
  exact h.look w

theorem finished_lasting (h : VirtualTime time cut watch x client report)
    (look : (finished p watch s).run w = (true, w')) : ((finished p watch s).run w').1 = true := by
  rw [finished_run] at look ⊢
  obtain ⟨hfull, rfl⟩ := Prod.mk.inj look
  rcases (Bool.or_eq_true _ _).mp hfull with hstop | hreached
  · simp [h.lasting w hstop]
  · simp [hreached]

theorem follows_times (h : VirtualTime time cut watch x client report) {category : Category}
    (follows : lap.Follows watch (x.runCycle category client) report w) :
    lap.start.nanoseconds = time w ∧ time lap.reported = time lap.ended ∧
      ∃ durations : List Nat, ((x.lift.runCycle category (client.clocked time)).run []).run lap.begun =
          ((lap.result, durations), lap.ended) ∧
        time lap.ended = lap.start.nanoseconds + durations.sum := by
  obtain ⟨hstart, hbegun⟩ := h.clock w
  rw [follows.begun] at hstart hbegun
  have hreported := h.report lap.result lap.ended
  rw [follows.reported] at hreported
  obtain ⟨durations, hrun, htime⟩ := h.cycle_takes category lap.begun
  rw [follows.ended] at hrun htime
  refine ⟨hstart, hreported, durations, hrun, ?_⟩
  rw [htime, hbegun, hstart]

theorem passed_times (h : VirtualTime time cut watch x client report)
    (reported : time lap.reported = time lap.ended) (after : lap.start.nanoseconds ≤ time lap.ended)
    (passed : Passed p watch s lap (.goOn s') w') :
    (lap.cutAt cut p = none ∧ ((finished p watch s').run w').1 = true ∧ time w' = time lap.ended) ∨
    (lap.cutAt cut p = some (time w') ∧ ((finished p watch s').run w').1 = true) ∨
    (lap.cutAt cut p = none ∧ ((finished p watch s').run w').1 = false ∧
      time w' = max (time lap.ended) (lap.start.nanoseconds + p.interval.nanoseconds)) := by
  unfold Lap.cutAt
  cases passed with
  | unpaced outcome verdict zero on =>
    rw [on]
    cases hf : ((finished p watch s').run lap.reported).1 with
    | true => exact .inl ⟨rfl, rfl, reported⟩
    | false => exact .inr (.inr ⟨rfl, rfl, by omega⟩)
  | full outcome verdict paced look on =>
    rw [on]
    exact .inl ⟨rfl, h.finished_lasting look, (h.finished_time look).trans reported⟩
  | @waited _ w₁ _ outcome verdict paced look onClock waits wait =>
    have hw' : w' = ((watch.waitUntil (lap.next p)).run w₁).2 := by rw [wait]
    rw [waits, Option.bind_some, hw', finished_run]
    cases hc : cut w₁ (lap.next p) with
    | some T =>
      obtain ⟨htime, hstop⟩ := h.short w₁ (lap.next p) T hc
      exact .inr (.inl ⟨by rw [htime], by simp [hstop]⟩)
    | none =>
      obtain ⟨htime, hgo⟩ := h.through w₁ (lap.next p) hc
      have hw₁ := (h.finished_time look).trans reported
      have hroom : p.reached s' = false := by
        rw [finished_run] at look
        exact (Bool.or_eq_false_iff.mp (congrArg Prod.fst look)).2
      refine .inr (.inr ⟨rfl, by simp [hgo, hroom], ?_⟩)
      rw [htime, hw₁]
      rfl

theorem done_time (h : VirtualTime time cut watch x client report)
    {ending : Except (PollError ε) Summary} (passed : Passed p watch s lap (.done ending) w') :
    lap.cutAt cut p = none ∧ time w' = time lap.reported := by
  unfold Lap.cutAt
  cases passed with
  | unreported outcome on => simp [on]
  | judged outcome verdict on => simp [on]
  | beyondClock outcome verdict paced look beyond on => simp [on, h.finished_time look]

end VirtualTime

/-- When the laps of a run begin, and when the run ends. -/
structure Paced (time : σ → Nat) (cut : σ → TimeSpan → Option Nat) (p : Pace) (w : σ)
    (laps : List (Lap σ ε)) (result : Option (Except (PollError ε) Summary)) (w' : σ) : Prop where
  first : ∀ lap ∈ laps.head?, lap.start.nanoseconds = time w
  next : ∀ i a b, laps[i]? = some a → laps[i + 1]? = some b →
    b.start.nanoseconds = max (time a.ended) (a.start.nanoseconds + p.interval.nanoseconds)
  uncut : ∀ lap ∈ laps.dropLast, lap.cutAt cut p = none
  ends : ∀ last ∈ laps.getLast?, last.cutAt cut p = none → result.isSome → time w' = time last.ended
  cut : ∀ last ∈ laps.getLast?, ∀ T, last.cutAt cut p = some T →
    time w' = T ∧ ∀ ending ∈ result, ∃ s, ending = .ok s
  idle : laps = [] → time w' = time w

namespace Paced

variable {lap b : Lap σ ε} {laps : List (Lap σ ε)} {result : Option (Except (PollError ε) Summary)}
  {w w₁ w' : σ}

theorem nil (idle : time w' = time w) : Paced time cut p w ([] : List (Lap σ ε)) result w' :=
  ⟨by simp, by simp, by simp, by simp, by simp, fun _ => idle⟩

theorem single (first : lap.start.nanoseconds = time w)
    (ends : lap.cutAt cut p = none → result.isSome → time w' = time lap.ended)
    (cuts : ∀ T, lap.cutAt cut p = some T → time w' = T ∧ ∀ ending ∈ result, ∃ s, ending = .ok s) :
    Paced time cut p w [lap] result w' := by
  refine ⟨?_, by simp, by simp, ?_, ?_, by simp⟩
  · simpa using first
  · simpa using ends
  · simpa using cuts

theorem cons (first : lap.start.nanoseconds = time w) (uncut : lap.cutAt cut p = none)
    (next : time w₁ = max (time lap.ended) (lap.start.nanoseconds + p.interval.nanoseconds))
    (rest : Paced time cut p w₁ (b :: laps) result w') : Paced time cut p w (lap :: b :: laps) result w' := by
  have hb : b.start.nanoseconds = time w₁ := rest.first b rfl
  refine ⟨?_, ?_, ?_, ?_, ?_, by simp⟩
  · simpa using first
  · intro i a c ha hc
    cases i with
    | zero =>
      cases ha
      cases hc
      exact hb.trans next
    | succ i => exact rest.next i a c ha hc
  · rw [List.dropLast_cons_cons]
    exact List.forall_mem_cons.mpr ⟨uncut, rest.uncut⟩
  · rw [List.getLast?_cons_cons]
    exact rest.ends
  · rw [List.getLast?_cons_cons]
    exact rest.cut

end Paced

theorem VirtualTime.paced (h : VirtualTime time cut watch x client report) {category : Category}
    {s : Summary} {w w' : σ} {laps : List (Lap σ ε)} {result : Option (Except (PollError ε) Summary)}
    (polled : Polled p watch (x.runCycle category client) report s w laps result w') :
    Paced time cut p w laps result w' := by
  induction polled with
  | outOfFuel => exact .nil rfl
  | halted look => exact .nil (h.finished_time look)
  | @last s lap ending w w₁ w' look follows passed =>
    have hlook := h.finished_time look
    obtain ⟨hstart, hreported, _⟩ := h.follows_times follows
    obtain ⟨huncut, hends⟩ := h.done_time passed
    refine .single (hstart.trans hlook) (fun _ _ => hends.trans hreported) ?_
    intro T hT
    rw [huncut] at hT
    cases hT
  | @next s s' lap laps result w w₁ w₂ w' look follows passed more ih =>
    have hlook := h.finished_time look
    obtain ⟨hstart, hreported, durations, _, hended⟩ := h.follows_times follows
    have hfirst := hstart.trans hlook
    have hpassed := h.passed_times hreported (by omega) passed
    have hcut : ∀ T, lap.cutAt cut p = some T → time w₂ = T := by
      intro T hT
      rcases hpassed with ⟨huncut, _⟩ | ⟨hcut, _⟩ | ⟨huncut, _⟩
      · cases huncut.symm.trans hT
      · exact Option.some.inj (hcut.symm.trans hT)
      · cases huncut.symm.trans hT
    -- Only if the loop goes on is it time for another lap.
    have hnext : ((finished p watch s').run w₂).1 = false → lap.cutAt cut p = none ∧
        time w₂ = max (time lap.ended) (lap.start.nanoseconds + p.interval.nanoseconds) := by
      intro hgo
      rcases hpassed with ⟨_, hstop, _⟩ | ⟨_, hstop⟩ | ⟨huncut, _, htime⟩
      · cases hgo.symm.trans hstop
      · cases hgo.symm.trans hstop
      · exact ⟨huncut, htime⟩
    cases more with
    | outOfFuel => exact .single hfirst (by simp) (fun T hT => ⟨hcut T hT, by simp⟩)
    | halted head =>
      have hhead := h.finished_time head
      refine .single hfirst ?_ (fun T hT => ⟨hhead.trans (hcut T hT), by simp⟩)
      intro huncut _
      rcases hpassed with ⟨_, _, htime⟩ | ⟨hcut, _⟩ | ⟨_, hgo, _⟩
      · exact hhead.trans htime
      · cases huncut.symm.trans hcut
      · simp [head] at hgo
    | last head _ _ =>
      obtain ⟨huncut, htime⟩ := hnext (by rw [head])
      exact .cons hfirst huncut htime ih
    | next head _ _ _ =>
      obtain ⟨huncut, htime⟩ := hnext (by rw [head])
      exact .cons hfirst huncut htime ih

end Time

/--
The pace of polling in virtual time, however long the calls take. A lap takes the time of its calls. The next one
begins when it has ended and the interval since its beginning is over, whichever is later, and so back to back
without an interval. Polling ends when its last lap ends, however it ends; but if the token of the loop is
cancelled in a wait, it ends then, and well.
-/
theorem cycles_paced (time : σ → Nat) (cut : σ → TimeSpan → Option Nat) (p : Pace)
    (watch : Watch (StateM σ)) (x : Executor (StateM σ)) (category : Category) (client : Client (StateM σ))
    (report : CycleResult → StateM σ (Except ε Unit)) (fuel : Nat) (w : σ)
    (virtual : VirtualTime time cut watch x client report) :
    ∃ (laps : List (Lap σ ε)) (result : Option (Except (PollError ε) Summary)) (w' : σ),
      (poll p watch (x.runCycle category client) report fuel {}).run w = (result, w') ∧
      Polled p watch (x.runCycle category client) report {} w laps result w' ∧
      (∀ lap ∈ laps, ∃ durations : List Nat,
        ((x.lift.runCycle category (client.clocked time)).run []).run lap.begun =
          ((lap.result, durations), lap.ended) ∧
        time lap.ended = lap.start.nanoseconds + durations.sum) ∧
      Paced time cut p w laps result w' ∧
      (p.interval.nanoseconds = 0 → ∀ i a b, laps[i]? = some a → laps[i + 1]? = some b →
        b.start.nanoseconds = time a.ended) ∧
      (laps.length < fuel → result.isSome) ∧ ∀ n, p.cycles = some n → n < fuel → result.isSome := by
  obtain ⟨laps, result, w', hrun, hpolled, hfuel⟩ :=
    poll_polled p watch (x.runCycle category client) report fuel {} w
  have hpaced := virtual.paced hpolled
  have htakes : ∀ lap ∈ laps, ∃ durations : List Nat,
      ((x.lift.runCycle category (client.clocked time)).run []).run lap.begun =
        ((lap.result, durations), lap.ended) ∧
      time lap.ended = lap.start.nanoseconds + durations.sum := by
    intro lap hlap
    obtain ⟨w₁, follows⟩ := hpolled.follows lap hlap
    exact (virtual.follows_times follows).2.2
  refine ⟨laps, result, w', hrun, hpolled, htakes, hpaced, ?_, ?_, ?_⟩
  · intro hzero i a b ha hb
    have hnext := hpaced.next i a b ha hb
    obtain ⟨durations, _, hended⟩ := htakes a (List.mem_of_getElem? ha)
    omega
  · intro hlt
    rw [Option.isSome_iff_ne_none]
    intro hnone
    have hlength := hfuel hnone
    omega
  · intro n hn hlt
    obtain ⟨_, _, result', _, _, hrun', _, hcount, _⟩ :=
      poll_accounting p watch x category client report fuel w
    obtain ⟨_, hsome, _⟩ := hcount n hn
    obtain ⟨hresult, _⟩ := Prod.mk.inj (hrun.symm.trans hrun')
    exact hresult ▸ hsome hlt

namespace Bench

/-- When the wish to stop is there in a wait until `t`, for a loop that sees it. -/
def cut (seesStop : Bool) (b : Bench) (t : TimeSpan) : Option Nat :=
  if seesStop && b.stopped then some b.now.nanoseconds
  else
    match b.stopAt with
    | some s =>
      if seesStop ∧ b.now.nanoseconds < t.nanoseconds ∧ s.nanoseconds < t.nanoseconds then
        some (max b.now.nanoseconds s.nanoseconds)
      else none
    | none => none

theorem now_sleepUntil (b : Bench) (t : TimeSpan) :
    (b.sleepUntil t).now.nanoseconds = max b.now.nanoseconds t.nanoseconds := by
  unfold sleepUntil
  split
  next h => exact (Nat.max_eq_right (Nat.le_of_lt h)).symm
  next h => exact (Nat.max_eq_left (Nat.le_of_not_lt h)).symm

theorem now_arrive (b : Bench) : b.now.nanoseconds ≤ b.arrive.2.now.nanoseconds := by
  have hslept := now_sleepUntil { b with calls := b.calls + 1 } (b.now.pauseEnd b.delay)
  unfold arrive
  simp only
  split
  next => simp only [hslept]; omega
  next => simp only [hslept]; omega

theorem waitUntil_cut (driver : Bool) (b : Bench) (t : TimeSpan) :
    let b' := if driver then b.waitUntil t else b.sleepUntil t
    match cut driver b t with
    | none => b'.now.nanoseconds = max b.now.nanoseconds t.nanoseconds ∧ (driver && b'.stopped) = false
    | some T => b'.now.nanoseconds = T ∧ (driver && b'.stopped) = true := by
  cases driver with
  | false =>
    have hcut : cut false b t = none := by
      unfold cut
      cases b.stopAt with
      | none => rfl
      | some s => simp
    simp [hcut, now_sleepUntil]
  | true =>
    cases hs : b.stopped with
    | true => simp [cut, waitUntil, hs]
    | false =>
      by_cases hlt : b.now.nanoseconds < t.nanoseconds
      · have hmax : max b.now.nanoseconds t.nanoseconds = t.nanoseconds := Nat.max_eq_right (Nat.le_of_lt hlt)
        cases hat : b.stopAt with
        | none => simp [cut, waitUntil, sleepUntil, hs, hlt, hat, hmax]
        | some s =>
          by_cases hdue : s.nanoseconds < t.nanoseconds
          · simp [cut, waitUntil, sleepUntil, hs, hlt, hat, hdue]
          · simp [cut, waitUntil, sleepUntil, hs, hlt, hat, hdue, hmax]
      · have hmax : max b.now.nanoseconds t.nanoseconds = b.now.nanoseconds :=
          Nat.max_eq_left (Nat.le_of_not_lt hlt)
        cases hat : b.stopAt with
        | none => simp [cut, waitUntil, sleepUntil, hs, hlt, hat, hmax]
        | some s => simp [cut, waitUntil, sleepUntil, hs, hlt, hat, hmax]

theorem virtualTime (registry : Registry) (driver executor : Bool)
    (report : CycleResult → StateM Bench (Except ε Unit))
    (still : ∀ result (b : Bench), ((report result).run b).2.now = b.now) :
    VirtualTime (·.now.nanoseconds) (cut driver) (watch driver) (Bench.executor registry executor) client
      report where
  clock _ := ⟨rfl, rfl⟩
  look _ := rfl
  lasting _ h := h
  through b t hcut := by
    have hwait := waitUntil_cut driver b t
    rw [hcut] at hwait
    exact hwait
  short b t T hcut := by
    have hwait := waitUntil_cut driver b t
    rw [hcut] at hwait
    exact hwait
  cycleLook _ := rfl
  cycleClock _ := rfl
  read register count b := by
    rw [read_world]
    exact now_arrive b
  write register values b := by
    obtain ⟨bank, hw⟩ := write_world register values b
    rw [hw]
    exact now_arrive b
  report result b := congrArg TimeSpan.nanoseconds (still result b)

end Bench

theorem cycles_paced_bench :
    let p : Pace := { interval := .ofSeconds 10 }
    let x := Bench.executor .builtin true
    let report : CycleResult → StateM Bench (Except String Unit) := fun _ => pure (.ok ())
    let b : Bench := { delay := .ofMilliseconds 500, stopAt := some (.ofSeconds 18), bank := some {} }
    let time : Bench → Nat := fun b => b.now.nanoseconds
    VirtualTime time (Bench.cut true) (Bench.watch true) x Bench.client report ∧
    ∃ (laps : List (Lap Bench String)) (result : Option (Except (PollError String) Summary)) (b' : Bench),
      (poll p (Bench.watch true) (x.runCycle .abb Bench.client) report 5 {}).run b = (result, b') ∧
      Paced time (Bench.cut true) p b laps result b' := by
  intro p x report b time
  have hvirtual : VirtualTime time (Bench.cut true) (Bench.watch true) x Bench.client report :=
    Bench.virtualTime .builtin true true report fun _ _ => rfl
  obtain ⟨laps, result, b', hrun, _, _, hpaced, _⟩ :=
    cycles_paced time (Bench.cut true) p (Bench.watch true) x .abb Bench.client report 5 b hvirtual
  exact ⟨hvirtual, laps, result, b', hrun, hpaced⟩

end MeterPolling
