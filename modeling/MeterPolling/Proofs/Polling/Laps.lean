import MeterPolling.Proofs.Effect
import MeterPolling.Proofs.Polling.Rounds

namespace MeterPolling

structure Lap (σ ε : Type) where
  start : TimeSpan
  begun : σ
  result : CycleResult
  ended : σ
  outcome : Except ε Unit
  reported : σ
  /-- The world in which the loop begins to wait for the next lap, if it does. -/
  waits : Option σ := none

variable {σ ε : Type}

section Laps

variable (p : Pace) (watch : Watch (StateM σ)) (cycle : StateM σ CycleResult)
  (report : CycleResult → StateM σ (Except ε Unit))

structure Lap.Follows (lap : Lap σ ε) (w : σ) : Prop where
  begun : watch.now.run w = (lap.start, lap.begun)
  ended : cycle.run lap.begun = (lap.result, lap.ended)
  reported : (report lap.result).run lap.ended = (lap.outcome, lap.reported)

def Lap.next (lap : Lap σ ε) : TimeSpan := ⟨lap.start.nanoseconds + p.interval.nanoseconds⟩

/-- What becomes of the loop behind the report of a lap. -/
inductive Passed (s : Summary) (lap : Lap σ ε) : Verdict ε → σ → Prop
  | unreported {e : ε} (outcome : lap.outcome = .error e) (on : lap.waits = none) :
      Passed s lap (.done (.error (.report e))) lap.reported
  | judged {ending : Except (PollError ε) Summary} (outcome : lap.outcome = .ok ())
      (verdict : Verdict.of p.stopOnError s lap.result = .done ending) (on : lap.waits = none) :
      Passed s lap (.done ending) lap.reported
  | unpaced {s' : Summary} (outcome : lap.outcome = .ok ())
      (verdict : Verdict.of (ε := ε) p.stopOnError s lap.result = .goOn s')
      (zero : p.interval.nanoseconds = 0) (on : lap.waits = none) : Passed s lap (.goOn s') lap.reported
  | full {s' : Summary} {w' : σ} (outcome : lap.outcome = .ok ())
      (verdict : Verdict.of (ε := ε) p.stopOnError s lap.result = .goOn s') (paced : p.interval.nanoseconds ≠ 0)
      (look : (finished p watch s').run lap.reported = (true, w')) (on : lap.waits = none) :
      Passed s lap (.goOn s') w'
  | beyondClock {s' : Summary} {w' : σ} (outcome : lap.outcome = .ok ())
      (verdict : Verdict.of (ε := ε) p.stopOnError s lap.result = .goOn s') (paced : p.interval.nanoseconds ≠ 0)
      (look : (finished p watch s').run lap.reported = (false, w'))
      (beyond : (lap.next p).onClock = false) (on : lap.waits = none) :
      Passed s lap (.done (.error .beyondClock)) w'
  | waited {s' : Summary} {w₁ w' : σ} (outcome : lap.outcome = .ok ())
      (verdict : Verdict.of (ε := ε) p.stopOnError s lap.result = .goOn s') (paced : p.interval.nanoseconds ≠ 0)
      (look : (finished p watch s').run lap.reported = (false, w₁)) (onClock : (lap.next p).onClock)
      (waits : lap.waits = some w₁) (wait : (watch.waitUntil (lap.next p)).run w₁ = ((), w')) :
      Passed s lap (.goOn s') w'

/-- A run of the loop from its head: its laps, its result if it has come to an end, and the world behind it. -/
inductive Polled : Summary → σ → List (Lap σ ε) → Option (Except (PollError ε) Summary) → σ → Prop
  | outOfFuel {s : Summary} {w : σ} : Polled s w [] none w
  | halted {s : Summary} {w w' : σ} (look : (finished p watch s).run w = (true, w')) :
      Polled s w [] (some (.ok s)) w'
  | last {s : Summary} {lap : Lap σ ε} {ending : Except (PollError ε) Summary} {w w₁ w' : σ}
      (look : (finished p watch s).run w = (false, w₁)) (follows : lap.Follows watch cycle report w₁)
      (passed : Passed p watch s lap (.done ending) w') : Polled s w [lap] (some ending) w'
  | next {s s' : Summary} {lap : Lap σ ε} {laps : List (Lap σ ε)}
      {result : Option (Except (PollError ε) Summary)} {w w₁ w₂ w' : σ}
      (look : (finished p watch s).run w = (false, w₁)) (follows : lap.Follows watch cycle report w₁)
      (passed : Passed p watch s lap (.goOn s') w₂) (more : Polled s' w₂ laps result w') :
      Polled s w (lap :: laps) result w'

theorem finished_run (s : Summary) (w : σ) : (finished p watch s).run w =
    ((watch.stopped.run w).1 || p.reached s, (watch.stopped.run w).2) := by
  rcases hlook : watch.stopped.run w with ⟨stop, w'⟩
  cases stop with
  | true => simp [finished, hlook]
  | false => simp [finished, hlook]

theorem awaitNext_passed {s s' : Summary} (lap : Lap σ ε) (outcome : lap.outcome = .ok ())
    (verdict : Verdict.of (ε := ε) p.stopOnError s lap.result = .goOn s') :
    ∃ waits v w', (awaitNext p watch lap.start s').run lap.reported = (v, w') ∧
      Passed p watch s { lap with waits } v w' := by
  by_cases hi : p.interval.nanoseconds = 0
  · refine ⟨none, .goOn s', lap.reported, ?_, .unpaced outcome verdict hi rfl⟩
    simp [awaitNext, hi]
  · rcases hlook : (finished p watch s').run lap.reported with ⟨full, w₁⟩
    cases full with
    | true =>
      refine ⟨none, .goOn s', w₁, ?_, .full outcome verdict hi hlook rfl⟩
      simp [awaitNext, hi, hlook]
    | false =>
      cases hon : (lap.next p).onClock with
      | false =>
        refine ⟨none, .done (.error .beyondClock), w₁, ?_, .beyondClock outcome verdict hi hlook hon rfl⟩
        unfold Lap.next at hon
        simp [awaitNext, hi, hlook, hon]
      | true =>
        rcases hwait : (watch.waitUntil (lap.next p)).run w₁ with ⟨⟨⟩, w'⟩
        refine ⟨some w₁, .goOn s', w', ?_, .waited outcome verdict hi hlook hon rfl hwait⟩
        unfold Lap.next at hon hwait
        simp [awaitNext, hi, hlook, hon, hwait]

theorem pollOnce_passed (s : Summary) (w : σ) :
    ∃ lap v w', (pollOnce p watch cycle report s).run w = (v, w') ∧
      lap.Follows watch cycle report w ∧ Passed p watch s lap v w' := by
  rcases hnow : watch.now.run w with ⟨start, begun⟩
  rcases hcycle : cycle.run begun with ⟨result, ended⟩
  rcases hreport : (report result).run ended with ⟨outcome, reported⟩
  let lap : Lap σ ε := { start, begun, result, ended, outcome, reported }
  rw [pollOnce_eq]
  cases ho : outcome with
  | error e =>
    refine ⟨lap, .done (.error (.report e)), reported, ?_, ⟨hnow, hcycle, hreport⟩, .unreported ho rfl⟩
    simp [hnow, hcycle, hreport, ho]
  | ok _ =>
    cases hv : Verdict.of (ε := ε) p.stopOnError s result with
    | done ending =>
      refine ⟨lap, .done ending, reported, ?_, ⟨hnow, hcycle, hreport⟩, .judged ho hv rfl⟩
      simp [hnow, hcycle, hreport, ho, hv]
    | goOn s' =>
      obtain ⟨waits, v, w', hawait, hpassed⟩ := awaitNext_passed p watch lap ho hv
      refine ⟨{ lap with waits }, v, w', ?_, ⟨hnow, hcycle, hreport⟩, hpassed⟩
      simpa [hnow, hcycle, hreport, ho, hv] using hawait

theorem poll_polled (fuel : Nat) (s : Summary) (w : σ) :
    ∃ (laps : List (Lap σ ε)) (result : Option (Except (PollError ε) Summary)) (w' : σ),
      (poll p watch cycle report fuel s).run w = (result, w') ∧
      Polled p watch cycle report s w laps result w' ∧ (result = none → laps.length = fuel) := by
  induction fuel generalizing s w with
  | zero => exact ⟨[], none, w, rfl, .outOfFuel, fun _ => rfl⟩
  | succ fuel ih =>
    rcases hlook : (finished p watch s).run w with ⟨full, w₁⟩
    cases full with
    | true =>
      refine ⟨[], some (.ok s), w₁, ?_, .halted hlook, by simp⟩
      simp [poll, hlook]
    | false =>
      obtain ⟨lap, v, w₂, honce, hfollows, hpassed⟩ := pollOnce_passed p watch cycle report s w₁
      cases v with
      | done ending =>
        refine ⟨[lap], some ending, w₂, ?_, .last hlook hfollows hpassed, by simp⟩
        simp [poll, hlook, honce]
      | goOn s' =>
        obtain ⟨laps, result, w', hrest, hpolled, hfuel⟩ := ih s' w₂
        refine ⟨lap :: laps, result, w', ?_, .next hlook hfollows hpassed hpolled, ?_⟩
        · simpa [poll, hlook, honce] using hrest
        · intro hnone
          rw [List.length_cons, hfuel hnone]

variable {p watch cycle report}

theorem Polled.follows {s : Summary} {w w' : σ} {laps : List (Lap σ ε)}
    {result : Option (Except (PollError ε) Summary)} (h : Polled p watch cycle report s w laps result w') :
    ∀ lap ∈ laps, ∃ w₁, lap.Follows watch cycle report w₁ := by
  induction h with
  | outOfFuel => simp
  | halted => simp
  | last _ follows _ => simpa using ⟨_, follows⟩
  | next _ follows _ _ ih => exact List.forall_mem_cons.mpr ⟨⟨_, follows⟩, ih⟩

end Laps

end MeterPolling
