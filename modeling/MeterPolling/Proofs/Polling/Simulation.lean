import MeterPolling.Polling
import MeterPolling.Proofs.Cycle.Simulation

namespace MeterPolling

namespace Simulation

variable {m n : Type → Type} [Monad m] [Monad n] (sim : Simulation m n)

structure Watches (watch : Watch m) (model : Watch n) : Prop where
  now : sim.Holds Eq watch.now model.now
  waitUntil : ∀ t, sim.Holds Eq (watch.waitUntil t) (model.waitUntil t)
  stopped : sim.Holds Eq watch.stopped model.stopped

variable {sim} {ε : Type} {watch : Watch m} {watch' : Watch n} {cycle : m CycleResult}
  {cycle' : n CycleResult} {report : CycleResult → m (Except ε Unit)}
  {report' : CycleResult → n (Except ε Unit)} (p : Pace)

theorem finished (hw : sim.Watches watch watch') (s : Summary) :
    sim.Holds Eq (finished p watch s) (MeterPolling.finished p watch' s) := by
  refine sim.bind_holds hw.stopped ?_
  rintro stop _ rfl
  cases stop with
  | true => exact sim.pure_holds rfl
  | false => exact sim.pure_holds rfl

theorem pollOnce (hw : sim.Watches watch watch') (hc : sim.Holds Eq cycle cycle')
    (hr : ∀ result, sim.Holds Eq (report result) (report' result)) (s : Summary) :
    sim.Holds Eq (pollOnce p watch cycle report s)
      (MeterPolling.pollOnce p watch' cycle' report' s) := by
  refine sim.bind_holds hw.now ?_
  rintro start _ rfl
  refine sim.bind_holds hc ?_
  rintro result _ rfl
  refine sim.bind_holds (hr result) ?_
  rintro outcome _ rfl
  cases outcome with
  | error e => exact sim.pure_holds rfl
  | ok _ =>
    cases Verdict.of (ε := ε) p.stopOnError s result with
    | done ending => exact sim.pure_holds rfl
    | goOn s' =>
      by_cases hi : p.interval.nanoseconds = 0
      · simp only [hi, ↓reduceIte]
        exact sim.pure_holds rfl
      · simp only [hi, ↓reduceIte]
        refine sim.bind_holds (finished p hw s') ?_
        rintro full _ rfl
        cases full with
        | true => exact sim.pure_holds rfl
        | false =>
          by_cases hn : TimeSpan.onClock ⟨start.nanoseconds + p.interval.nanoseconds⟩
          · simp only [hn, Bool.not_true, Bool.false_eq_true, ↓reduceIte]
            refine sim.bind_holds (hw.waitUntil _) ?_
            rintro _ _ _
            exact sim.pure_holds rfl
          · simp only [hn, Bool.not_false, ↓reduceIte]
            exact sim.pure_holds rfl

theorem poll (hw : sim.Watches watch watch') (hc : sim.Holds Eq cycle cycle')
    (hr : ∀ result, sim.Holds Eq (report result) (report' result)) (fuel : Nat) (s : Summary) :
    sim.Holds Eq (poll p watch cycle report fuel s)
      (MeterPolling.poll p watch' cycle' report' fuel s) := by
  induction fuel generalizing s with
  | zero => exact sim.pure_holds rfl
  | succ fuel ih =>
    refine sim.bind_holds (finished p hw s) ?_
    rintro full _ rfl
    cases full with
    | true => exact sim.pure_holds rfl
    | false =>
      refine sim.bind_holds (pollOnce p hw hc hr s) ?_
      rintro verdict _ rfl
      cases verdict with
      | done result => exact sim.pure_holds rfl
      | goOn s' => exact ih s'

end Simulation

end MeterPolling
