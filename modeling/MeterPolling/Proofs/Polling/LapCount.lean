import MeterPolling.Proofs.Cycle.Run
import MeterPolling.Proofs.Polling.Accounting
import MeterPolling.Proofs.Polling.Laps

namespace MeterPolling

variable {σ ε : Type}

def CycleResult.Own (result : CycleResult) : Prop :=
  ∀ a, result = .error a → a.error.isInterrupted = false ∧ a.error.isPlan = false

theorem CommandStep.own {client : Client (StateM σ)} {stopped : StateM σ Bool} {w w' : σ} {c : Command}
    {calls : List Call} {e : CycleError} (h : CommandStep client stopped w c calls (.error e) w')
    (quiet : ∀ w, (stopped.run w).1 = false) : e.isInterrupted = false ∧ e.isPlan = false := by
  cases h with
  | interrupted token =>
    have hquiet := quiet w
    rw [token] at hquiet
    cases hquiet
  | unread => exact ⟨rfl, rfl⟩
  | undecoded => exact ⟨rfl, rfl⟩
  | unwritten => exact ⟨rfl, rfl⟩

theorem Executor.runCycle_own (x : Executor (StateM σ)) (client : Client (StateM σ)) {category : Category}
    {plan : Plan} (serves : x.registry.get category = .ok plan) (quiet : ∀ w, (x.stopped.run w).1 = false)
    (w : σ) {a : Aborted} (aborted : ((x.runCycle category client).run w).1 = .error a) :
    a.category = plan.category ∧ a.error.isInterrupted = false ∧ a.error.isPlan = false := by
  have hexecute : x.runCycle category client = x.execute plan client := by
    unfold runCycle
    rw [serves]
  rw [hexecute] at aborted
  rcases execute_run x client plan w with
    ⟨outcomes, elapsed, w₁, _, hrun⟩ | ⟨before, c, after, outcomes, elapsed, w₁, calls, e, w₂, _, _, hstep, hrun⟩
  · rw [hrun] at aborted
    cases aborted
  · rw [hrun] at aborted
    cases aborted
    exact ⟨rfl, hstep.own quiet⟩

theorem Verdict.of_own (stopOnError : Bool) (s : Summary) {result : CycleResult} (own : result.Own) :
    (∃ s', Verdict.of (ε := ε) stopOnError s result = .goOn s' ∧ (stopOnError → result.isOk) ∧
      s'.completed + s'.aborted = s.completed + s.aborted + 1) ∨
    ∃ a, result = .error a ∧ stopOnError ∧
      Verdict.of (ε := ε) stopOnError s result = .done (.error (.aborted a)) := by
  cases result with
  | ok c =>
    refine .inl ⟨_, rfl, fun _ => rfl, ?_⟩
    simp only
    omega
  | error a =>
    obtain ⟨hinterrupted, hplan⟩ := own a rfl
    rw [Verdict.of_error, hinterrupted, hplan]
    cases stopOnError with
    | true => exact .inr ⟨a, rfl, rfl, rfl⟩
    | false =>
      refine .inl ⟨_, rfl, nofun, ?_⟩
      simp only
      omega

/-- How polling ends that has at most `n` laps to run: the laps, the world behind them and the result. -/
inductive CountedEnd (p : Pace) (n : Nat) (laps : List (Lap σ ε)) (w' : σ) :
    Option (Except (PollError ε) Summary) → Prop
  | outOfFuel (short : laps.length ≤ n) : CountedEnd p n laps w' none
  | through {s : Summary} (full : laps.length = n) (kept : p.stopOnError → ∀ lap ∈ laps, lap.result.isOk) :
      CountedEnd p n laps w' (some (.ok s))
  | aborted {earlier : List (Lap σ ε)} {last : Lap σ ε} {a : Aborted} (stop : p.stopOnError)
      (split : laps = earlier ++ [last]) (within : laps.length ≤ n) (kept : ∀ lap ∈ earlier, lap.result.isOk)
      (result : last.result = .error a) (still : w' = last.reported) :
      CountedEnd p n laps w' (some (.error (.aborted a)))
  | beyondClock {earlier : List (Lap σ ε)} {last : Lap σ ε} (split : laps = earlier ++ [last])
      (short : laps.length < n) (kept : p.stopOnError → ∀ lap ∈ laps, lap.result.isOk)
      (paced : p.interval.nanoseconds ≠ 0) (beyond : (last.next p).onClock = false) :
      CountedEnd p n laps w' (some (.error .beyondClock))

theorem CountedEnd.cons {p : Pace} {n : Nat} {lap : Lap σ ε} {laps : List (Lap σ ε)} {w' : σ}
    {result : Option (Except (PollError ε) Summary)} (h : CountedEnd p n laps w' result)
    (first : p.stopOnError → lap.result.isOk) : CountedEnd p (n + 1) (lap :: laps) w' result := by
  cases h with
  | outOfFuel short =>
    refine .outOfFuel ?_
    rw [List.length_cons]
    omega
  | through full kept =>
    refine .through ?_ fun stop => List.forall_mem_cons.mpr ⟨first stop, kept stop⟩
    rw [List.length_cons, full]
  | @aborted earlier last a stop split within kept result still =>
    have hsplit : lap :: laps = (lap :: earlier) ++ [last] := by rw [split, List.cons_append]
    refine .aborted stop hsplit ?_ (List.forall_mem_cons.mpr ⟨first stop, kept⟩) result still
    rw [List.length_cons]
    omega
  | @beyondClock earlier last split short kept paced beyond =>
    have hsplit : lap :: laps = (lap :: earlier) ++ [last] := by rw [split, List.cons_append]
    refine .beyondClock hsplit ?_ (fun stop => List.forall_mem_cons.mpr ⟨first stop, kept stop⟩)
      paced beyond
    rw [List.length_cons]
    omega

variable {p : Pace} {watch : Watch (StateM σ)} {cycle : StateM σ CycleResult}
  {report : CycleResult → StateM σ (Except ε Unit)}

/-- The laps are counted, if nobody asks for a stop and every report succeeds. -/
theorem Polled.counted {N : Nat} (count : p.cycles = some N) (quiet : ∀ w, (watch.stopped.run w).1 = false)
    (own : ∀ w, CycleResult.Own (cycle.run w).1) (reported : ∀ result w, ((report result).run w).1 = .ok ())
    {s : Summary} {w w' : σ} {laps : List (Lap σ ε)} {result : Option (Except (PollError ε) Summary)}
    (h : Polled p watch cycle report s w laps result w') {n : Nat} (left : s.completed + s.aborted + n = N) :
    CountedEnd p n laps w' result := by
  have hlook : ∀ {s : Summary} {w w₁ : σ} {full : Bool}, (finished p watch s).run w = (full, w₁) →
      full = decide (N ≤ s.completed + s.aborted) := by
    intro s w w₁ full look
    rw [finished_run, quiet, Bool.false_or] at look
    rw [← (Prod.mk.inj look).1, Pace.reached, count]
  -- Only the cycle decides how a lap goes on: it is not cut short, and its report succeeds.
  have hoccurs : ∀ {lap : Lap σ ε} {w : σ}, lap.Follows watch cycle report w →
      CycleResult.Own lap.result ∧ lap.outcome = .ok () := by
    intro lap w follows
    have hown := own lap.begun
    have houtcome := reported lap.result lap.ended
    rw [follows.ended] at hown
    rw [follows.reported] at houtcome
    exact ⟨hown, houtcome⟩
  induction h generalizing n with
  | outOfFuel => exact .outOfFuel (Nat.zero_le n)
  | halted look =>
    have hfull := of_decide_eq_true (hlook look).symm
    refine .through ?_ (by simp)
    rw [List.length_nil]
    omega
  | @last s lap ending w w₁ w' look follows passed =>
    have hroom := of_decide_eq_false (hlook look).symm
    obtain ⟨hown, houtcome⟩ := hoccurs follows
    cases passed with
    | unreported outcome => cases houtcome.symm.trans outcome
    | judged _ verdict =>
      rcases Verdict.of_own (ε := ε) p.stopOnError s hown with ⟨s', hgoes, _⟩ | ⟨a, hresult, hstop, hdone⟩
      · cases hgoes.symm.trans verdict
      · cases hdone.symm.trans verdict
        refine .aborted hstop (List.nil_append _).symm ?_ (by simp) hresult rfl
        rw [List.length_singleton]
        omega
    | beyondClock _ verdict paced again beyond =>
      have hmore := of_decide_eq_false (hlook again).symm
      rcases Verdict.of_own (ε := ε) p.stopOnError s hown with ⟨s', hgoes, hkept, hcount⟩ | ⟨a, _, _, hdone⟩
      · cases hgoes.symm.trans verdict
        refine .beyondClock (List.nil_append _).symm ?_ (by simpa using hkept) paced beyond
        rw [List.length_singleton]
        omega
      · cases hdone.symm.trans verdict
  | @next s s' lap laps result w w₁ w₂ w' look follows passed more ih =>
    have hroom := of_decide_eq_false (hlook look).symm
    obtain ⟨hown, houtcome⟩ := hoccurs follows
    have hverdict : Verdict.of (ε := ε) p.stopOnError s lap.result = .goOn s' := by
      cases passed with
      | unpaced _ verdict => exact verdict
      | full _ verdict => exact verdict
      | waited _ verdict => exact verdict
    rcases Verdict.of_own (ε := ε) p.stopOnError s hown with ⟨s'', hgoes, hkept, hcount⟩ | ⟨a, _, _, hdone⟩
    · cases hgoes.symm.trans hverdict
      obtain ⟨m, rfl⟩ : ∃ m, n = m + 1 := ⟨n - 1, by omega⟩
      exact (ih (by omega)).cons hkept
    · cases hdone.symm.trans hverdict

end MeterPolling
