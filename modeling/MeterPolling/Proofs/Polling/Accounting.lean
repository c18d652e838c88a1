import MeterPolling.Proofs.Polling.Rounds

namespace MeterPolling

variable {σ ε : Type}

namespace Round

def completed (r : Round ε) : Bool :=
  match r.result with
  | .ok _ => true
  | .error _ => false

def abortedBy (which : CycleError → Bool) (r : Round ε) : Bool :=
  match r.result with
  | .ok _ => false
  | .error a => which a.error

def interrupted (r : Round ε) : Bool := r.abortedBy CycleError.isInterrupted

def planless (r : Round ε) : Bool := r.abortedBy CycleError.isPlan

/-- The cycle was aborted, but not by a stop. -/
def aborted (r : Round ε) : Bool := r.abortedBy fun e => !e.isInterrupted

end Round

theorem Verdict.of_error (stopOnError : Bool) (s : Summary) (a : Aborted) :
    Verdict.of (ε := ε) stopOnError s (.error a) =
      if a.error.isInterrupted then .done (.ok s)
      else if a.error.isPlan || stopOnError then .done (.error (.aborted a))
      else .goOn { s with aborted := s.aborted + 1 } := by
  cases he : a.error <;> simp [Verdict.of, he, CycleError.isInterrupted, CycleError.isPlan]

theorem verdict_goOn {stopOnError : Bool} {s s' : Summary} {r : Round ε}
    (h : Verdict.of (ε := ε) stopOnError s r.result = .goOn s') :
    r.interrupted = false ∧ r.planless = false ∧ (stopOnError → r.completed) ∧
      s'.completed = s.completed + (if r.completed then 1 else 0) ∧
      s'.aborted = s.aborted + (if r.aborted then 1 else 0) ∧
      s'.completed + s'.aborted = s.completed + s.aborted + 1 := by
  unfold Round.interrupted Round.planless Round.completed Round.aborted Round.abortedBy
  cases hr : r.result with
  | ok c =>
    rw [hr] at h
    cases h
    refine ⟨rfl, rfl, fun _ => rfl, rfl, rfl, ?_⟩
    simp only
    omega
  | error a =>
    rw [hr, Verdict.of_error] at h
    split at h
    next => cases h
    next hi =>
      split at h
      next => cases h
      next hp =>
        cases h
        rw [Bool.not_eq_true] at hi
        rw [Bool.not_eq_true] at hp
        obtain ⟨hplan, hstop⟩ := Bool.or_eq_false_iff.mp hp
        refine ⟨hi, hplan, ?_, rfl, ?_, ?_⟩
        · intro hs
          rw [hstop] at hs
          cases hs
        · simp only [hi, Bool.not_false, ↓reduceIte]
        · simp only
          omega

theorem verdict_done {stopOnError : Bool} {s : Summary} {r : Round ε}
    {result : Except (PollError ε) Summary}
    (h : Verdict.of stopOnError s r.result = .done result) :
    (r.interrupted ∧ r.completed = false ∧ r.aborted = false ∧ result = .ok s) ∨
      ∃ a, r.result = .error a ∧ r.interrupted = false ∧ (r.planless ∨ stopOnError) ∧
        result = .error (.aborted a) := by
  unfold Round.interrupted Round.planless Round.completed Round.aborted Round.abortedBy
  cases hr : r.result with
  | ok c =>
    rw [hr] at h
    cases h
  | error a =>
    rw [hr, Verdict.of_error] at h
    split at h
    next hi =>
      cases h
      exact .inl ⟨hi, rfl, by simp [hi], rfl⟩
    next hi =>
      split at h
      next hp =>
        cases h
        rw [Bool.not_eq_true] at hi
        exact .inr ⟨a, rfl, hi, (Bool.or_eq_true _ _).mp hp, rfl⟩
      next => cases h

/-- What the counters have to do with the rounds so far. -/
structure Accounts (p : Pace) (rounds : List (Round ε)) (s : Summary) : Prop where
  completed : s.completed = rounds.countP Round.completed
  aborted : s.aborted = rounds.countP Round.aborted
  all : s.completed + s.aborted = rounds.length
  within : ∀ n, p.cycles = some n → s.completed + s.aborted ≤ n
  reported : ∀ r ∈ rounds, r.outcome = .ok ()
  goneOn : ∀ r ∈ rounds, r.interrupted = false ∧ r.planless = false ∧ (p.stopOnError → r.completed)

theorem Accounts.start (p : Pace) : Accounts p ([] : List (Round ε)) {} :=
  ⟨rfl, rfl, rfl, fun _ _ => Nat.zero_le _, by simp, by simp⟩

theorem Pace.room {p : Pace} {s : Summary} (h : p.reached s = false) {n : Nat} (hn : p.cycles = some n) :
    s.completed + s.aborted < n := by
  simp only [Pace.reached, hn, decide_eq_false_iff_not] at h
  omega

theorem Accounts.next {p : Pace} {rounds : List (Round ε)} {s s' : Summary} {r : Round ε}
    (h : Accounts p rounds s) (room : p.reached s = false) (step : RoundStep p s r (.goOn s')) :
    Accounts p (rounds ++ [r]) s' := by
  cases step with
  | goesOn outcome verdict =>
    obtain ⟨hi, hp, hs, hcompleted, haborted, hsum⟩ := verdict_goOn verdict
    refine ⟨?_, ?_, ?_, ?_, ?_, ?_⟩
    · rw [hcompleted, h.completed, List.countP_append, List.countP_singleton]
    · rw [haborted, h.aborted, List.countP_append, List.countP_singleton]
    · rw [hsum, h.all, List.length_append, List.length_singleton]
    · intro n hn
      have hroom := Pace.room room hn
      omega
    · exact List.forall_mem_append.mpr ⟨h.reported, by simpa using outcome⟩
    · exact List.forall_mem_append.mpr ⟨h.goneOn, by simpa using ⟨hi, hp, hs⟩⟩

namespace PollEnd

variable {p : Pace} {s : Summary} {final : List (Round ε)} {tail : List (PollEvent ε)}

theorem length_le {result : Option (Except (PollError ε) Summary)} {rounds : List (Round ε)}
    (h : PollEnd p s final tail result) (accounts : Accounts p rounds s) {n : Nat}
    (hn : p.cycles = some n) : (rounds ++ final).length ≤ n := by
  have hall := accounts.all
  have hwithin := accounts.within n hn
  cases h with
  | last room _ =>
    have hroom := Pace.room room hn
    simp only [List.length_append, List.length_singleton]
    omega
  | _ =>
    rw [List.append_nil]
    omega

theorem ok {s' : Summary} (h : PollEnd p s final tail (some (.ok s'))) :
    s' = s ∧ (∀ r ∈ final, r.outcome = .ok () ∧ r.completed = false ∧ r.aborted = false) ∧
      final.length ≤ 1 ∧
      ∀ n, p.cycles = some n → .looked true ∉ final.flatMap Round.events ++ tail →
        n ≤ s.completed + s.aborted := by
  cases h with
  | stopped => exact ⟨rfl, by simp, by simp, by simp⟩
  | reached full =>
    refine ⟨rfl, by simp, by simp, ?_⟩
    intro n hn _
    simpa [Pace.reached, hn] using full
  | @last r _ room step =>
    cases step with
    | judged outcome verdict quiet =>
      rcases verdict_done verdict with ⟨hi, hc, ha, he⟩ | ⟨a, _, _, _, he⟩
      · cases he
        refine ⟨rfl, ?_, by simp, ?_⟩
        · intro t ht
          rw [List.mem_singleton.mp ht]
          exact ⟨outcome, hc, ha⟩
        · intro n hn hno
          have htold : .looked true ∈ r.during := by
            unfold Round.interrupted Round.abortedBy at hi
            cases hr : r.result with
            | ok c => simp [hr] at hi
            | error a => exact r.told a hr (by simpa [hr] using hi)
          exact absurd (by simp [Round.events, htold]) hno
      · cases he

theorem counts {rounds : List (Round ε)} {s' : Summary} (h : PollEnd p s final tail (some (.ok s')))
    (accounts : Accounts p rounds s) :
    s'.completed = (rounds ++ final).countP Round.completed ∧
      s'.aborted = (rounds ++ final).countP Round.aborted ∧
      (∀ r ∈ rounds ++ final, r.outcome = .ok ()) ∧
      (∀ r ∈ (rounds ++ final).dropLast, r.interrupted = false) ∧
      ∀ n, p.cycles = some n → s'.completed + s'.aborted ≤ n ∧
        (.looked true ∉ (rounds ++ final).flatMap Round.events ++ tail →
          s'.completed + s'.aborted = n) := by
  obtain ⟨hs, hfinal, hone, hfull⟩ := h.ok
  subst hs
  have hcompleted : final.countP Round.completed = 0 :=
    List.countP_eq_zero.mpr fun r hr => by simp [(hfinal r hr).2.1]
  have haborted : final.countP Round.aborted = 0 :=
    List.countP_eq_zero.mpr fun r hr => by simp [(hfinal r hr).2.2]
  refine ⟨?_, ?_, ?_, ?_, ?_⟩
  · rw [accounts.completed, List.countP_append, hcompleted, Nat.add_zero]
  · rw [accounts.aborted, List.countP_append, haborted, Nat.add_zero]
  · exact List.forall_mem_append.mpr ⟨accounts.reported, fun r hr => (hfinal r hr).1⟩
  · intro r hr
    have hearlier : r ∈ rounds := by
      cases final with
      | nil =>
        rw [List.append_nil] at hr
        exact List.dropLast_subset rounds hr
      | cons last rest =>
        have hnil : rest = [] := by simpa using hone
        subst hnil
        rwa [List.dropLast_concat] at hr
    exact (accounts.goneOn r hearlier).1
  · intro n hn
    have hle := accounts.within n hn
    refine ⟨hle, ?_⟩
    intro hno
    have hge := hfull n hn fun hmem => hno (by simp [List.flatMap_append, hmem])
    omega

theorem of_aborted {a : Aborted} (h : PollEnd p s final tail (some (.error (.aborted a)))) :
    ∃ r, final = [r] ∧ r.result = .error a ∧ r.outcome = .ok () ∧ (r.planless ∨ p.stopOnError) ∧
      r.after = [] ∧ tail = [] := by
  cases h with
  | @last r _ room step =>
    cases step with
    | judged outcome verdict quiet =>
      rcases verdict_done verdict with ⟨_, _, _, he⟩ | ⟨b, hr, _, hcause, he⟩
      · cases he
      · cases he
        exact ⟨r, rfl, hr, outcome, hcause, quiet, rfl⟩

theorem of_report {e : ε} (h : PollEnd p s final tail (some (.error (.report e)))) :
    ∃ r, final = [r] ∧ r.outcome = .error e ∧ r.after = [] ∧ tail = [] := by
  cases h with
  | @last r _ room step =>
    cases step with
    | unreported outcome quiet => exact ⟨r, rfl, outcome, quiet, rfl⟩
    | judged outcome verdict quiet =>
      rcases verdict_done verdict with ⟨_, _, _, he⟩ | ⟨b, _, _, _, he⟩
      · cases he
      · cases he

theorem tail_looks {result : Option (Except (PollError ε) Summary)}
    (h : PollEnd p s final tail result) : ∀ e ∈ tail, ∃ stop, e = .looked stop := by
  cases h <;> simp

end PollEnd

section Runs

variable {p : Pace} {watch : Watch (StateM σ)} {x : Executor (StateM σ)} {category : Category}
  {client : Client (StateM σ)} {report : CycleResult → StateM σ (Except ε Unit)}

theorem pollReach_accounts {w w' : σ} {rounds : List (Round ε)} {s : Summary}
    (h : PollReach p watch x category client report w rounds s w') : Accounts p rounds s := by
  induction h with
  | start => exact .start p
  | next _ _ room step _ ih => exact ih.next room step

end Runs

/--
Whatever the pace, the meter, the tokens and the report are, polling goes round by round, and in each round the
cycle is reported as soon as it has ended. With a count, no more cycles start, polling comes to an end, and the
counters are never above the count, so that 64 bits hold them if they hold it. A good end counts the completed
and the aborted cycles; only the last cycle may have been cut short, which is counted as neither, and without a
stop as many cycles are counted as were asked for. An aborted cycle ends polling if it is the first for which
there is no plan, or with the option the first that was aborted; and a failed report ends it at once.
-/
theorem poll_accounting (p : Pace) (watch : Watch (StateM σ)) (x : Executor (StateM σ))
    (category : Category) (client : Client (StateM σ))
    (report : CycleResult → StateM σ (Except ε Unit)) (fuel : Nat) (w : σ) :
    ∃ rounds tail result w',
      ((notedPoll p watch x category client report fuel {}).run []).run w =
        ((result, rounds.flatMap Round.events ++ tail), w') ∧
      (poll p watch (x.runCycle category client) report fuel {}).run w = (result, w') ∧
      (∀ e ∈ tail, ∃ stop, e = .looked stop) ∧
      (∀ n, p.cycles = some n → rounds.length ≤ n ∧ (n < fuel → result.isSome) ∧
        ∀ before s v, PollReach p watch x category client report w before s v →
          s.completed + s.aborted ≤ n) ∧
      (∀ s, result = some (.ok s) →
        s.completed = rounds.countP Round.completed ∧ s.aborted = rounds.countP Round.aborted ∧
        (∀ r ∈ rounds, r.outcome = .ok ()) ∧ (∀ r ∈ rounds.dropLast, r.interrupted = false) ∧
        ∀ n, p.cycles = some n → s.completed + s.aborted ≤ n ∧
          (.looked true ∉ rounds.flatMap Round.events ++ tail → s.completed + s.aborted = n)) ∧
      (∀ a, result = some (.error (.aborted a)) → ∃ earlier last, rounds = earlier ++ [last] ∧
        last.result = .error a ∧ (last.planless ∨ p.stopOnError) ∧
        (∀ r ∈ earlier, r.planless = false ∧ (p.stopOnError → r.completed)) ∧
        (∀ r ∈ rounds, r.outcome = .ok ()) ∧ last.after = [] ∧ tail = []) ∧
      ∀ e, result = some (.error (.report e)) → ∃ earlier last, rounds = earlier ++ [last] ∧
        last.outcome = .error e ∧ (∀ r ∈ earlier, r.outcome = .ok ()) ∧
        last.after = [] ∧ tail = [] := by
  have hstart : PollReach p watch x category client report w [] {} w := .start
  obtain ⟨rounds, s, w₂, final, tail, result, w', hreach, hend, hrun, hfuel⟩ :=
    notedPoll_ends fuel hstart
  rw [List.nil_append] at hreach hrun
  have haccounts := pollReach_accounts hreach
  refine ⟨rounds ++ final, tail, result, w', hrun, notedPoll_erased hrun, hend.tail_looks, ?_, ?_, ?_, ?_⟩
  · intro n hn
    have hlength := hend.length_le haccounts hn
    refine ⟨hlength, ?_, fun _ _ _ h => (pollReach_accounts h).within n hn⟩
    intro hlt
    rw [Option.isSome_iff_ne_none]
    intro hnone
    have hrounds := hfuel hnone
    simp only [List.length_append] at hlength
    omega
  · intro s' he
    subst he
    exact hend.counts haccounts
  · intro a he
    subst he
    obtain ⟨r, hfinal, hresult, houtcome, hcause, hafter, htail⟩ := hend.of_aborted
    subst hfinal
    have hreported : ∀ t ∈ rounds ++ [r], t.outcome = .ok () :=
      List.forall_mem_append.mpr ⟨haccounts.reported, by simpa using houtcome⟩
    exact ⟨rounds, r, rfl, hresult, hcause, fun t ht => (haccounts.goneOn t ht).2, hreported, hafter,
      htail⟩
  · intro e he
    subst he
    obtain ⟨r, hfinal, houtcome, hafter, htail⟩ := hend.of_report
    subst hfinal
    exact ⟨rounds, r, rfl, houtcome, haccounts.reported, hafter, htail⟩

end MeterPolling
