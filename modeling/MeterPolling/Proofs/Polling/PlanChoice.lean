import MeterPolling.Proofs.Cycle.Run
import MeterPolling.Proofs.Polling.Rounds

namespace MeterPolling

namespace Registry

def addAll (r : Registry) (plans : List Plan) : Registry := plans.foldl add r

variable {category : Category} {p : Plan}

theorem get_add_self (r : Registry) (p : Plan) : (r.add p).get p.category = .ok p := by
  simp [get, add]

theorem get_add_of_ne (r : Registry) (h : p.category ≠ category) : (r.add p).get category = r.get category := by
  simp [get, add, h]

theorem get_addAll_of_ne (r : Registry) {plans : List Plan} (h : ∀ p ∈ plans, p.category ≠ category) :
    (r.addAll plans).get category = r.get category := by
  induction plans generalizing r with
  | nil => rfl
  | cons p rest ih =>
    obtain ⟨hp, hrest⟩ := List.forall_mem_cons.mp h
    calc (r.addAll (p :: rest)).get category = ((r.add p).addAll rest).get category := rfl
      _ = (r.add p).get category := ih (r.add p) hrest
      _ = r.get category := r.get_add_of_ne hp

theorem get_addAll_last (r : Registry) (before : List Plan) {after : List Plan}
    (later : ∀ q ∈ after, q.category ≠ p.category) : (r.addAll (before ++ p :: after)).get p.category = .ok p := by
  have hsplit : r.addAll (before ++ p :: after) = ((r.addAll before).add p).addAll after := by
    simp [addAll]
  rw [hsplit, get_addAll_of_ne _ later, get_add_self]

theorem category_of_get {r : Registry} (h : r.get category = .ok p) : p.category = category := by
  unfold get at h
  split at h
  next q hq =>
    cases h
    simpa using List.find?_some hq
  next => cases h

theorem error_of_get {r : Registry} {cause : UnsupportedDevice} (h : r.get category = .error cause) :
    cause = ⟨category.name⟩ := by
  unfold get at h
  split at h
  next => cases h
  next =>
    cases h
    rfl

end Registry

def CycleResult.category : CycleResult → Category
  | .ok c => c.category
  | .error a => a.category

def Aborted.planless (category : Category) : Aborted := ⟨category, [], .zero, .plan ⟨category.name⟩⟩

section Cycles

variable {m : Type → Type} [Monad m] {x : Executor m} {category : Category}

theorem Executor.runCycle_of_get {plan : Plan} (h : x.registry.get category = .ok plan) (client : Client m) :
    x.runCycle category client = x.execute plan client := by
  rw [runCycle, h]

theorem Executor.runCycle_planless {cause : UnsupportedDevice} (h : x.registry.get category = .error cause)
    (client : Client m) : x.runCycle category client = pure (.error (.planless category)) := by
  rw [runCycle, h, Registry.error_of_get h]
  rfl

end Cycles

variable {σ ε : Type}

theorem Executor.execute_category (x : Executor (StateM σ)) (plan : Plan) (client : Client (StateM σ)) (w : σ) :
    CycleResult.category ((x.execute plan client).run w).1 = plan.category := by
  rcases execute_run x client plan w with
    ⟨outcomes, elapsed, w₁, _, hrun⟩ | ⟨before, c, after, outcomes, elapsed, w₁, calls, e, w₂, _, _, _, hrun⟩
  · rw [hrun]
    rfl
  · rw [hrun]
    rfl

theorem Executor.runCycle_category (x : Executor (StateM σ)) (category : Category) (client : Client (StateM σ))
    (w : σ) : CycleResult.category ((x.runCycle category client).run w).1 = category := by
  cases hget : x.registry.get category with
  | error cause =>
    rw [runCycle_planless hget]
    rfl
  | ok plan =>
    rw [runCycle_of_get hget, execute_category, Registry.category_of_get hget]

section Polling

variable (p : Pace) (watch : Watch (StateM σ)) (report : CycleResult → StateM σ (Except ε Unit))

/-- How polling goes for a category without a plan: what happens, the result, and the world behind it. -/
inductive PlanlessPoll (category : Category) (w : σ) :
    List (PollEvent ε) → Except (PollError ε) Summary → σ → Prop
  | stopped {w' : σ} (token : watch.stopped.run w = (true, w')) :
      PlanlessPoll category w [.looked true] (.ok {}) w'
  | noCycles {w' : σ} (token : watch.stopped.run w = (false, w')) (count : p.cycles = some 0) :
      PlanlessPoll category w [.looked false] (.ok {}) w'
  | unreported {start : TimeSpan} {w₁ w₂ w' : σ} {e : ε} (token : watch.stopped.run w = (false, w₁))
      (count : p.cycles ≠ some 0) (now : watch.now.run w₁ = (start, w₂))
      (reported : (report (.error (.planless category))).run w₂ = (.error e, w')) :
      PlanlessPoll category w [.looked false, .started, .ended (.error (.planless category)),
        .reported (.error (.planless category)) (.error e)] (.error (.report e)) w'
  | reported {start : TimeSpan} {w₁ w₂ w' : σ} (token : watch.stopped.run w = (false, w₁))
      (count : p.cycles ≠ some 0) (now : watch.now.run w₁ = (start, w₂))
      (reported : (report (.error (.planless category))).run w₂ = (.ok (), w')) :
      PlanlessPoll category w [.looked false, .started, .ended (.error (.planless category)),
        .reported (.error (.planless category)) (.ok ())] (.error (.aborted (.planless category))) w'

variable {p watch report} {x : Executor (StateM σ)} {category : Category} {cause : UnsupportedDevice}

theorem notedCycle_planless (h : x.registry.get category = .error cause) (client : Client (StateM σ))
    (log : List (PollEvent ε)) (w : σ) :
    ((x.notedCycle category client).run log).run w =
      ((.error (.planless category), log ++ [.started, .ended (.error (.planless category))]), w) := by
  have hnoted : (x.noted (ε := ε)).registry.get category = .error cause := h
  simp [Executor.notedCycle, Executor.runCycle_planless hnoted]

theorem Verdict.of_planless (stopOnError : Bool) (s : Summary) (category : Category) :
    Verdict.of (ε := ε) stopOnError s (.error (.planless category)) = .done (.error (.aborted (.planless category))) :=
  rfl

variable (p watch report) in
theorem notedPoll_planless (h : x.registry.get category = .error cause) (client : Client (StateM σ)) (fuel : Nat)
    (w : σ) : ∃ events result w',
      ((notedPoll p watch x category client report (fuel + 1) {}).run []).run w = ((some result, events), w') ∧
      PlanlessPoll p watch report category w events result w' := by
  have hlook := finished_noted p watch {} ([] : List (PollEvent ε)) w
  rw [notedPoll_succ]
  rcases ht : watch.stopped.run w with ⟨stop, w₁⟩
  rw [ht] at hlook
  cases stop with
  | true => exact ⟨_, _, w₁, by simp [hlook], .stopped ht⟩
  | false =>
    by_cases hcount : p.cycles = some 0
    · have hreached : p.reached {} = true := by simp [Pace.reached, hcount]
      exact ⟨_, _, w₁, by simp [hlook, hreached], .noCycles ht hcount⟩
    · have hroom : p.reached {} = false := by
        unfold Pace.reached
        split
        next => rfl
        next n hn =>
          have hpos : n ≠ 0 := fun hz => hcount (hz ▸ hn)
          simpa using hpos
      rcases hnow : watch.now.run w₁ with ⟨start, w₂⟩
      have hcycle := notedCycle_planless h client [PollEvent.looked (ε := ε) false] w₂
      rcases hreport : (report (.error (.planless category))).run w₂ with ⟨outcome, w'⟩
      cases outcome with
      | error e =>
        refine ⟨_, _, w', ?_, .unreported ht hcount hnow hreport⟩
        simp [hlook, hroom, notedRound, pollOnce, hnow, hcycle, notedReport, hreport]
      | ok =>
        refine ⟨_, _, w', ?_, .reported ht hcount hnow hreport⟩
        simp [hlook, hroom, notedRound, pollOnce, hnow, hcycle, notedReport, hreport, Verdict.of_planless]

end Polling

/--
Plans added one after the other to an empty registry, or behind the built-in ones, and a category. If there is a last plan of
the category, a cycle does what running this plan does; a plan of another category changes nothing; and whatever a cycle
comes to, it bears the category. If there is none, a cycle has no effect but to be aborted, for a device of that name is not
supported. Polling then ends behind the report of this one cycle, with it or with the report's failure, whatever the count
of cycles and whether or not failures are to end it, unless there is a stop first or no cycle to run.
-/
theorem last_plan_runs (plans : List Plan) (category : Category) :
    let registry := ({} : Registry).addAll plans
    let missing := ∀ q ∈ plans, q.category ≠ category
    Registry.builtin.addAll plans = ({} : Registry).addAll (.abb :: .schneider :: plans) ∧
    (∀ {m : Type → Type} [Monad m] (x : Executor m) (client : Client m),
      let cycle := ({ x with registry } : Executor m).runCycle category client
      (∀ before plan after, plans = before ++ plan :: after → plan.category = category →
        (∀ q ∈ after, q.category ≠ category) → cycle = x.execute plan client) ∧
      (∀ plan : Plan, plan.category ≠ category →
        ({ x with registry := registry.add plan } : Executor m).runCycle category client = cycle) ∧
      (missing → cycle = pure (.error ⟨category, [], .zero, .plan ⟨category.name⟩⟩))) ∧
    ∀ {σ ε : Type} (x : Executor (StateM σ)) (client : Client (StateM σ)) (w : σ),
      let serving : Executor (StateM σ) := { x with registry }
      CycleResult.category ((serving.runCycle category client).run w).1 = category ∧
      (missing → ∀ (p : Pace) (watch : Watch (StateM σ)) (report : CycleResult → StateM σ (Except ε Unit)) (fuel : Nat),
        ∃ events result w',
          ((notedPoll p watch serving category client report (fuel + 1) {}).run []).run w = ((some result, events), w') ∧
          (poll p watch (serving.runCycle category client) report (fuel + 1) {}).run w = (some result, w') ∧
          PlanlessPoll p watch report category w events result w') := by
  intro registry missing
  have hmissing : missing → registry.get category = .error ⟨category.name⟩ := Registry.get_addAll_of_ne {}
  refine ⟨rfl, ?_, ?_⟩
  · intro m _ x client cycle
    refine ⟨?_, ?_, ?_⟩
    · rintro before plan after rfl rfl later
      exact Executor.runCycle_of_get (Registry.get_addAll_last {} before later) client
    · intro plan hplan
      have hget : (registry.add plan).get category = registry.get category := registry.get_add_of_ne hplan
      simp only [cycle, Executor.runCycle, hget]
      rfl
    · exact fun h => Executor.runCycle_planless (hmissing h) client
  · intro σ ε x client w serving
    refine ⟨serving.runCycle_category category client w, ?_⟩
    intro h p watch report fuel
    obtain ⟨events, result, w', hrun, hplanless⟩ :=
      notedPoll_planless p watch report (x := serving) (hmissing h) client fuel w
    exact ⟨events, result, w', hrun, notedPoll_erased hrun, hplanless⟩

end MeterPolling
