import MeterPolling.Proofs.Cycle.Prefix

namespace MeterPolling

variable {σ : Type} {client : Client (StateM σ)} {stopped : StateM σ Bool}

theorem runCommands_failure {w w' : σ} {c : Command} {calls : List Call} {e : CycleError}
    (h : CommandStep client stopped w c calls (.error e) w') (rest : List Command) :
    (runCommands client stopped (c :: rest)).run w = (([], some e), w') := by
  cases h with
  | interrupted ht => simp [runCommands, ht]
  | unread ht hr => simp [runCommands, runCommand, ht, hr]
  | undecoded ht hr hd => simp [runCommands, runCommand, ht, hr, hd]
  | unwritten ht hr => simp [runCommands, runCommand, ht, hr]

theorem runCommands_outcome {w w₁ w' : σ} {c : Command} {calls : List Call} {outcome : Outcome}
    {rest : List Command} {outcomes : List Outcome} {failure : Option CycleError}
    (h : CommandStep client stopped w c calls (.ok outcome) w₁)
    (hr : (runCommands client stopped rest).run w₁ = ((outcomes, failure), w')) :
    (runCommands client stopped (c :: rest)).run w = ((outcome :: outcomes, failure), w') := by
  cases h with
  | read ht hp hd => simp [runCommands, runCommand, ht, hp, hd, hr]
  | wrote ht hp => simp [runCommands, runCommand, ht, hp, hr]

theorem runCommands_append {w w₁ w' : σ} {before : List Command} {kept : List Outcome}
    (h : Completes client stopped w before kept w₁) {rest : List Command}
    {outcomes : List Outcome} {failure : Option CycleError}
    (hr : (runCommands client stopped rest).run w₁ = ((outcomes, failure), w')) :
    (runCommands client stopped (before ++ rest)).run w = ((kept ++ outcomes, failure), w') := by
  induction h with
  | nil => exact hr
  | cons first _ ih => exact runCommands_outcome first (ih hr)

theorem execute_of_runCommands (x : Executor (StateM σ)) (plan : Plan) {w w' : σ}
    {outcomes : List Outcome} {failure : Option CycleError}
    (h : (runCommands client x.stopped plan.commands).run (x.now.run w).2 =
      ((outcomes, failure), w')) :
    (x.execute plan client).run w =
      let elapsed : TimeSpan := ⟨(x.now.run w').1.nanoseconds - (x.now.run w).1.nanoseconds⟩
      (match failure with
        | none => .ok ⟨plan.category, outcomes, elapsed⟩
        | some e => .error ⟨plan.category, outcomes, elapsed, e⟩, (x.now.run w').2) := by
  cases failure with
  | none => simp [Executor.execute, h]
  | some e => simp [Executor.execute, h]

/-- A run ends behind its last command, or at one that fails after those before it have had outcomes. -/
theorem execute_run (x : Executor (StateM σ)) (client : Client (StateM σ)) (plan : Plan) (w : σ) :
    (∃ outcomes elapsed w₁, Completes client x.stopped (x.now.run w).2 plan.commands outcomes w₁ ∧
      (x.execute plan client).run w = (.ok ⟨plan.category, outcomes, elapsed⟩, (x.now.run w₁).2)) ∨
    ∃ before c after outcomes elapsed w₁ calls e w₂, plan.commands = before ++ c :: after ∧
      Completes client x.stopped (x.now.run w).2 before outcomes w₁ ∧
      CommandStep client x.stopped w₁ c calls (.error e) w₂ ∧
      (x.execute plan client).run w =
        (.error ⟨plan.category, outcomes, elapsed, e⟩, (x.now.run w₂).2) := by
  rcases completes_or_fails client x.stopped plan.commands (x.now.run w).2 with
    ⟨outcomes, w₁, hc⟩ | ⟨before, c, after, outcomes, w₁, calls, e, w₂, he, hb, hc⟩
  · have hnil : (runCommands client x.stopped []).run w₁ = (([], none), w₁) := rfl
    have hrun := runCommands_append hc hnil
    rw [List.append_nil, List.append_nil] at hrun
    exact .inl ⟨outcomes, _, w₁, hc, execute_of_runCommands x plan hrun⟩
  · have hrun := runCommands_append hb (runCommands_failure hc after)
    rw [← he, List.append_nil] at hrun
    exact .inr ⟨before, c, after, outcomes, _, w₁, calls, e, w₂, he, hb, hc,
      execute_of_runCommands x plan hrun⟩

end MeterPolling
