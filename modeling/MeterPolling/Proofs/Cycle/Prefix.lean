import MeterPolling.Cycle
import MeterPolling.Proofs.Effect

namespace MeterPolling

def Command.call : Command → Call
  | .read c => .read c.register c.count
  | .write c => .write c.register c.values

variable {σ : Type}

/--
A command reached in a world: the calls made for it, its outcome or the error that it ends the run with,
and the world after it. The wish to stop is looked at before anything is asked of the client.
-/
inductive CommandStep (client : Client (StateM σ)) (stopped : StateM σ Bool) :
    σ → Command → List Call → Except CycleError Outcome → σ → Prop
  | interrupted {w w' : σ} {c : Command} (token : stopped.run w = (true, w')) :
      CommandStep client stopped w c [] (.error (.interrupted c.name)) w'
  | unread {w w₁ w' : σ} {c : ReadCommand} {cause : TransportError}
      (token : stopped.run w = (false, w₁))
      (reply : (client.read c.register c.count).run w₁ = (.error cause, w')) :
      CommandStep client stopped w (.read c) [.read c.register c.count]
        (.error (.read c.name cause)) w'
  | undecoded {w w₁ w' : σ} {c : ReadCommand} {words : List UInt16} {cause : DecodeError}
      (token : stopped.run w = (false, w₁))
      (reply : (client.read c.register c.count).run w₁ = (.ok words, w'))
      (rejected : c.decode words = .error cause) :
      CommandStep client stopped w (.read c) [.read c.register c.count]
        (.error (.decode c.name cause)) w'
  | read {w w₁ w' : σ} {c : ReadCommand} {words : List UInt16} {value : Value}
      (token : stopped.run w = (false, w₁))
      (reply : (client.read c.register c.count).run w₁ = (.ok words, w'))
      (decoded : c.decode words = .ok value) :
      CommandStep client stopped w (.read c) [.read c.register c.count]
        (.ok ⟨c.name, c.register, .read value⟩) w'
  | unwritten {w w₁ w' : σ} {c : WriteCommand} {cause : TransportError}
      (token : stopped.run w = (false, w₁))
      (reply : (client.write c.register c.values).run w₁ = (.error cause, w')) :
      CommandStep client stopped w (.write c) [.write c.register c.values]
        (.error (.write c.name cause)) w'
  | wrote {w w₁ w' : σ} {c : WriteCommand}
      (token : stopped.run w = (false, w₁))
      (reply : (client.write c.register c.values).run w₁ = (.ok (), w')) :
      CommandStep client stopped w (.write c) [.write c.register c.values]
        (.ok ⟨c.name, c.register, .wrote c.values⟩) w'

/-- Commands that all have an outcome when they are run one after the other from a world. -/
inductive Completes (client : Client (StateM σ)) (stopped : StateM σ Bool) :
    σ → List Command → List Outcome → σ → Prop
  | nil {w : σ} : Completes client stopped w [] [] w
  | cons {w w₁ w' : σ} {c : Command} {rest : List Command} {outcome : Outcome}
      {outcomes : List Outcome}
      (first : CommandStep client stopped w c [c.call] (.ok outcome) w₁)
      (others : Completes client stopped w₁ rest outcomes w') :
      Completes client stopped w (c :: rest) (outcome :: outcomes) w'

variable {client : Client (StateM σ)} {stopped : StateM σ Bool}

theorem CommandStep.calls_of_ok {w w' : σ} {c : Command} {calls : List Call} {outcome : Outcome}
    (h : CommandStep client stopped w c calls (.ok outcome) w') : calls = [c.call] := by
  cases h with
  | read => rfl
  | wrote => rfl

theorem commandStep_exists (client : Client (StateM σ)) (stopped : StateM σ Bool) (w : σ)
    (c : Command) : ∃ calls result w', CommandStep client stopped w c calls result w' := by
  rcases ht : stopped.run w with ⟨stop, w₁⟩
  cases stop with
  | true => exact ⟨_, _, _, .interrupted ht⟩
  | false =>
    cases c with
    | read c =>
      rcases hr : (client.read c.register c.count).run w₁ with ⟨reply, w'⟩
      cases reply with
      | error cause => exact ⟨_, _, _, .unread ht hr⟩
      | ok words =>
        cases hd : c.decode words with
        | error cause => exact ⟨_, _, _, .undecoded ht hr hd⟩
        | ok value => exact ⟨_, _, _, .read ht hr hd⟩
    | write c =>
      rcases hr : (client.write c.register c.values).run w₁ with ⟨reply, w'⟩
      cases reply with
      | error cause => exact ⟨_, _, _, .unwritten ht hr⟩
      | ok _ => exact ⟨_, _, _, .wrote ht hr⟩

theorem completes_or_fails (client : Client (StateM σ)) (stopped : StateM σ Bool)
    (commands : List Command) (w : σ) :
    (∃ outcomes w', Completes client stopped w commands outcomes w') ∨
      ∃ before c after outcomes w₁ calls e w', commands = before ++ c :: after ∧
        Completes client stopped w before outcomes w₁ ∧
        CommandStep client stopped w₁ c calls (.error e) w' := by
  induction commands generalizing w with
  | nil => exact .inl ⟨[], w, .nil⟩
  | cons c rest ih =>
    obtain ⟨calls, result, w₁, hc⟩ := commandStep_exists client stopped w c
    cases result with
    | error e => exact .inr ⟨[], c, rest, [], w, calls, e, w₁, rfl, .nil, hc⟩
    | ok outcome =>
      have hcalls := hc.calls_of_ok
      subst calls
      rcases ih w₁ with
        ⟨outcomes, w', hr⟩ | ⟨before, d, after, outcomes, w₂, calls, e, w', he, hb, hd⟩
      · exact .inl ⟨_, w', .cons hc hr⟩
      · subst rest
        exact .inr ⟨c :: before, d, after, _, w₂, calls, e, w', rfl, .cons hc hb, hd⟩

def runLogged (client : Client (StateM σ)) (stopped : StateM σ Bool) (commands : List Command)
    (log : List Call) (w : σ) : ((List Outcome × Option CycleError) × List Call) × σ :=
  ((runCommands client.logged (StateT.lift stopped) commands).run log).run w

theorem runLogged_failure {w w' : σ} {c : Command} {calls : List Call} {e : CycleError}
    (h : CommandStep client stopped w c calls (.error e) w') (rest : List Command)
    (log : List Call) :
    runLogged client stopped (c :: rest) log w = ((([], some e), log ++ calls), w') := by
  unfold runLogged
  cases h with
  | interrupted ht => simp [runCommands, ht]
  | unread ht hr => simp [runCommands, runCommand, Client.logged, ht, hr]
  | undecoded ht hr hd => simp [runCommands, runCommand, Client.logged, ht, hr, hd]
  | unwritten ht hr => simp [runCommands, runCommand, Client.logged, ht, hr]

theorem runLogged_outcome {w w₁ w' : σ} {c : Command} {outcome : Outcome} {rest : List Command}
    {log after : List Call} {outcomes : List Outcome} {failure : Option CycleError}
    (h : CommandStep client stopped w c [c.call] (.ok outcome) w₁)
    (hr : runLogged client stopped rest (log ++ [c.call]) w₁ = (((outcomes, failure), after), w')) :
    runLogged client stopped (c :: rest) log w = (((outcome :: outcomes, failure), after), w') := by
  unfold runLogged Client.logged at *
  cases h with
  | read ht hp hd =>
    simp only [Command.call] at hr
    simp [runCommands, runCommand, ht, hp, hd, hr]
  | wrote ht hp =>
    simp only [Command.call] at hr
    simp [runCommands, runCommand, ht, hp, hr]

theorem runLogged_append {w w₁ w' : σ} {before : List Command} {kept : List Outcome}
    (h : Completes client stopped w before kept w₁) {rest : List Command} (log : List Call)
    {after : List Call} {outcomes : List Outcome} {failure : Option CycleError}
    (hr : runLogged client stopped rest (log ++ before.map Command.call) w₁ =
      (((outcomes, failure), after), w')) :
    runLogged client stopped (before ++ rest) log w =
      (((kept ++ outcomes, failure), after), w') := by
  induction h generalizing log with
  | nil => simpa using hr
  | @cons w w₁ w₂ c more outcome kept first others ih =>
    have hlog : log ++ (c :: more).map Command.call = log ++ [c.call] ++ more.map Command.call := by
      simp
    rw [hlog] at hr
    exact runLogged_outcome first (ih _ hr)

theorem execute_of_runLogged (x : Executor (StateM σ)) (client : Client (StateM σ)) (plan : Plan)
    (w : σ) {w' : σ} {outcomes : List Outcome} {failure : Option CycleError} {calls : List Call}
    (h : runLogged client x.stopped plan.commands [] (x.now.run w).2 =
      (((outcomes, failure), calls), w')) :
    ((x.lift.execute plan client.logged).run []).run w =
      let elapsed : TimeSpan := ⟨(x.now.run w').1.nanoseconds - (x.now.run w).1.nanoseconds⟩
      ((match failure with
        | none => .ok ⟨plan.category, outcomes, elapsed⟩
        | some e => .error ⟨plan.category, outcomes, elapsed, e⟩, calls), (x.now.run w').2) := by
  unfold runLogged at h
  cases failure with
  | none => simp [Executor.execute, Executor.lift, h]
  | some e => simp [Executor.execute, Executor.lift, h]

/--
Either every command of the plan has an outcome, its call is made once, in the order of the plan, and these
are the outcomes of the cycle; or there is a first command `c` that fails, and then the calls are those of
the commands before it and its own if it got that far, the outcomes kept are those before it, and the error
is that of `c`.
-/
theorem execute_prefix (x : Executor (StateM σ)) (client : Client (StateM σ)) (plan : Plan) (w : σ) :
    let start := x.now.run w
    let elapsed (w' : σ) : TimeSpan := ⟨(x.now.run w').1.nanoseconds - start.1.nanoseconds⟩
    let run := ((x.lift.execute plan client.logged).run []).run w
    (∃ outcomes w₁, Completes client x.stopped start.2 plan.commands outcomes w₁ ∧
      run = ((.ok ⟨plan.category, outcomes, elapsed w₁⟩, plan.commands.map Command.call),
        (x.now.run w₁).2)) ∨
    ∃ before c after outcomes w₁ calls e w₂, plan.commands = before ++ c :: after ∧
      Completes client x.stopped start.2 before outcomes w₁ ∧
      CommandStep client x.stopped w₁ c calls (.error e) w₂ ∧
      run = ((.error ⟨plan.category, outcomes, elapsed w₂, e⟩,
        before.map Command.call ++ calls), (x.now.run w₂).2) := by
  intro start elapsed run
  rcases completes_or_fails client x.stopped plan.commands start.2 with
    ⟨outcomes, w₁, hc⟩ | ⟨before, c, after, outcomes, w₁, calls, e, w₂, he, hb, hc⟩
  · refine .inl ⟨outcomes, w₁, hc, ?_⟩
    have hnil : runLogged client x.stopped [] ([] ++ plan.commands.map Command.call) w₁ =
        ((([], none), plan.commands.map Command.call), w₁) := rfl
    have hrun := runLogged_append hc [] hnil
    simp only [List.append_nil] at hrun
    exact execute_of_runLogged x client plan w hrun
  · refine .inr ⟨before, c, after, outcomes, w₁, calls, e, w₂, he, hb, hc, ?_⟩
    have hrun := runLogged_append hb [] (runLogged_failure hc after _)
    rw [← he] at hrun
    simp only [List.append_nil, List.nil_append] at hrun
    exact execute_of_runLogged x client plan w hrun

end MeterPolling
