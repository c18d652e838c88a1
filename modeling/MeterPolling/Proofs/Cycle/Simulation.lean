import MeterPolling.Cycle

namespace MeterPolling

def untimed : CycleResult → CycleResult
  | .ok c => .ok { c with elapsed := .zero }
  | .error a => .error { a with elapsed := .zero }

def Executor.repeatedly {m : Type → Type} [Monad m] (x : Executor m) (plan : Plan)
    (client : Client m) : Nat → m (List CycleResult)
  | 0 => pure []
  | cycles + 1 => do
    let result ← x.execute plan client
    let results ← x.repeatedly plan client cycles
    return result :: results

theorem ReadCommand.count_le {c : ReadCommand} (sound : (Command.read c).defect? = none) :
    c.count.toNat ≤ maxRegisters := by
  simp only [Command.defect?] at sound
  split at sound
  next => simp at sound
  next =>
    split at sound
    next => simp at sound
    next => omega

theorem WriteCommand.length_le {c : WriteCommand} (sound : (Command.write c).defect? = none) :
    c.values.length ≤ maxRegisters := by
  simp only [Command.defect?] at sound
  split at sound
  next => simp at sound
  next =>
    split at sound
    next => simp at sound
    next => omega

/-- Two kinds of effects, and when what they come to is related. -/
structure Simulation (m n : Type → Type) [Monad m] [Monad n] where
  Holds : {α β : Type} → (α → β → Prop) → m α → n β → Prop
  pure_holds : ∀ {α β : Type} {R : α → β → Prop} {a : α} {b : β}, R a b → Holds R (pure a) (pure b)
  bind_holds : ∀ {α β γ δ : Type} {R : α → β → Prop} {S : γ → δ → Prop} {x : m α} {y : n β}
    {f : α → m γ} {g : β → n δ},
    Holds R x y → (∀ a b, R a b → Holds S (f a) (g b)) → Holds S (x >>= f) (y >>= g)

namespace Simulation

def erasure (L σ : Type) : Simulation (StateT L (StateM σ)) (StateM σ) where
  Holds R x y := ∀ log w, R ((x.run log).run w).1.1 (y.run w).1 ∧ ((x.run log).run w).2 = (y.run w).2
  pure_holds hab := fun _ _ => ⟨hab, rfl⟩
  bind_holds {_ _ _ _ _ _ x y f g} hx hf := by
    intro log w
    obtain ⟨hab, hw⟩ := hx log w
    have hthen := hf _ _ hab ((x.run log).run w).1.2 (y.run w).2
    rw [← hw] at hthen
    have hrun : (y >>= g).run w = (g (y.run w).1).run ((x.run log).run w).2 := by
      rw [hw]
      rfl
    rw [hrun]
    exact hthen

variable {m n : Type → Type} [Monad m] [Monad n]

/-- Two clients that answer every call of a sound command alike. -/
structure Clients (sim : Simulation m n) (client : Client m) (model : Client n) : Prop where
  read : ∀ register count : UInt16, count.toNat ≤ maxRegisters →
    sim.Holds Eq (client.read register count) (model.read register count)
  write : ∀ (register : UInt16) (values : List UInt16), values.length ≤ maxRegisters →
    sim.Holds Eq (client.write register values) (model.write register values)

/-- Two executors that are stopped alike; their clocks may differ. -/
structure Executors (sim : Simulation m n) (x : Executor m) (y : Executor n) : Prop where
  stopped : sim.Holds Eq x.stopped y.stopped
  now : sim.Holds (fun _ _ => True) x.now y.now

variable {sim : Simulation m n} {client : Client m} {model : Client n}

theorem runCommand (h : sim.Clients client model) {c : Command} (sound : c.defect? = none) :
    sim.Holds Eq (runCommand client c) (MeterPolling.runCommand model c) := by
  cases c with
  | read c =>
    refine sim.bind_holds (h.read c.register c.count (ReadCommand.count_le sound)) ?_
    rintro reply _ rfl
    cases reply with
    | error cause => exact sim.pure_holds rfl
    | ok words =>
      cases hd : c.decode words with
      | error cause =>
        simp only [hd]
        exact sim.pure_holds rfl
      | ok value =>
        simp only [hd]
        exact sim.pure_holds rfl
  | write c =>
    refine sim.bind_holds (h.write c.register c.values (WriteCommand.length_le sound)) ?_
    rintro reply _ rfl
    cases reply with
    | error cause => exact sim.pure_holds rfl
    | ok _ => exact sim.pure_holds rfl

theorem runCommands (h : sim.Clients client model) {stopped : m Bool} {halted : n Bool}
    (hs : sim.Holds Eq stopped halted) {commands : List Command}
    (sound : ∀ c ∈ commands, c.defect? = none) :
    sim.Holds Eq (runCommands client stopped commands)
      (MeterPolling.runCommands model halted commands) := by
  induction commands with
  | nil => exact sim.pure_holds rfl
  | cons c rest ih =>
    refine sim.bind_holds hs ?_
    rintro stop _ rfl
    cases stop with
    | true => exact sim.pure_holds rfl
    | false =>
      refine sim.bind_holds (runCommand h (sound c (List.mem_cons_self ..))) ?_
      rintro result _ rfl
      cases result with
      | error e => exact sim.pure_holds rfl
      | ok outcome =>
        refine sim.bind_holds (ih fun d hd => sound d (List.mem_cons_of_mem c hd)) ?_
        rintro outcomes _ rfl
        exact sim.pure_holds rfl

theorem execute (h : sim.Clients client model) {x : Executor m} {y : Executor n}
    (hx : sim.Executors x y) (plan : Plan) :
    sim.Holds (fun a b => untimed a = untimed b) (x.execute plan client)
      (y.execute plan model) := by
  refine sim.bind_holds hx.now ?_
  intro start begun _
  refine sim.bind_holds (runCommands h hx.stopped plan.sound) ?_
  rintro ⟨outcomes, failure⟩ _ rfl
  refine sim.bind_holds hx.now ?_
  intro finish ended _
  cases failure with
  | none => exact sim.pure_holds rfl
  | some e => exact sim.pure_holds rfl

theorem executeTimed (h : sim.Clients client model) {x : Executor m} {y : Executor n}
    (hs : sim.Holds Eq x.stopped y.stopped) (hn : sim.Holds Eq x.now y.now) (plan : Plan) :
    sim.Holds Eq (x.execute plan client) (y.execute plan model) := by
  refine sim.bind_holds hn ?_
  rintro start _ rfl
  refine sim.bind_holds (runCommands h hs plan.sound) ?_
  rintro ⟨outcomes, failure⟩ _ rfl
  refine sim.bind_holds hn ?_
  rintro finish _ rfl
  cases failure with
  | none => exact sim.pure_holds rfl
  | some e => exact sim.pure_holds rfl

theorem runCycle (h : sim.Clients client model) {x : Executor m} {y : Executor n}
    (registry : x.registry = y.registry) (hs : sim.Holds Eq x.stopped y.stopped)
    (hn : sim.Holds Eq x.now y.now) (category : Category) :
    sim.Holds Eq (x.runCycle category client) (y.runCycle category model) := by
  unfold Executor.runCycle
  rw [registry]
  cases y.registry.get category with
  | error cause => exact sim.pure_holds rfl
  | ok plan => exact executeTimed h hs hn plan

/-- However often a plan is run, the results are the same but for the time taken. -/
theorem repeatedly (h : sim.Clients client model) {x : Executor m} {y : Executor n}
    (hx : sim.Executors x y) (plan : Plan) (cycles : Nat) :
    sim.Holds (fun as bs => as.map untimed = bs.map untimed) (x.repeatedly plan client cycles)
      (y.repeatedly plan model cycles) := by
  induction cycles with
  | zero => exact sim.pure_holds rfl
  | succ cycles ih =>
    refine sim.bind_holds (execute h hx plan) ?_
    intro a b hab
    refine sim.bind_holds ih ?_
    intro as bs hs
    refine sim.pure_holds ?_
    simp only [List.map_cons, hab, hs]

end Simulation

end MeterPolling
