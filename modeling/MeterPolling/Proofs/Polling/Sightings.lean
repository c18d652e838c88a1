import MeterPolling.Proofs.Cycle.Run
import MeterPolling.Proofs.Polling.Rounds

namespace MeterPolling

/-- An event, and whether the token was cancelled before it. -/
structure Sight (ε : Type) where
  event : PollEvent ε
  late : Bool

structure Seen (σ ε : Type) where
  world : σ
  sights : List (Sight ε) := []

variable {σ ε : Type}

namespace Seen

def act {α : Type} (a : StateM σ α) : StateM (Seen σ ε) α :=
  fun v => ((a.run v.world).1, { v with world := (a.run v.world).2 })

def sight (token : σ → Bool) (event : PollEvent ε) : StateM (Seen σ ε) Unit :=
  fun v => ((), { v with sights := v.sights ++ [⟨event, token v.world⟩] })

@[simp] theorem run_act {α : Type} (a : StateM σ α) (v : Seen σ ε) :
    (act a).run v = ((a.run v.world).1, { v with world := (a.run v.world).2 }) := rfl

@[simp] theorem run_sight (token : σ → Bool) (event : PollEvent ε) (v : Seen σ ε) :
    (sight token event).run v = ((), { v with sights := v.sights ++ [⟨event, token v.world⟩] }) := rfl

end Seen

section Sighted

variable (token : σ → Bool)

def Client.sighted (client : Client (StateM σ)) : Client (StateM (Seen σ ε)) where
  read register count := do
    Seen.sight token (.called (.read register count))
    Seen.act (client.read register count)
  write register values := do
    Seen.sight token (.called (.write register values))
    Seen.act (client.write register values)

def Watch.sighted (watch : Watch (StateM σ)) : Watch (StateM (Seen σ ε)) where
  now := do
    Seen.sight token .started
    Seen.act watch.now
  waitUntil t := Seen.act (watch.waitUntil t)
  stopped := Seen.act watch.stopped

@[simp] theorem Watch.run_now_sighted (watch : Watch (StateM σ)) (v : Seen σ ε) :
    (watch.sighted token).now.run v =
      ((watch.now.run v.world).1,
        ⟨(watch.now.run v.world).2, v.sights ++ [⟨.started, token v.world⟩]⟩) := rfl

@[simp] theorem Watch.waitUntil_sighted (watch : Watch (StateM σ)) (t : TimeSpan) :
    (watch.sighted (ε := ε) token).waitUntil t = Seen.act (watch.waitUntil t) := rfl

def Executor.seen (x : Executor (StateM σ)) : Executor (StateM (Seen σ ε)) :=
  ⟨x.registry, Seen.act x.stopped, Seen.act x.now⟩

def sightedCycle (x : Executor (StateM σ)) (category : Category) (client : Client (StateM σ)) :
    StateM (Seen σ ε) CycleResult := do
  let result ← x.seen.runCycle category (client.sighted token)
  Seen.sight token (.ended result)
  return result

def sightedReport (report : CycleResult → StateM σ (Except ε Unit)) (result : CycleResult) :
    StateM (Seen σ ε) (Except ε Unit) := do
  let outcome ← Seen.act (report result)
  Seen.sight token (.reported result outcome)
  return outcome

@[simp] theorem run_sightedReport (report : CycleResult → StateM σ (Except ε Unit))
    (result : CycleResult) (v : Seen σ ε) :
    (sightedReport token report result).run v =
      let run := (report result).run v.world
      (run.1, ⟨run.2, v.sights ++ [⟨.reported result run.1, token run.2⟩]⟩) := rfl

def sightedPoll (p : Pace) (watch : Watch (StateM σ)) (x : Executor (StateM σ)) (category : Category)
    (client : Client (StateM σ)) (report : CycleResult → StateM σ (Except ε Unit)) (fuel : Nat)
    (s : Summary) : StateM (Seen σ ε) (Option (Except (PollError ε) Summary)) :=
  poll p (watch.sighted token) (sightedCycle token x category client) (sightedReport token report) fuel s

end Sighted

def Simulation.sightless (σ ε : Type) : Simulation (StateM (Seen σ ε)) (StateM σ) where
  Holds R x y := ∀ v, R (x.run v).1 (y.run v.world).1 ∧ (x.run v).2.world = (y.run v.world).2
  pure_holds hab := fun _ => ⟨hab, rfl⟩
  bind_holds {_ _ _ _ _ _ x y f g} hx hf := by
    intro v
    obtain ⟨hab, hw⟩ := hx v
    have hthen := hf _ _ hab (x.run v).2
    rw [hw] at hthen
    exact hthen

/-- Noting what happens changes nothing. -/
theorem sightedPoll_erased (token : σ → Bool) (p : Pace) (watch : Watch (StateM σ))
    (x : Executor (StateM σ)) (category : Category) (client : Client (StateM σ))
    (report : CycleResult → StateM σ (Except ε Unit)) (fuel : Nat) (s : Summary) (v : Seen σ ε) :
    (poll p watch (x.runCycle category client) report fuel s).run v.world =
      (((sightedPoll token p watch x category client report fuel s).run v).1,
        ((sightedPoll token p watch x category client report fuel s).run v).2.world) := by
  let sim := Simulation.sightless σ ε
  have hclient : sim.Clients (client.sighted token) client :=
    ⟨fun _ _ _ _ => ⟨rfl, rfl⟩, fun _ _ _ _ => ⟨rfl, rfl⟩⟩
  have hwatch : sim.Watches (watch.sighted token) watch :=
    ⟨fun _ => ⟨rfl, rfl⟩, fun _ _ => ⟨rfl, rfl⟩, fun _ => ⟨rfl, rfl⟩⟩
  have hrun : sim.Holds Eq (x.seen.runCycle category (client.sighted token)) (x.runCycle category client) :=
    Simulation.runCycle hclient rfl (fun _ => ⟨rfl, rfl⟩) (fun _ => ⟨rfl, rfl⟩) category
  have hcycle : sim.Holds Eq (sightedCycle token x category client) (x.runCycle category client) := hrun
  have hreport : ∀ result, sim.Holds Eq (sightedReport token report result) (report result) :=
    fun _ _ => ⟨rfl, rfl⟩
  obtain ⟨hresult, hworld⟩ := Simulation.poll p hwatch hcycle hreport fuel s v
  exact (Prod.ext hresult hworld).symm

/-- What of a token is relied on: once it is cancelled, it stays so, whatever is done. -/
structure Lasting (token : σ → Bool) (watch : Watch (StateM σ)) (x : Executor (StateM σ))
    (client : Client (StateM σ)) (report : CycleResult → StateM σ (Except ε Unit)) : Prop where
  read : ∀ register count w, token w → token ((client.read register count).run w).2
  write : ∀ register values w, token w → token ((client.write register values).run w).2
  report : ∀ result w, token w → token ((report result).run w).2
  waitUntil : ∀ t w, token w → token ((watch.waitUntil t).run w).2
  loopNow : ∀ w, token w → token (watch.now.run w).2
  now : ∀ w, token w → token (x.now.run w).2

/-- Looking for a stop: who holds the token sees whether it is cancelled, and who does not sees no stop. -/
def Holding (token : σ → Bool) (held : Bool) (look : StateM σ Bool) : Prop :=
  ∀ w, (look.run w).1 = (held && token (look.run w).2) ∧ (token w → token (look.run w).2)

/-- From the state of a token to a later one, with those in between: once it is cancelled, it stays so. -/
inductive Climbs : Bool → List Bool → Bool → Prop
  | nil {b b' : Bool} (h : b → b') : Climbs b [] b'
  | cons {b next b' : Bool} {rest : List Bool} (h : b → next) (more : Climbs next rest b') :
      Climbs b (next :: rest) b'

namespace Climbs

variable {a b c : Bool} {before after : List Bool}

theorem weaken (hab : a → b) (h : Climbs b after c) : Climbs a after c := by
  cases h with
  | nil hbc => exact .nil (hbc ∘ hab)
  | cons hnext more => exact .cons (hnext ∘ hab) more

theorem append (h : Climbs a before b) (h' : Climbs b after c) : Climbs a (before ++ after) c := by
  induction h with
  | nil hab => exact h'.weaken hab
  | cons hnext _ ih => exact .cons hnext (ih h')

theorem last (h : Climbs a before b) : a → b := by
  induction h with
  | nil hab => exact hab
  | cons hnext _ ih => exact ih ∘ hnext

theorem all (h : Climbs a before b) (ha : a) : ∀ late ∈ before, late := by
  induction h with
  | nil => simp
  | cons hnext _ ih =>
    rw [List.forall_mem_cons]
    exact ⟨hnext ha, ih (hnext ha)⟩

theorem ends (h : Climbs a before b) : ∀ late ∈ before, late → b := by
  induction h with
  | nil => simp
  | cons _ more ih =>
    rw [List.forall_mem_cons]
    exact ⟨more.last, ih⟩

theorem pairwise (h : Climbs a before b) :
    (a :: before ++ [b]).Pairwise fun earlier later : Bool => earlier → later := by
  induction h with
  | nil hab => exact .cons (by simpa using hab) (List.pairwise_singleton _ _)
  | @cons a next b rest hnext more ih =>
    refine .cons ?_ ih
    intro late hlate ha
    have hlast := more.last (hnext ha)
    have hall := more.all (hnext ha)
    rcases List.mem_append.mp hlate with hmem | hmem
    · rcases List.mem_cons.mp hmem with he | hmem
      · exact he ▸ hnext ha
      · exact hall late hmem
    · exact List.mem_singleton.mp hmem ▸ hlast

end Climbs

abbrev SeenCall : Type := Call × Bool

/-- Calls that lead from one moment to another. Whoever holds the token makes none that is late. -/
structure Spanned (token : σ → Bool) (held : Bool) (v : Seen σ ε) (calls : List SeenCall)
    (v' : Seen σ ε) : Prop where
  sights : v'.sights = v.sights ++ calls.map fun c => ⟨.called c.1, c.2⟩
  climbs : Climbs (token v.world) (calls.map Prod.snd) (token v'.world)
  inTime : held → ∀ c ∈ calls, c.2 = false

theorem Spanned.append {token : σ → Bool} {held : Bool} {v v₁ v' : Seen σ ε} {calls more : List SeenCall}
    (h : Spanned token held v calls v₁) (h' : Spanned token held v₁ more v') :
    Spanned token held v (calls ++ more) v' := by
  refine ⟨?_, ?_, ?_⟩
  · rw [h'.sights, h.sights, List.append_assoc, List.map_append]
  · rw [List.map_append]
    exact h.climbs.append h'.climbs
  · intro hheld
    exact List.forall_mem_append.mpr ⟨h.inTime hheld, h'.inTime hheld⟩

section Commands

variable {token : σ → Bool} {held : Bool} {client : Client (StateM σ)} {stopped : StateM σ Bool}
  {v v₁ v' : Seen σ ε}

theorem act_look {stop : Bool} (holding : Holding token held stopped)
    (h : (Seen.act stopped).run v = (stop, v₁)) :
    stop = (held && token v₁.world) ∧ v₁.sights = v.sights ∧ (token v.world → token v₁.world) := by
  obtain ⟨hstop, hstays⟩ := holding v.world
  cases h
  exact ⟨hstop, rfl, hstays⟩

theorem Spanned.call {α : Type} {reply : α} {call : Call} {effect : StateM σ α}
    (holding : Holding token held stopped) (hlook : (Seen.act stopped).run v = (false, v₁))
    (stays : ∀ w, token w → token (effect.run w).2)
    (h : (do Seen.sight token (.called call); Seen.act effect).run v₁ = (reply, v')) :
    Spanned token held v [(call, token v₁.world)] v' := by
  obtain ⟨hstop, hsights, hstays⟩ := act_look holding hlook
  cases h
  refine ⟨?_, .cons hstays (.nil (stays v₁.world)), ?_⟩
  · simp [hsights]
  · intro hheld
    simpa [hheld] using hstop

variable (read : ∀ register count w, token w → token ((client.read register count).run w).2)
  (write : ∀ register values w, token w → token ((client.write register values).run w).2)
  (holding : Holding token held stopped)
include read write holding

theorem step_spanned {c : Command} {calls : List Call} {result : Except CycleError Outcome}
    (h : CommandStep (client.sighted token) (Seen.act stopped) v c calls result v') :
    ∃ seen : List SeenCall, seen.map Prod.fst = calls ∧ Spanned token held v seen v' := by
  cases h with
  | interrupted look =>
    obtain ⟨_, hsights, hstays⟩ := act_look holding look
    exact ⟨[], rfl, by simp [hsights], .nil hstays, by simp⟩
  | unread look reply => exact ⟨[_], rfl, .call holding look (read _ _) reply⟩
  | undecoded look reply _ => exact ⟨[_], rfl, .call holding look (read _ _) reply⟩
  | read look reply _ => exact ⟨[_], rfl, .call holding look (read _ _) reply⟩
  | unwritten look reply => exact ⟨[_], rfl, .call holding look (write _ _) reply⟩
  | wrote look reply => exact ⟨[_], rfl, .call holding look (write _ _) reply⟩

theorem completes_spanned {commands : List Command} {outcomes : List Outcome}
    (h : Completes (client.sighted token) (Seen.act stopped) v commands outcomes v') :
    ∃ seen : List SeenCall, seen.map Prod.fst = commands.map Command.call ∧
      Spanned token held v seen v' := by
  induction h with
  | nil => exact ⟨[], rfl, by simp, .nil id, by simp⟩
  | cons first _ ih =>
    obtain ⟨seen, hcalls, hfirst⟩ := step_spanned read write holding first
    obtain ⟨more, hmore, hothers⟩ := ih
    exact ⟨seen ++ more, by simp [hcalls, hmore], hfirst.append hothers⟩

end Commands

theorem CommandStep.failed {token : σ → Bool} {held : Bool} {client : Client (StateM (Seen σ ε))}
    {stopped : StateM σ Bool} {v v' : Seen σ ε} {c : Command} {calls : List Call} {e : CycleError}
    (h : CommandStep client (Seen.act stopped) v c calls (.error e) v')
    (holding : Holding token held stopped) :
    (calls = [] ∧ e = .interrupted c.name ∧ held ∧ token v'.world) ∨
      (calls = [c.call] ∧ e.isInterrupted = false ∧ e.isPlan = false ∧ e.command? = some c.name) := by
  cases h with
  | interrupted look =>
    obtain ⟨hstop, _, _⟩ := act_look holding look
    obtain ⟨hheld, htoken⟩ := (Bool.and_eq_true _ _).mp hstop.symm
    exact .inl ⟨rfl, rfl, hheld, htoken⟩
  | unread => exact .inr ⟨rfl, rfl, rfl, rfl⟩
  | undecoded => exact .inr ⟨rfl, rfl, rfl, rfl⟩
  | unwritten => exact .inr ⟨rfl, rfl, rfl, rfl⟩

def OutcomesOf (commands : List Command) (outcomes : List Outcome) : Prop :=
  outcomes.map (fun o => (o.name, o.register)) = commands.map fun c => (c.name, c.register)

theorem Completes.outcomesOf {client : Client (StateM σ)} {stopped : StateM σ Bool} {w w' : σ}
    {commands : List Command} {outcomes : List Outcome}
    (h : Completes client stopped w commands outcomes w') : OutcomesOf commands outcomes := by
  induction h with
  | nil => rfl
  | cons first _ ih =>
    have hfirst : OutcomesOf _ _ := ih
    cases first with
    | read => simpa [OutcomesOf, Command.name, Command.register] using hfirst
    | wrote => simpa [OutcomesOf, Command.name, Command.register] using hfirst

/-- A cycle with its report, and whether the token was cancelled before and after each of its parts. -/
structure Leg (ε : Type) where
  /-- Before the loop turned to the cycle. -/
  late : Bool
  calls : List SeenCall
  result : CycleResult
  /-- When the cycle had ended and was to be reported. -/
  ended : Bool
  outcome : Except ε Unit
  reported : Bool

namespace Leg

def sights (leg : Leg ε) : List (Sight ε) :=
  ⟨.started, leg.late⟩ :: leg.calls.map (fun c => ⟨.called c.1, c.2⟩) ++
    [⟨.ended leg.result, leg.ended⟩, ⟨.reported leg.result leg.outcome, leg.reported⟩]

def interrupted (leg : Leg ε) : Bool :=
  match leg.result with
  | .ok _ => false
  | .error a => a.error.isInterrupted

end Leg

/-- What became of the commands of a cycle: the calls made, and the result. -/
inductive CycleAccount (registry : Registry) (category : Category) : List Call → CycleResult → Prop
  | planless {cause : UnsupportedDevice} (missing : registry.get category = .error cause) :
      CycleAccount registry category [] (.error ⟨category, [], .zero, .plan cause⟩)
  | through {plan : Plan} {outcomes : List Outcome} {elapsed : TimeSpan}
      (known : registry.get category = .ok plan) (outcomesOf : OutcomesOf plan.commands outcomes) :
      CycleAccount registry category (plan.commands.map Command.call)
        (.ok ⟨plan.category, outcomes, elapsed⟩)
  | failed {plan : Plan} {before after : List Command} {c : Command} {outcomes : List Outcome}
      {elapsed : TimeSpan} {e : CycleError} (known : registry.get category = .ok plan)
      (commands : plan.commands = before ++ c :: after) (outcomesOf : OutcomesOf before outcomes)
      (own : e.isInterrupted = false ∧ e.isPlan = false ∧ e.command? = some c.name) :
      CycleAccount registry category ((before ++ [c]).map Command.call)
        (.error ⟨plan.category, outcomes, elapsed, e⟩)
  | interrupted {plan : Plan} {before after : List Command} {c : Command} {outcomes : List Outcome}
      {elapsed : TimeSpan} (known : registry.get category = .ok plan)
      (commands : plan.commands = before ++ c :: after) (outcomesOf : OutcomesOf before outcomes) :
      CycleAccount registry category (before.map Command.call)
        (.error ⟨plan.category, outcomes, elapsed, .interrupted c.name⟩)

section Cycles

variable {token : σ → Bool} {watch : Watch (StateM σ)} {x : Executor (StateM σ)} {held : Bool}
  {client : Client (StateM σ)} {report : CycleResult → StateM σ (Except ε Unit)}

theorem sightedCycle_run (lasting : Lasting token watch x client report)
    (holding : Holding token held x.stopped) (category : Category) (v : Seen σ ε) :
    ∃ (calls : List SeenCall) (result : CycleResult) (v' : Seen σ ε),
      (sightedCycle token x category client).run v = (result, v') ∧
      v'.sights = v.sights ++ (calls.map fun c => ⟨.called c.1, c.2⟩) ++
        [⟨.ended result, token v'.world⟩] ∧
      Climbs (token v.world) (calls.map Prod.snd) (token v'.world) ∧
      (held → ∀ c ∈ calls, c.2 = false) ∧
      CycleAccount x.registry category (calls.map Prod.fst) result ∧
      ∀ a, result = .error a → a.error.isInterrupted → held ∧ token v'.world := by
  cases hplan : x.registry.get category with
  | error cause =>
    let result : CycleResult := .error ⟨category, [], .zero, .plan cause⟩
    let v' : Seen σ ε := { v with sights := v.sights ++ [⟨.ended result, token v.world⟩] }
    have hrun : (sightedCycle token x category client).run v = (result, v') := by
      simp [sightedCycle, Executor.runCycle, Executor.seen, hplan, result, v']
    refine ⟨[], result, v', hrun, by simp [v'], .nil id, by simp, .planless hplan, ?_⟩
    intro a ha hi
    have he := Except.error.inj ha
    subst he
    cases hi
  | ok plan =>
    have hcycle : ∀ {result : CycleResult} {v₁ : Seen σ ε},
        (x.seen.execute plan (client.sighted token)).run v = (result, v₁) →
        (sightedCycle token x category client).run v =
          (result, { v₁ with sights := v₁.sights ++ [⟨.ended result, token v₁.world⟩] }) := by
      intro result v₁ h
      have hregistry : (x.seen (ε := ε)).registry.get category = .ok plan := hplan
      simp [sightedCycle, Executor.runCycle, hregistry, h]
    -- The clock is read before the first look and behind the last command.
    have haround : ∀ {calls : List SeenCall} {v₁ : Seen σ ε},
        Spanned token held (x.seen.now.run v).2 calls v₁ →
        Spanned token held v calls (x.seen.now.run v₁).2 := by
      intro calls v₁ h
      have hlast : Climbs (token v₁.world) [] (token (x.seen.now.run v₁).2.world) :=
        .nil (lasting.now v₁.world)
      have hclimbs := (h.climbs.weaken (lasting.now v.world)).append hlast
      rw [List.append_nil] at hclimbs
      exact ⟨h.sights, hclimbs, h.inTime⟩
    rcases execute_run x.seen (client.sighted token) plan v with
      ⟨outcomes, elapsed, v₁, hc, he⟩ |
      ⟨before, c, after, outcomes, elapsed, v₁, calls, e, v₂, hcut, hb, hc, he⟩
    · obtain ⟨seen, hseen, hspan⟩ := completes_spanned lasting.read lasting.write holding hc
      have hall := haround hspan
      refine ⟨seen, _, _, hcycle he, by rw [hall.sights], hall.climbs, hall.inTime, ?_, by simp⟩
      rw [hseen]
      exact .through hplan hc.outcomesOf
    · obtain ⟨seen, hseen, hspan⟩ := completes_spanned lasting.read lasting.write holding hb
      obtain ⟨more, hmore, hlast⟩ := step_spanned lasting.read lasting.write holding hc
      have hall := haround (hspan.append hlast)
      refine ⟨seen ++ more, _, _, hcycle he, by rw [hall.sights], hall.climbs, hall.inTime, ?_, ?_⟩
      · rw [List.map_append, hseen, hmore]
        rcases hc.failed holding with ⟨hnone, hint, _, _⟩ | ⟨hcall, hown⟩
        · subst hnone hint
          rw [List.append_nil]
          exact .interrupted hplan hcut hb.outcomesOf
        · subst hcall
          have hcalls : before.map Command.call ++ [c.call] = (before ++ [c]).map Command.call := by simp
          rw [hcalls]
          exact .failed hplan hcut hb.outcomesOf hown
      · rintro _ ⟨⟩ hi
        rcases hc.failed holding with ⟨_, _, hheld, htoken⟩ | ⟨_, hown, _⟩
        · exact ⟨hheld, lasting.now _ htoken⟩
        · rw [hown] at hi
          cases hi

end Cycles

end MeterPolling
