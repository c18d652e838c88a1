import MeterPolling.Proofs.Cycle.Simulation
import MeterPolling.Proofs.Session.Turn

namespace MeterPolling

open Modbus

namespace Simulation

variable {m n : Type → Type} [Monad m] [Monad n]

def withState (sim : Simulation m n) (S : Type) : Simulation (StateT S m) (StateT S n) where
  Holds R x y := ∀ s, sim.Holds (fun a b => R a.1 b.1 ∧ a.2 = b.2) (x.run s) (y.run s)
  pure_holds hab := fun _ => sim.pure_holds ⟨hab, rfl⟩
  bind_holds hx hf := by
    intro s
    refine sim.bind_holds (hx s) ?_
    rintro ⟨a, t⟩ ⟨b, _⟩ ⟨hab, rfl⟩
    exact hf a b hab t

theorem withState_iff {sim : Simulation m n} {S α : Type} {x : StateT S m α} {y : StateT S n α} :
    (sim.withState S).Holds Eq x y ↔ ∀ s, sim.Holds Eq (x.run s) (y.run s) := by
  have hpairs : (fun a b : α × S => a.1 = b.1 ∧ a.2 = b.2) = Eq := by
    funext a b
    exact propext Prod.ext_iff.symm
  rw [← hpairs]
  rfl

def same (σ : Type) : Simulation (StateM σ) (StateM σ) where
  Holds R x y := ∀ w, R (x.run w).1 (y.run w).1 ∧ (x.run w).2 = (y.run w).2
  pure_holds hab := fun _ => ⟨hab, rfl⟩
  bind_holds {_ _ _ _ _ _ x y f g} hx hf := by
    intro w
    obtain ⟨hab, hw⟩ := hx w
    have hthen := hf _ _ hab (x.run w).2
    have hrun : (y >>= g).run w = (g (y.run w).1).run (x.run w).2 := by
      rw [hw]
      rfl
    rw [hrun]
    exact hthen

theorem same_refl {σ α : Type} (x : StateM σ α) : (same σ).Holds Eq x x := fun _ => ⟨rfl, rfl⟩

/-- The same where one side has more state and leaves it alone. -/
def aside (sim : Simulation m n) (S : Type) : Simulation (StateT S m) n where
  Holds R x y := ∀ s, sim.Holds (fun a b => R a.1 b ∧ a.2 = s) (x.run s) y
  pure_holds hab := fun _ => sim.pure_holds ⟨hab, rfl⟩
  bind_holds hx hf := by
    intro s
    refine sim.bind_holds (hx s) ?_
    rintro ⟨a, t⟩ b ⟨hab, rfl⟩
    exact hf a b hab t

section Aside

variable [LawfulMonad n] {sim : Simulation m n} (S : Type)

theorem aside_lift {α : Type} {x : m α} {y : n α} (h : sim.Holds Eq x y) :
    (sim.aside S).Holds Eq (StateT.lift x) y := by
  intro s
  rw [← bind_pure y]
  refine sim.bind_holds h ?_
  rintro a _ rfl
  exact sim.pure_holds ⟨rfl, rfl⟩

theorem Clients.aside {client : Client m} {model : Client n} (h : sim.Clients client model) :
    (sim.aside S).Clients client.lift model :=
  ⟨fun register count hcount => aside_lift S (h.read register count hcount),
    fun register values hlength => aside_lift S (h.write register values hlength)⟩

end Aside

structure Links (sim : Simulation m n) (link : Link m) (model : Link n) : Prop where
  connect : ∀ address, sim.Holds Eq (link.connect address) (model.connect address)
  send : ∀ frame, sim.Holds Eq (link.send frame) (model.send frame)
  receive : ∀ enough, sim.Holds Eq (link.receive enough) (model.receive enough)
  close : sim.Holds Eq link.close model.close
  now : sim.Holds Eq link.now model.now
  sleepUntil : ∀ t, sim.Holds Eq (link.sleepUntil t) (model.sleepUntil t)

theorem links_refl {σ : Type} (link : Link (StateM σ)) : (same σ).Links link link :=
  ⟨fun _ => same_refl _, fun _ => same_refl _, fun _ => same_refl _, same_refl _, same_refl _,
    fun _ => same_refl _⟩

theorem Links.aside [LawfulMonad n] {sim : Simulation m n} {link : Link m} {model : Link n} (S : Type)
    (h : sim.Links link model) : (sim.aside S).Links link.lift model :=
  ⟨fun address => aside_lift S (h.connect address), fun frame => aside_lift S (h.send frame),
    fun enough => aside_lift S (h.receive enough), aside_lift S h.close, aside_lift S h.now,
    fun t => aside_lift S (h.sleepUntil t)⟩

variable {sim : Simulation m n} {link : Link m} {model : Link n} (settings : SessionSettings)

theorem awaitResponse (h : sim.Links link model) (readTimeout : TimeSpan) (transaction : UInt16)
    (buffer : List UInt8) :
    sim.Holds Eq (awaitResponse link readTimeout transaction buffer)
      (MeterPolling.awaitResponse model readTimeout transaction buffer) := by
  unfold MeterPolling.awaitResponse
  rcases findResponse transaction buffer with ⟨found, left⟩
  cases found with
  | some r => exact sim.pure_holds rfl
  | none =>
    refine sim.bind_holds (h.receive _) ?_
    rintro delivery _ rfl
    rcases findResponse transaction (left ++ delivery.bytes) with ⟨found, left⟩
    cases found with
    | some r => exact sim.pure_holds rfl
    | none => exact sim.pure_holds rfl

theorem roundTrip (h : sim.Links link model) (request : Request) (buffer : List UInt8) :
    sim.Holds Eq (roundTrip link settings request buffer)
      (MeterPolling.roundTrip model settings request buffer) := by
  unfold MeterPolling.roundTrip
  cases request.encode with
  | error e => exact sim.pure_holds rfl
  | ok frame =>
    refine sim.bind_holds (h.send frame) ?_
    rintro result _ rfl
    cases result with
    | error failure => exact sim.pure_holds rfl
    | ok _ => exact awaitResponse h settings.readTimeout request.transaction buffer

theorem openBuffer (h : sim.Links link model) (s : Session) :
    sim.Holds Eq (openBuffer link settings s) (MeterPolling.openBuffer model settings s) := by
  unfold MeterPolling.openBuffer
  cases s.buffer with
  | some buffer => exact sim.pure_holds rfl
  | none =>
    refine sim.bind_holds (h.connect _) ?_
    rintro result _ rfl
    cases result with
    | error failure => exact sim.pure_holds rfl
    | ok _ => exact sim.pure_holds rfl

theorem waitTurn (h : sim.Links link model) (s : Session) :
    sim.Holds Eq (waitTurn link settings s) (MeterPolling.waitTurn model settings s) := by
  unfold MeterPolling.waitTurn
  cases s.lastSend with
  | none => exact h.now
  | some last =>
    refine sim.bind_holds (h.sleepUntil _) ?_
    intro _ _ _
    exact h.now

theorem concluded (h : sim.Links link model) (s : Session) (now : TimeSpan)
    (result : Except TransportError (Response × List UInt8)) :
    sim.Holds Eq (concluded link s now result) (MeterPolling.concluded model s now result) := by
  cases result with
  | error e =>
    refine sim.bind_holds h.close ?_
    intro _ _ _
    exact sim.pure_holds rfl
  | ok p => exact sim.pure_holds rfl

theorem pause (h : sim.Links link model) :
    (sim.withState Session).Holds Eq (StateT.lift (Session.pause link settings))
      (StateT.lift (Session.pause model settings)) := by
  intro s
  have hpause : sim.Holds Eq (Session.pause link settings) (Session.pause model settings) := by
    refine sim.bind_holds h.now ?_
    rintro now _ rfl
    exact h.sleepUntil _
  refine sim.bind_holds hpause ?_
  intro _ _ _
  exact sim.pure_holds ⟨rfl, rfl⟩

theorem retrying {attempt : m (Except TransportError Response)}
    {attempt' : n (Except TransportError Response)} {pause : m Unit} {pause' : n Unit}
    (ha : sim.Holds Eq attempt attempt') (hp : sim.Holds Eq pause pause') (retries : Nat) :
    sim.Holds Eq (Session.retrying attempt pause retries)
      (Session.retrying attempt' pause' retries) := by
  induction retries with
  | zero => exact ha
  | succ retries ih =>
    refine sim.bind_holds ha ?_
    rintro result _ rfl
    cases Session.Retry.of result with
    | no => exact sim.pure_holds rfl
    | afterTimeout => exact ih
    | afterBusy =>
      refine sim.bind_holds hp ?_
      intro _ _ _
      exact ih

variable [LawfulMonad m] [LawfulMonad n]

theorem exchange (h : sim.Links link model) (request : Request) (s : Session) :
    sim.Holds Eq (exchange link settings request s)
      (MeterPolling.exchange model settings request s) := by
  rw [exchange_eq, exchange_eq]
  refine sim.bind_holds (openBuffer settings h s) ?_
  rintro opened _ rfl
  cases opened with
  | error e => exact sim.pure_holds rfl
  | ok buffer =>
    refine sim.bind_holds (waitTurn settings h s) ?_
    rintro now _ rfl
    refine sim.bind_holds (roundTrip settings h request buffer) ?_
    rintro result _ rfl
    exact concluded h s now result

theorem send (h : sim.Links link model) (operation : Operation) :
    (sim.withState Session).Holds Eq (Session.send link settings operation)
      (Session.send model settings operation) :=
  withState_iff.mpr fun _ => exchange settings h _ _

theorem sendRetrying (h : sim.Links link model) (operation : Operation) :
    (sim.withState Session).Holds Eq (Session.sendRetrying link settings operation)
      (Session.sendRetrying model settings operation) :=
  retrying (send settings h operation) (pause settings h) settings.retries

theorem read (h : sim.Links link model) (register count : UInt16) :
    (sim.withState Session).Holds Eq ((Session.client link settings).read register count)
      ((Session.client model settings).read register count) := by
  refine (sim.withState Session).bind_holds (sendRetrying settings h _) ?_
  rintro reply _ rfl
  exact (sim.withState Session).pure_holds rfl

theorem write (h : sim.Links link model) (register : UInt16) (values : List UInt16) :
    (sim.withState Session).Holds Eq ((Session.client link settings).write register values)
      ((Session.client model settings).write register values) := by
  refine (sim.withState Session).bind_holds (sendRetrying settings h _) ?_
  rintro reply _ rfl
  exact (sim.withState Session).pure_holds rfl

theorem clients (h : sim.Links link model) :
    (sim.withState Session).Clients (Session.client link settings) (Session.client model settings) :=
  ⟨fun register count _ => read settings h register count,
    fun register values _ => write settings h register values⟩

theorem answer (h : sim.Links link model) (call : Call) :
    (sim.withState Session).Holds Eq ((Session.client link settings).answer call)
      ((Session.client model settings).answer call) := by
  let both := sim.withState Session
  cases call with
  | read register count =>
    refine both.bind_holds (read settings h register count) ?_
    rintro result _ rfl
    exact both.pure_holds rfl
  | write register values =>
    refine both.bind_holds (write settings h register values) ?_
    rintro result _ rfl
    exact both.pure_holds rfl

theorem answers (h : sim.Links link model) (calls : List Call) :
    (sim.withState Session).Holds Eq ((Session.client link settings).answers calls)
      ((Session.client model settings).answers calls) := by
  let both := sim.withState Session
  induction calls with
  | nil => exact both.pure_holds rfl
  | cons call rest ih =>
    refine both.bind_holds (answer settings h call) ?_
    rintro result _ rfl
    refine both.bind_holds ih ?_
    rintro results _ rfl
    exact both.pure_holds rfl

end Simulation

theorem Link.logged_links {σ : Type} (link : Link (StateM σ)) :
    (Simulation.erasure (List LinkEvent) σ).Links link.logged link :=
  ⟨fun _ _ _ => ⟨rfl, rfl⟩, fun _ _ _ => ⟨rfl, rfl⟩, fun _ _ _ => ⟨rfl, rfl⟩, fun _ _ => ⟨rfl, rfl⟩,
    fun _ _ => ⟨rfl, rfl⟩, fun _ _ _ => ⟨rfl, rfl⟩⟩

end MeterPolling
