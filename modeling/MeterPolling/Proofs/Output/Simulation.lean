import MeterPolling.Output
import MeterPolling.Proofs.Session.Simulation

namespace MeterPolling.Simulation

variable {m n : Type → Type} [Monad m] [Monad n]

structure Sinks (sim : Simulation m n) (sink : Sink m) (model : Sink n) : Prop where
  write : ∀ text, sim.Holds Eq (sink.write text) (model.write text)
  flush : sim.Holds Eq sink.flush model.flush

variable {sim : Simulation m n} {sink : Sink m} {model : Sink n}

theorem lift {S α : Type} {x : m α} {y : n α} (h : sim.Holds Eq x y) :
    (sim.withState S).Holds Eq (StateT.lift x) (StateT.lift y) := by
  intro s
  refine sim.bind_holds h ?_
  rintro a _ rfl
  exact sim.pure_holds ⟨rfl, rfl⟩

theorem Sinks.lift (h : sim.Sinks sink model) (S : Type) : (sim.withState S).Sinks sink.lift model.lift :=
  ⟨fun text => Simulation.lift (h.write text), Simulation.lift h.flush⟩

theorem Sinks.aside [LawfulMonad n] (h : sim.Sinks sink model) (S : Type) : (sim.aside S).Sinks sink.lift model :=
  ⟨fun text => aside_lift S (h.write text), aside_lift S h.flush⟩

theorem deliverPieces (h : sim.Sinks sink model) (path : Option String) (pieces : List Piece) :
    sim.Holds Eq (deliverPieces sink path pieces) (MeterPolling.deliverPieces model path pieces) := by
  induction pieces with
  | nil => exact sim.pure_holds rfl
  | cons p rest ih =>
    refine sim.bind_holds (h.write p.text) ?_
    rintro result _ rfl
    cases result with
    | error cause => exact sim.pure_holds rfl
    | ok _ => exact ih

theorem deliver (h : sim.Sinks sink model) (path : Option String) (e : Emission) :
    sim.Holds Eq (e.deliver sink path) (e.deliver model path) := by
  refine sim.bind_holds (deliverPieces h path e.pieces) ?_
  rintro result _ rfl
  cases result with
  | error failure => exact sim.pure_holds rfl
  | ok _ =>
    cases hd : e.defect with
    | none => exact sim.pure_holds rfl
    | some d => exact sim.pure_holds rfl

theorem modifyGet {S α : Type} (f : S → α × S) :
    (sim.withState S).Holds Eq (modifyGet f : StateT S m α) (modifyGet f : StateT S n α) :=
  fun _ => sim.pure_holds ⟨rfl, rfl⟩

section Output

variable (h : sim.Sinks sink model) (path : Option String)
include h

theorem headers (cells : List String) : (sim.withState Formatter).Holds Eq
    ((⟨sink, path⟩ : Output m).headers cells) ((⟨model, path⟩ : Output n).headers cells) := by
  refine (sim.withState Formatter).bind_holds (modifyGet _) ?_
  rintro emission _ rfl
  exact deliver (h.lift Formatter) path emission

theorem result (e : Entry) : (sim.withState Formatter).Holds Eq
    ((⟨sink, path⟩ : Output m).result e) ((⟨model, path⟩ : Output n).result e) := by
  refine (sim.withState Formatter).bind_holds (modifyGet _) ?_
  rintro emission _ rfl
  exact deliver (h.lift Formatter) path emission

theorem results (es : List Entry) : (sim.withState Formatter).Holds Eq
    ((⟨sink, path⟩ : Output m).results es) ((⟨model, path⟩ : Output n).results es) := by
  let both := sim.withState Formatter
  induction es with
  | nil => exact both.pure_holds rfl
  | cons e rest ih =>
    refine both.bind_holds (result h path e) ?_
    rintro outcome _ rfl
    cases outcome with
    | error failure => exact both.pure_holds rfl
    | ok _ => exact ih

theorem flush : (sim.withState Formatter).Holds Eq
    ((⟨sink, path⟩ : Output m).flush) ((⟨model, path⟩ : Output n).flush) := by
  let both := sim.withState Formatter
  refine both.bind_holds (modifyGet _) ?_
  rintro emission _ rfl
  refine both.bind_holds (deliver (h.lift Formatter) path emission) ?_
  rintro outcome _ rfl
  cases outcome with
  | error failure => exact both.pure_holds rfl
  | ok _ =>
    refine both.bind_holds (h.lift Formatter).flush ?_
    rintro flushed _ rfl
    cases flushed with
    | error cause => exact both.pure_holds rfl
    | ok _ => exact both.pure_holds rfl

end Output

end MeterPolling.Simulation
