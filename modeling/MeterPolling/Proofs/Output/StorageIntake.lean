import MeterPolling.Output.Storage
import MeterPolling.Proofs.Effect
import MeterPolling.Proofs.Output.Delivery

namespace MeterPolling

namespace Medium

theorem holds_put (x : Medium) (text : String) : (x.put text).2.holds = x.holds := by
  unfold put
  split
  next => rfl
  next =>
    split
    next => rfl
    next => rfl

theorem holds_write (x : Medium) (text : String) : (x.write text).2.holds = x.holds := by
  unfold write
  split
  next => exact holds_put x text
  next limit _ =>
    have hput := holds_put { x with held := "" } (release limit x.held text).1
    simp only
    split
    next y he =>
      rw [he] at hput
      exact hput
    next e y he =>
      rw [he] at hput
      exact hput

theorem holds_flush (x : Medium) : x.flush.2.holds = x.holds := holds_put { x with held := "" } x.held

end Medium

namespace Storage

/-- What output to a path is written to; without a path, the terminal. -/
def medium (path : Option String) (s : Storage) : Medium :=
  match path with
  | none => s.terminal
  | some path =>
    match s.opened.lookup path with
    | some (.file x) => x
    | some .terminal => { s.terminal with holds := none }
    | none => {}

def onMedium {α : Type} (path : Option String) (act : Medium → α × Medium) (s : Storage) : α × Storage :=
  match path with
  | none => onTerminal act s
  | some path => onFile path act s

theorem onMedium_medium {α : Type} (path : Option String) (act : Medium → α × Medium) (s : Storage)
    (holds : (act (s.medium path)).2.holds = (s.medium path).holds) :
    (s.onMedium path act).1 = (act (s.medium path)).1 ∧
      (s.onMedium path act).2.medium path = (act (s.medium path)).2 := by
  cases path with
  | none => exact ⟨rfl, rfl⟩
  | some path =>
    cases hplace : s.opened.lookup path with
    | none => simp [onMedium, onFile, medium, hplace]
    | some place =>
      cases place with
      | file x => simp [onMedium, onFile, medium, hplace]
      | terminal =>
        have hmedium : s.medium (some path) = { s.terminal with holds := none } := by simp [medium, hplace]
        have hrun : s.onMedium (some path) act = ((act { s.terminal with holds := none }).1,
            { s with terminal := { (act { s.terminal with holds := none }).2 with holds := s.terminal.holds } }) := by
          simp [onMedium, onFile, hplace]
        rw [hmedium] at holds ⊢
        rw [hrun]
        refine ⟨rfl, ?_⟩
        generalize (act { s.terminal with holds := none }).2 = x at holds
        cases x
        cases holds
        simp [medium, hplace]

variable {m : Type → Type} [Monad m]

def sinkTo (path : Option String) : Sink (StateT Storage m) where
  write text := modifyGet (onMedium path (·.write text))
  flush := modifyGet (onMedium path Medium.flush)

def opening (path : Option String) (s : Storage) : Storage :=
  match path with
  | none => s
  | some path => (s.openFile path).2

/-- Output to the path can be opened and is not refused. -/
structure Writable (s : Storage) (path : Option String) : Prop where
  leads : ∀ name, path = some name → ∃ place, s.place name = .ok place
  fault : ((s.opening path).medium path).fault = none
  empty : ((s.opening path).medium path).holds = none → ((s.opening path).medium path).held = ""

def intake (path : Option String) : Intake (sinkTo path : Sink (StateM Storage)) where
  fine s := Medium.intake.fine (s.medium path)
  taken s := Medium.intake.taken (s.medium path)
  written s := Medium.intake.written (s.medium path)
  write text s h := by
    obtain ⟨x, hwrite, hfine, htaken⟩ := Medium.intake.write text (s.medium path) h
    obtain ⟨hresult, hmedium⟩ :=
      onMedium_medium path (·.write text) s (Medium.holds_write (s.medium path) text)
    have hx : (s.onMedium path (·.write text)).2.medium path = x := hmedium.trans (congrArg Prod.snd hwrite)
    have hok := hresult.trans (congrArg Prod.fst hwrite)
    exact ⟨_, Prod.ext hok rfl, hx ▸ hfine, hx ▸ htaken⟩
  flush s h := by
    obtain ⟨x, hflush, hfine, htaken, hwritten⟩ := Medium.intake.flush (s.medium path) h
    obtain ⟨hresult, hmedium⟩ := onMedium_medium path Medium.flush s (Medium.holds_flush (s.medium path))
    have hx : (s.onMedium path Medium.flush).2.medium path = x := hmedium.trans (congrArg Prod.snd hflush)
    have hok := hresult.trans (congrArg Prod.fst hflush)
    exact ⟨_, Prod.ext hok rfl, hx ▸ hfine, hx ▸ htaken, hx ▸ hwritten⟩

theorem start_writable {S σ : Type} {s : Storage} (settings : OutputSettings) (h : s.Writable settings.path)
    (t : S) (w : σ) :
    (((Output.start (files : Files (StateT Storage (StateM σ))).lift settings).run t).run s).run w =
      (((.ok ⟨(sinkTo settings.path).lift, settings.path⟩, t), s.opening settings.path), w) := by
  obtain ⟨path, format⟩ := settings
  cases path with
  | none => rfl
  | some name =>
    obtain ⟨place, hplace⟩ := h.leads name rfl
    have hopen : s.openFile name = (.ok (), s.opening (some name)) := by simp [openFile, opening, hplace]
    have hfile : ((((files : Files (StateT Storage (StateM σ))).lift.openFile name).run t).run s).run w =
        ((((((s.openFile name).1.map fun _ => sinkTo (some name)).map Sink.lift), t),
          (s.openFile name).2), w) := rfl
    rw [hopen] at hfile
    simp only [Output.start, StateT.run_bind, id_bind, hfile]
    rfl

end Storage

end MeterPolling
