import MeterPolling.Proofs.Output.Batches
import MeterPolling.Proofs.Output.Simulation

namespace MeterPolling

inductive SinkCall where
  | write (text : String)
  | flush
  deriving DecidableEq, Repr

/--
What a sink is asked for, and what it says. It may take a text in several parts, and refuses the text if it refuses
one of them.
-/
structure SinkEvent where
  call : SinkCall
  answer : Except OsError Unit

def Sink.logged {m : Type → Type} [Monad m] (s : Sink m) : Sink (StateT (List SinkEvent) m) where
  write text := do
    let answer ← s.write text
    modify (· ++ [⟨.write text, answer⟩])
    return answer
  flush := do
    let answer ← s.flush
    modify (· ++ [⟨.flush, answer⟩])
    return answer

/-- Something that a sink is asked for, and whether it is to take a record. -/
structure Ask where
  call : SinkCall
  ofRecord : Bool := false

def writeError (path : Option String) (cause : OsError) : OutputError :=
  match path with
  | some path => .writeFile cause path
  | none => .writeTerminal cause

namespace Ask

def granted (a : Ask) : SinkEvent := ⟨a.call, .ok ()⟩

def refused (a : Ask) (cause : OsError) : SinkEvent := ⟨a.call, .error cause⟩

def error (a : Ask) (path : Option String) (cause : OsError) : OutputError :=
  if a.ofRecord then .serialize cause else writeError path cause

end Ask

def Piece.ask (p : Piece) : Ask := ⟨.write p.text, p.ofRecord⟩

theorem Piece.error_eq (p : Piece) (path : Option String) (cause : OsError) :
    p.error path cause = p.ask.error path cause := by
  unfold Piece.error Ask.error
  cases path with
  | none => rfl
  | some path => rfl

/-- How a sink is asked for one thing after another, up to the first refusal; a misuse is noticed behind the last. -/
inductive Asked (path : Option String) (asks : List Ask) (defect : Option OutputDefect) :
    List SinkEvent → Except OutputFailure Unit → Prop
  | done (sound : defect = none) : Asked path asks defect (asks.map Ask.granted) (.ok ())
  | misuse {d : OutputDefect} (noticed : defect = some d) :
      Asked path asks defect (asks.map Ask.granted) (.error (.defect d))
  | refused {before after : List Ask} {a : Ask} (split : asks = before ++ a :: after) (cause : OsError) :
      Asked path asks defect (before.map Ask.granted ++ [a.refused cause]) (.error (.error (a.error path cause)))

namespace Asked

variable {path : Option String} {asks : List Ask} {defect : Option OutputDefect} {events : List SinkEvent}
  {result : Except OutputFailure Unit}

theorem cons (h : Asked path asks defect events result) (a : Ask) :
    Asked path (a :: asks) defect (a.granted :: events) result := by
  cases h with
  | done sound => exact .done sound
  | misuse noticed => exact .misuse noticed
  | @refused before after b split cause =>
    have hsplit : a :: asks = (a :: before) ++ b :: after := by rw [split, List.cons_append]
    exact .refused hsplit cause

end Asked

namespace Formatter

def format : Formatter → OutputFormat
  | .table .. => .table
  | .jsonl => .jsonl
  | .csv _ => .csv

def asks (f : Formatter) (step : OutputStep) : List Ask :=
  (f.next step).1.pieces.map Piece.ask ++ if step.isFlush then [⟨.flush, false⟩] else []

theorem format_new (format : OutputFormat) : (new format).format = format := by
  cases format with
  | table => rfl
  | jsonl => rfl
  | csv => rfl

theorem format_next (f : Formatter) (step : OutputStep) : (f.next step).2.format = f.format := by
  cases step with
  | headers cells =>
    cases f with
    | table => rfl
    | jsonl => rfl
    | csv started =>
      cases started with
      | true => rfl
      | false => rfl
  | result e =>
    cases f with
    | table => rfl
    | jsonl => rfl
    | csv => rfl
  | flush =>
    cases f with
    | table pending headers count =>
      simp only [next, flush]
      split
      next => rfl
      next => rfl
    | jsonl => rfl
    | csv => rfl

theorem flush_sound (f : Formatter) : f.flush.1.defect = none := by
  unfold flush
  split
  next =>
    split
    next => rfl
    next => rfl
  next => rfl

end Formatter

section Run

variable {σ : Type} (sink : Sink (StateM σ)) (path : Option String)

@[simp] theorem Sink.run_write_logged (text : String) (f : Formatter) (log : List SinkEvent) (w : σ) :
    (((sink.logged.lift.write text).run f).run log).run w =
      let run := (sink.write text).run w
      (((run.1, f), log ++ [⟨.write text, run.1⟩]), run.2) := rfl

@[simp] theorem Sink.run_flush_logged (f : Formatter) (log : List SinkEvent) (w : σ) :
    ((sink.logged.lift.flush.run f).run log).run w =
      let run := sink.flush.run w
      (((run.1, f), log ++ [⟨.flush, run.1⟩]), run.2) := rfl

theorem deliverPieces_asked (pieces : List Piece) (f : Formatter) (log : List SinkEvent) (w : σ) :
    ∃ events result w',
      (((deliverPieces sink.logged.lift path pieces).run f).run log).run w = (((result, f), log ++ events), w') ∧
      Asked path (pieces.map Piece.ask) none events result := by
  induction pieces generalizing log w with
  | nil => exact ⟨[], .ok (), w, by simp [deliverPieces], .done rfl⟩
  | cons p rest ih =>
    rcases hwrite : (sink.write p.text).run w with ⟨answer, w₁⟩
    cases answer with
    | error cause =>
      have hsplit : (p :: rest).map Piece.ask = [] ++ p.ask :: rest.map Piece.ask := rfl
      refine ⟨_, _, w₁, ?_, .refused hsplit cause⟩
      simp [deliverPieces, hwrite, p.error_eq, Ask.refused, Piece.ask]
    | ok =>
      obtain ⟨events, result, w', hrest, hasked⟩ := ih (log ++ [p.ask.granted]) w₁
      refine ⟨_, result, w', ?_, hasked.cons p.ask⟩
      simpa [deliverPieces, hwrite, Ask.granted, Piece.ask] using hrest

theorem deliver_asked (e : Emission) (f : Formatter) (log : List SinkEvent) (w : σ) :
    ∃ events result w',
      (((e.deliver sink.logged.lift path).run f).run log).run w = (((result, f), log ++ events), w') ∧
      Asked path (e.pieces.map Piece.ask) e.defect events result := by
  obtain ⟨events, result, w', hpieces, hasked⟩ := deliverPieces_asked sink path e.pieces f log w
  cases hasked with
  | done =>
    cases hdefect : e.defect with
    | none => exact ⟨_, _, w', by simp [Emission.deliver, hpieces, hdefect], .done rfl⟩
    | some d => exact ⟨_, _, w', by simp [Emission.deliver, hpieces, hdefect], .misuse rfl⟩
  | misuse noticed => cases noticed
  | refused split cause => exact ⟨_, _, w', by simp [Emission.deliver, hpieces], .refused split cause⟩

theorem flush_asked (f : Formatter) (log : List SinkEvent) (w : σ) :
    ∃ events result w',
      (((⟨sink.logged, path⟩ : Output (StateT (List SinkEvent) (StateM σ))).flush.run f).run log).run w =
        (((result, f.flush.2), log ++ events), w') ∧
      Asked path (f.asks .flush) f.flush.1.defect events result := by
  obtain ⟨events, result, w₁, hdeliver, hasked⟩ := deliver_asked sink path f.flush.1 f.flush.2 log w
  have hmodify : (modifyGet Formatter.flush : StateT Formatter (StateT (List SinkEvent) (StateM σ)) Emission).run f =
      pure f.flush := rfl
  have hasks : f.asks .flush = f.flush.1.pieces.map Piece.ask ++ [⟨.flush, false⟩] := rfl
  cases hasked with
  | done sound =>
    rcases hflush : sink.flush.run w₁ with ⟨answer, w'⟩
    cases answer with
    | error cause =>
      refine ⟨_, _, w', ?_, .refused hasks cause⟩
      simp [Output.flush, Output.lift, hmodify, hdeliver, hflush, Ask.refused, Piece.error_eq, Piece.ask, Ask.error]
    | ok =>
      refine ⟨_, _, w', ?_, .done sound⟩
      simp [Output.flush, Output.lift, hmodify, hdeliver, hflush, hasks, Ask.granted]
  | misuse noticed =>
    rw [f.flush_sound] at noticed
    cases noticed
  | @refused before after a split cause =>
    have hsplit : f.asks .flush = before ++ a :: (after ++ [⟨.flush, false⟩]) := by simp [hasks, split]
    refine ⟨_, _, w₁, ?_, .refused hsplit cause⟩
    simp [Output.flush, Output.lift, hmodify, hdeliver]

theorem perform_asked (step : OutputStep) (f : Formatter) (log : List SinkEvent) (w : σ) :
    ∃ events result w',
      ((((⟨sink.logged, path⟩ : Output (StateT (List SinkEvent) (StateM σ))).perform step).run f).run log).run w =
        (((result, (f.next step).2), log ++ events), w') ∧
      Asked path (f.asks step) (f.next step).1.defect events result := by
  obtain ⟨events, result, w', hdeliver, hasked⟩ := deliver_asked sink path (f.next step).1 (f.next step).2 log w
  rw [← List.append_nil (List.map ..)] at hasked
  cases step with
  | headers cells => exact ⟨events, result, w', hdeliver, hasked⟩
  | result e => exact ⟨events, result, w', hdeliver, hasked⟩
  | flush => exact flush_asked sink path f log w

end Run

/-- Operations in order, up to the first that fails, with the formatter behind them. -/
inductive Performed (path : Option String) :
    Formatter → List OutputStep → List SinkEvent → Except OutputFailure Unit → Formatter → Prop
  | nil {f : Formatter} : Performed path f [] [] (.ok ()) f
  | failed {f : Formatter} {step : OutputStep} {rest : List OutputStep} {events : List SinkEvent}
      {failure : OutputFailure}
      (asked : Asked path (f.asks step) (f.next step).1.defect events (.error failure)) :
      Performed path f (step :: rest) events (.error failure) (f.next step).2
  | next {f f' : Formatter} {step : OutputStep} {rest : List OutputStep} {events later : List SinkEvent}
      {result : Except OutputFailure Unit}
      (asked : Asked path (f.asks step) (f.next step).1.defect events (.ok ()))
      (more : Performed path (f.next step).2 rest later result f') :
      Performed path f (step :: rest) (events ++ later) result f'

namespace Performed

variable {path : Option String} {f f₁ f' : Formatter} {steps more : List OutputStep}
  {events later : List SinkEvent} {result : Except OutputFailure Unit}

theorem append (h : Performed path f steps events (.ok ()) f₁) (rest : Performed path f₁ more later result f') :
    Performed path f (steps ++ more) (events ++ later) result f' := by
  generalize hgood : Except.ok () = outcome at h
  induction h with
  | nil => exact rest
  | failed => cases hgood
  | next asked _ ih =>
    rw [List.append_assoc]
    exact .next asked (ih rest hgood)

end Performed

variable {σ : Type} (sink : Sink (StateM σ)) (path : Option String)

theorem performAll_performed (steps : List OutputStep) (f : Formatter) (log : List SinkEvent) (w : σ) :
    ∃ events result f' w',
      ((((⟨sink.logged, path⟩ : Output (StateT (List SinkEvent) (StateM σ))).performAll steps).run f).run log).run w =
        (((result, f'), log ++ events), w') ∧ Performed path f steps events result f' := by
  induction steps generalizing f log w with
  | nil => exact ⟨[], .ok (), f, w, by simp [Output.performAll], .nil⟩
  | cons step rest ih =>
    obtain ⟨events, result, w₁, hstep, hasked⟩ := perform_asked sink path step f log w
    cases result with
    | error failure => exact ⟨events, _, _, w₁, by simp [Output.performAll, hstep], .failed hasked⟩
    | ok =>
      obtain ⟨later, result, f', w', hrest, hperformed⟩ := ih (f.next step).2 (log ++ events) w₁
      refine ⟨events ++ later, result, f', w', ?_, .next hasked hperformed⟩
      simp [Output.performAll, hstep, hrest]

namespace Simulation

section Output

variable {m n : Type → Type} [Monad m] [Monad n] {sim : Simulation m n} {sink : Sink m} {model : Sink n}
  (h : sim.Sinks sink model) (path : Option String)
include h

theorem perform (step : OutputStep) : (sim.withState Formatter).Holds Eq
    ((⟨sink, path⟩ : Output m).perform step) ((⟨model, path⟩ : Output n).perform step) := by
  cases step with
  | headers cells => exact headers h path cells
  | result e => exact result h path e
  | flush => exact flush h path

theorem performAll (steps : List OutputStep) : (sim.withState Formatter).Holds Eq
    ((⟨sink, path⟩ : Output m).performAll steps) ((⟨model, path⟩ : Output n).performAll steps) := by
  let both := sim.withState Formatter
  induction steps with
  | nil => exact both.pure_holds rfl
  | cons step rest ih =>
    refine both.bind_holds (perform h path step) ?_
    rintro outcome _ rfl
    cases outcome with
    | error failure => exact both.pure_holds rfl
    | ok _ => exact ih

end Output

theorem erased {L σ α : Type} {x : StateT L (StateM σ) α} {y : StateM σ α} (h : (erasure L σ).Holds Eq x y)
    {log log' : L} {w w' : σ} {a : α} (run : (x.run log).run w = ((a, log'), w')) : y.run w = (a, w') := by
  obtain ⟨hresult, hworld⟩ := h log w
  rw [run] at hresult hworld
  exact (Prod.ext hresult hworld).symm

end Simulation

theorem Sink.logged_sinks {σ : Type} (sink : Sink (StateM σ)) :
    (Simulation.erasure (List SinkEvent) σ).Sinks sink.logged sink :=
  ⟨fun _ _ _ => ⟨rfl, rfl⟩, fun _ _ => ⟨rfl, rfl⟩⟩

theorem performAll_erased {σ : Type} (sink : Sink (StateM σ)) (path : Option String) (steps : List OutputStep)
    {f f' : Formatter} {log log' : List SinkEvent} {w w' : σ} {result : Except OutputFailure Unit}
    (run : ((((⟨sink.logged, path⟩ : Output (StateT (List SinkEvent) (StateM σ))).performAll steps).run f).run
      log).run w = (((result, f'), log'), w')) :
    (((⟨sink, path⟩ : Output (StateM σ)).performAll steps).run f).run w = ((result, f'), w') :=
  Simulation.erased (Simulation.withState_iff.mp (Simulation.performAll sink.logged_sinks path steps) f) run

/-- The error behind a refusal, with the cause of the refusal. A record that is refused is told from all else. -/
inductive Attributed (path : Option String) (format : OutputFormat) (steps : List OutputStep) (cause : OsError) :
    SinkCall → OutputError → Prop
  | record {e : Entry} (lines : format = .jsonl) (recorded : .result e ∈ steps) :
      Attributed path format steps cause (.write e.record.text) (.serialize cause)
  | lineEnd (lines : format = .jsonl) : Attributed path format steps cause (.write "\n") (writeError path cause)
  | flush : Attributed path format steps cause .flush (writeError path cause)
  | row {call : SinkCall} (rows : format ≠ .jsonl) : Attributed path format steps cause call (writeError path cause)

theorem Attributed.mono {path : Option String} {format : OutputFormat} {steps more : List OutputStep} {cause : OsError}
    {call : SinkCall} {e : OutputError} (h : Attributed path format steps cause call e) (sub : steps ⊆ more) :
    Attributed path format more cause call e := by
  cases h with
  | record lines recorded => exact .record lines (sub recorded)
  | lineEnd lines => exact .lineEnd lines
  | flush => exact .flush
  | row rows => exact .row rows

namespace Formatter

theorem csvRow_plain (cells : List String) : ∀ p ∈ (csvRow cells).pieces, p.ofRecord = false := by
  intro p hp
  obtain ⟨text, _, rfl⟩ := List.mem_map.mp hp
  rfl

theorem next_plain {f : Formatter} (h : f.format ≠ .jsonl) (step : OutputStep) :
    ∀ p ∈ (f.next step).1.pieces, p.ofRecord = false := by
  cases f with
  | jsonl => exact absurd rfl h
  | table pending cells count =>
    cases step with
    | headers | result => simp [next, headers, result]
    | flush =>
      by_cases hcount : 0 < count
      · simp [next, flush, hcount]
      · simp [next, flush, hcount]
  | csv started =>
    cases step with
    | headers cells =>
      cases started with
      | true => simp [next, headers]
      | false => exact csvRow_plain cells
    | result e => exact csvRow_plain e.row
    | flush => simp [next, flush]

theorem ask_attributed {f : Formatter} {step : OutputStep} {a : Ask} (h : a ∈ f.asks step) (path : Option String)
    (cause : OsError) : Attributed path f.format [step] cause a.call (a.error path cause) := by
  by_cases hformat : f.format = .jsonl
  · obtain rfl : f = .jsonl := by
      cases f with
      | table | csv => cases hformat
      | jsonl => rfl
    cases step with
    | headers cells => simp [asks, next, headers, OutputStep.isFlush] at h
    | result e =>
      have hasks : a = ⟨.write e.record.text, true⟩ ∨ a = ⟨.write "\n", false⟩ := by
        simpa [asks, next, result, OutputStep.isFlush, Piece.ask] using h
      rcases hasks with rfl | rfl
      · exact .record rfl (List.mem_singleton_self _)
      · exact .lineEnd rfl
    | flush =>
      obtain rfl : a = ⟨.flush, false⟩ := by simpa [asks, next, flush, OutputStep.isFlush] using h
      exact .flush
  · have hplain : a.ofRecord = false := by
      rcases List.mem_append.mp h with hpiece | hflush
      · obtain ⟨p, hp, rfl⟩ := List.mem_map.mp hpiece
        exact next_plain hformat step p hp
      · cases step with
        | headers | result => cases hflush
        | flush =>
          obtain rfl := List.mem_singleton.mp hflush
          rfl
    rw [Ask.error, if_neg (by simp [hplain])]
    exact .row hformat

end Formatter

theorem Ask.not_refused {asks : List Ask} {event : SinkEvent} (h : event ∈ asks.map granted) :
    event.answer = .ok () := by
  obtain ⟨a, _, rfl⟩ := List.mem_map.mp h
  rfl

theorem Asked.refusal {path : Option String} {asks : List Ask} {defect : Option OutputDefect}
    {events : List SinkEvent} {result : Except OutputFailure Unit} (h : Asked path asks defect events result)
    {event : SinkEvent} (mem : event ∈ events) {cause : OsError} (refused : event.answer = .error cause) :
    ∃ a ∈ asks, event.call = a.call ∧ result = .error (.error (a.error path cause)) := by
  have hgranted : ∀ {before : List Ask}, event ∉ before.map Ask.granted := by
    intro before hmem
    cases (Ask.not_refused hmem).symm.trans refused
  cases h with
  | done => exact absurd mem hgranted
  | misuse => exact absurd mem hgranted
  | @refused before after a split other =>
    rcases List.mem_append.mp mem with hmem | hmem
    · exact absurd hmem hgranted
    · obtain rfl := List.mem_singleton.mp hmem
      cases refused
      exact ⟨a, by simp [split], rfl, rfl⟩

theorem Performed.attributed {path : Option String} {f f' : Formatter} {steps : List OutputStep}
    {events : List SinkEvent} {result : Except OutputFailure Unit} (h : Performed path f steps events result f')
    {event : SinkEvent} (mem : event ∈ events) {cause : OsError} (refused : event.answer = .error cause) :
    ∃ e, result = .error (.error e) ∧ Attributed path f.format steps cause event.call e := by
  induction h with
  | nil => cases mem
  | @failed f step rest events failure asked =>
    obtain ⟨a, ha, hcall, hresult⟩ := asked.refusal mem refused
    refine ⟨_, hresult, hcall ▸ (Formatter.ask_attributed ha path cause).mono ?_⟩
    simp
  | @next f f' step rest events later result asked _ ih =>
    rcases List.mem_append.mp mem with hmem | hmem
    · obtain ⟨a, _, _, hresult⟩ := asked.refusal hmem refused
      cases hresult
    · obtain ⟨e, hresult, hattributed⟩ := ih hmem
      rw [f.format_next step] at hattributed
      exact ⟨e, hresult, hattributed.mono (List.subset_cons_self step rest)⟩

end MeterPolling
