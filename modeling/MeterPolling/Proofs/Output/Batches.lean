import Mathlib.Data.List.DropRight
import Mathlib.Data.List.Induction
import MeterPolling.Proofs.Output.Delivery

namespace MeterPolling

/-- An operation on an output. A commit is a flush that nothing follows. -/
inductive OutputStep where
  | headers (cells : List String)
  | result (e : Entry)
  | flush

namespace Output

variable {m : Type → Type} [Monad m] {τ : Type} [TableLibrary τ]

def perform (o : Output m) : OutputStep → StateT (Formatter τ) m (Except OutputFailure Unit)
  | .headers cells => o.headers cells
  | .result e => o.result e
  | .flush => o.flush

def performAll (o : Output m) : List OutputStep → StateT (Formatter τ) m (Except OutputFailure Unit)
  | [] => return .ok ()
  | step :: rest => do
    match ← o.perform step with
    | .error failure => return .error failure
    | .ok () => o.performAll rest

theorem results_eq (o : Output m) (es : List Entry) :
    (o.results es : StateT (Formatter τ) m _) = o.performAll (es.map .result) := by
  induction es with
  | nil => rfl
  | cons e rest ih =>
    rw [results, ih]
    rfl

variable [LawfulMonad m] (o : Output m)

theorem performAll_single (step : OutputStep) :
    (o.performAll [step] : StateT (Formatter τ) m _) = o.perform step := by
  unfold performAll
  calc _ = o.perform step >>= pure := bind_congr fun outcome => by cases outcome <;> rfl
    _ = o.perform step := bind_pure _

theorem performAll_append (steps more : List OutputStep) :
    (o.performAll (steps ++ more) : StateT (Formatter τ) m _) = (do
    match ← o.performAll steps with
    | .error failure => return .error failure
    | .ok () => o.performAll more) := by
  induction steps with
  | nil => simp [performAll]
  | cons step rest ih =>
    simp only [List.cons_append, performAll, bind_assoc]
    refine bind_congr fun outcome => ?_
    cases outcome with
    | error failure => simp
    | ok => exact ih

end Output

namespace OutputStep

def row? : OutputStep → Option (List String)
  | .result e => some e.row
  | _ => none

def cells? : OutputStep → Option (List String)
  | .headers cells => some cells
  | _ => none

def isFlush : OutputStep → Bool
  | .flush => true
  | _ => false

def rows (steps : List OutputStep) : List (List String) := steps.filterMap row?

/-- The rows that have been recorded since the last flush. -/
def newRows (steps : List OutputStep) : List (List String) := rows (steps.rtakeWhile fun step => !step.isFlush)

def cells (steps : List OutputStep) : Option (List String) := (steps.filterMap cells?).getLast?

variable (steps : List OutputStep) (step : OutputStep)

theorem rows_concat : rows (steps ++ [step]) = rows steps ++ step.row?.toList := by
  cases h : step.row? with
  | none => simp [rows, h]
  | some row => simp [rows, h]

theorem newRows_concat :
    newRows (steps ++ [step]) = if step.isFlush then [] else newRows steps ++ step.row?.toList := by
  unfold newRows
  rw [List.rtakeWhile_concat]
  cases step.isFlush with
  | true => rfl
  | false => simp [rows_concat]

theorem cells_concat : cells (steps ++ [step]) = step.cells?.or (cells steps) := by
  cases h : step.cells? with
  | none => simp [cells, h]
  | some hs => simp [cells, h]

end OutputStep

structure TableContent where
  header : Option (List String) := none
  rows : List (List String) := []
  deriving DecidableEq, Repr

/-- What is documented of a table library: a header replaces the one before it, and a row comes behind the others. -/
structure TableLibrary.Lawful {τ : Type} [TableLibrary τ] (content : τ → TableContent) : Prop where
  new : content new = {}
  setHeader : ∀ t cells, content (setHeader t cells) = { content t with header := some cells }
  addRow : ∀ t cells, content (addRow t cells) = { content t with rows := (content t).rows ++ [cells] }

def Table.content (t : Table) : TableContent := ⟨t.header, t.rows⟩

theorem Table.lawful : TableLibrary.Lawful Table.content := ⟨rfl, fun _ _ => rfl, fun _ _ => rfl⟩

/-- What has been recorded since the last flush, under the headers in force. -/
structure TableContent.Batch (c : TableContent) (steps : List OutputStep) : Prop where
  rows : c.rows = OutputStep.newRows steps
  header : ∀ cells, OutputStep.cells steps = some cells → c.header = some cells
  /-- Where no headers have been set, a later table has a header without a cell. -/
  bare : OutputStep.cells steps = none → c.header.getD [] = []

namespace TableContent.Batch

variable {c : TableContent} {steps : List OutputStep}

theorem start : ({} : TableContent).Batch [] := ⟨rfl, by simp [OutputStep.cells], fun _ => rfl⟩

theorem headers (h : c.Batch steps) (cells : List String) :
    TableContent.Batch { c with header := some cells } (steps ++ [.headers cells]) := by
  have hcells : OutputStep.cells (steps ++ [.headers cells]) = some cells := OutputStep.cells_concat steps _
  have hrows : OutputStep.newRows (steps ++ [.headers cells]) = OutputStep.newRows steps := by
    rw [OutputStep.newRows_concat]
    exact List.append_nil _
  refine ⟨h.rows.trans hrows.symm, ?_, ?_⟩
  · intro other hother
    rw [← hother, hcells]
  · intro hnone
    cases hcells.symm.trans hnone

theorem result (h : c.Batch steps) (e : Entry) :
    TableContent.Batch { c with rows := c.rows ++ [e.row] } (steps ++ [.result e]) := by
  have hcells : OutputStep.cells (steps ++ [.result e]) = OutputStep.cells steps := OutputStep.cells_concat steps _
  have hrows : OutputStep.newRows (steps ++ [.result e]) = OutputStep.newRows steps ++ [e.row] :=
    OutputStep.newRows_concat steps _
  refine ⟨?_, ?_, ?_⟩
  · rw [hrows, ← h.rows]
  · rw [hcells]
    exact h.header
  · rw [hcells]
    exact h.bare

theorem idle (h : c.Batch steps) (hempty : c.rows = []) : c.Batch (steps ++ [.flush]) := by
  have hcells : OutputStep.cells (steps ++ [.flush]) = OutputStep.cells steps := OutputStep.cells_concat steps _
  have hrows : OutputStep.newRows (steps ++ [.flush]) = [] := OutputStep.newRows_concat steps _
  refine ⟨hempty.trans hrows.symm, ?_, ?_⟩
  · rw [hcells]
    exact h.header
  · rw [hcells]
    exact h.bare

theorem fresh (steps : List OutputStep) :
    TableContent.Batch { header := some ((OutputStep.cells steps).getD []) } (steps ++ [.flush]) := by
  have hcells : OutputStep.cells (steps ++ [.flush]) = OutputStep.cells steps := OutputStep.cells_concat steps _
  have hrows : OutputStep.newRows (steps ++ [.flush]) = [] := OutputStep.newRows_concat steps _
  refine ⟨hrows.symm, ?_, ?_⟩
  · intro cells hsome
    rw [← hcells, hsome]
    rfl
  · intro hnone
    rw [← hcells, hnone]
    rfl

end TableContent.Batch

namespace Formatter

section

variable {τ : Type} [TableLibrary τ]

def next (f : Formatter τ) : OutputStep → Emission × Formatter τ
  | .headers cells => f.headers cells
  | .result e => f.result e
  | .flush => f.flush

def after (f : Formatter τ) (steps : List OutputStep) : Formatter τ := steps.foldl (fun f step => (f.next step).2) f

def drawn? : Formatter τ → OutputStep → Option τ
  | .table pending _ count, .flush => if 0 < count then some pending else none
  | _, _ => none

/-- The tables that operations draw, in order. -/
def tables (f : Formatter τ) : List OutputStep → List τ
  | [] => []
  | step :: rest => (f.drawn? step).toList ++ (f.next step).2.tables rest

theorem after_concat (f : Formatter τ) (steps : List OutputStep) (step : OutputStep) :
    f.after (steps ++ [step]) = ((f.after steps).next step).2 := by
  simp [after]

theorem tables_concat (f : Formatter τ) (steps : List OutputStep) (step : OutputStep) :
    f.tables (steps ++ [step]) = f.tables steps ++ ((f.after steps).drawn? step).toList := by
  induction steps generalizing f with
  | nil => simp [tables, after]
  | cons first rest ih =>
    rw [List.cons_append, tables, tables, ih, List.append_assoc]
    rfl

end

variable {τ : Type} [TableLibrary τ] {content : τ → TableContent} {f : Formatter τ} {steps : List OutputStep} {pending : τ}

structure Tabulates (content : τ → TableContent) (f : Formatter τ) (steps : List OutputStep) (pending : τ) : Prop where
  eq : f = .table pending ((OutputStep.cells steps).getD []) (content pending).rows.length
  batch : (content pending).Batch steps

variable (lawful : TableLibrary.Lawful content)

include lawful

theorem tabulates_new : Tabulates content (new .table) [] TableLibrary.new := by
  refine ⟨?_, ?_⟩
  · rw [lawful.new]
    rfl
  · rw [lawful.new]
    exact .start

theorem Tabulates.headers (h : f.Tabulates content steps pending) (cells : List String) :
    (f.headers cells).2.Tabulates content (steps ++ [.headers cells]) (TableLibrary.setHeader pending cells) := by
  have hcells : OutputStep.cells (steps ++ [.headers cells]) = some cells := OutputStep.cells_concat steps _
  have hcontent := lawful.setHeader pending cells
  refine ⟨?_, ?_⟩
  · rw [h.eq, hcells, hcontent]
    rfl
  · rw [hcontent]
    exact h.batch.headers cells

theorem Tabulates.result (h : f.Tabulates content steps pending) (e : Entry) :
    (f.result e).2.Tabulates content (steps ++ [.result e]) (TableLibrary.addRow pending e.row) := by
  have hcells : OutputStep.cells (steps ++ [.result e]) = OutputStep.cells steps := OutputStep.cells_concat steps _
  have hcontent := lawful.addRow pending e.row
  refine ⟨?_, ?_⟩
  · rw [h.eq, hcells, hcontent]
    simp [Formatter.result]
  · rw [hcontent]
    exact h.batch.result e

theorem Tabulates.flush (h : f.Tabulates content steps pending) :
    ∃ later, f.flush.2.Tabulates content (steps ++ [.flush]) later := by
  have hcells : OutputStep.cells (steps ++ [.flush]) = OutputStep.cells steps := OutputStep.cells_concat steps _
  by_cases hcount : 0 < (content pending).rows.length
  · have hcontent : content (TableLibrary.setHeader TableLibrary.new ((OutputStep.cells steps).getD [])) =
        { header := some ((OutputStep.cells steps).getD []) } := by
      rw [lawful.setHeader, lawful.new]
    refine ⟨TableLibrary.setHeader TableLibrary.new ((OutputStep.cells steps).getD []), ?_, ?_⟩
    · rw [h.eq, Formatter.flush, if_pos hcount, hcells, hcontent]
      rfl
    · rw [hcontent]
      exact .fresh steps
  · have hempty : (content pending).rows = [] := List.eq_nil_of_length_eq_zero (by omega)
    refine ⟨pending, ?_, h.batch.idle hempty⟩
    rw [h.eq, Formatter.flush, if_neg hcount, hcells]

theorem Tabulates.next (h : f.Tabulates content steps pending) (step : OutputStep) :
    ∃ later, (f.next step).2.Tabulates content (steps ++ [step]) later := by
  cases step with
  | headers cells => exact ⟨_, h.headers lawful cells⟩
  | result e => exact ⟨_, h.result lawful e⟩
  | flush => exact h.flush lawful

/-- Whatever operations there have been, the rows are counted and the headers remembered. -/
theorem tabulates_after (steps : List OutputStep) :
    ∃ pending, ((new .table).after steps).Tabulates content steps pending := by
  induction steps using List.reverseRecOn with
  | nil => exact ⟨_, tabulates_new lawful⟩
  | append_singleton steps step ih =>
    obtain ⟨pending, h⟩ := ih
    rw [after_concat]
    exact h.next lawful step

omit lawful in
theorem tables_of_not_flush (steps : List OutputStep) {step : OutputStep} (h : step.isFlush = false) :
    (new .table : Formatter τ).tables (steps ++ [step]) = (new .table).tables steps := by
  have hdrawn : ((new .table : Formatter τ).after steps).drawn? step = none := by
    unfold drawn?
    split
    next => cases h
    next => rfl
  rw [tables_concat, hdrawn]
  exact List.append_nil _

theorem tables_of_no_rows (h : OutputStep.newRows steps = []) :
    (new .table : Formatter τ).tables (steps ++ [.flush]) = (new .table).tables steps := by
  obtain ⟨pending, heq, hbatch⟩ := tabulates_after lawful steps
  have hdrawn : ((new .table : Formatter τ).after steps).drawn? .flush = none := by
    rw [heq, drawn?, hbatch.rows, h]
    rfl
  rw [tables_concat, hdrawn]
  exact List.append_nil _

theorem tables_of_rows (h : OutputStep.newRows steps ≠ []) :
    ∃ table : τ, (content table).Batch steps ∧
      (new .table).tables (steps ++ [.flush]) = (new .table).tables steps ++ [table] := by
  obtain ⟨pending, heq, hbatch⟩ := tabulates_after lawful steps
  have hcount : 0 < (content pending).rows.length := by
    rw [hbatch.rows]
    exact List.length_pos_of_ne_nil h
  have hdrawn : ((new .table : Formatter τ).after steps).drawn? .flush = some pending := by
    rw [heq, drawn?, if_pos hcount]
  refine ⟨pending, hbatch, ?_⟩
  rw [tables_concat, hdrawn]
  rfl

theorem flatMap_rows_tables (steps : List OutputStep) :
    ((new .table : Formatter τ).tables steps).flatMap (fun t => (content t).rows) ++ OutputStep.newRows steps =
      OutputStep.rows steps := by
  induction steps using List.reverseRecOn with
  | nil => rfl
  | append_singleton steps step ih =>
    rw [OutputStep.newRows_concat, OutputStep.rows_concat, ← ih]
    cases step with
    | headers cells =>
      rw [tables_of_not_flush steps rfl]
      simp [OutputStep.isFlush]
    | result e =>
      rw [tables_of_not_flush steps rfl]
      simp [OutputStep.isFlush]
    | flush =>
      by_cases hrows : OutputStep.newRows steps = []
      · simp [tables_of_no_rows lawful hrows, hrows, OutputStep.isFlush, OutputStep.row?]
      · obtain ⟨table, hbatch, htables⟩ := tables_of_rows lawful hrows
        simp [htables, hbatch.rows, OutputStep.isFlush, OutputStep.row?]

end Formatter

section

variable {τ : Type} [TableLibrary τ] {content : τ → TableContent}

def TableLibrary.drawing (t : τ) : List Char := (text t).toList ++ ['\n']

theorem Formatter.Tabulates.next_pieces {f : Formatter τ} {steps : List OutputStep} {pending : τ}
    (h : f.Tabulates content steps pending) (step : OutputStep) :
    ∃ pieces, f.next step = (⟨pieces, none⟩, (f.next step).2) ∧
      piecesChars pieces = (f.drawn? step).toList.flatMap TableLibrary.drawing := by
  obtain rfl := h.eq
  cases step with
  | headers cells => exact ⟨[], rfl, rfl⟩
  | result e => exact ⟨[], rfl, rfl⟩
  | flush =>
    by_cases hcount : 0 < (content pending).rows.length
    · refine ⟨[⟨TableLibrary.text pending ++ "\n", false⟩], ?_, ?_⟩
      · rw [Formatter.next, Formatter.flush, if_pos hcount]
      · simp [Formatter.drawn?, hcount, piecesChars, TableLibrary.drawing]
    · refine ⟨[], ?_, ?_⟩
      · rw [Formatter.next, Formatter.flush, if_neg hcount]
      · simp [Formatter.drawn?, hcount, piecesChars]

namespace Output

variable {σ : Type} {sink : Sink (StateM σ)} {k : Intake sink} (path : Option String) {f : Formatter τ}
  {before : List OutputStep} {pending : τ}

theorem perform_delivered (h : f.Tabulates content before pending) (step : OutputStep) :
    k.Delivers ((⟨sink, path⟩ : Output (StateM σ)).perform step f) (.ok (), (f.next step).2)
      ((f.drawn? step).toList.flatMap TableLibrary.drawing) := by
  obtain ⟨pieces, hnext, htext⟩ := h.next_pieces step
  rw [← htext]
  cases step with
  | headers cells => exact headers_delivered hnext path
  | result e =>
    have hdeliver := Emission.deliver_delivered (k := k) path pieces (f.result e).2
    have hrun : (⟨sink, path⟩ : Output (StateM σ)).result e f =
        (f.next (.result e)).1.deliver sink.lift path (f.result e).2 := rfl
    rw [perform, hrun, hnext]
    exact hdeliver
  | flush => exact flush_printed hnext path

theorem performAll_delivered (lawful : TableLibrary.Lawful content) (h : f.Tabulates content before pending)
    (steps : List OutputStep) :
    k.Delivers ((⟨sink, path⟩ : Output (StateM σ)).performAll steps f) (.ok (), f.after steps)
      ((f.tables steps).flatMap TableLibrary.drawing) := by
  induction steps generalizing f before pending with
  | nil => exact .pure _
  | cons step rest ih =>
    obtain ⟨later, hnext⟩ := h.next lawful step
    rw [Formatter.tables, List.flatMap_append]
    unfold performAll
    exact .bind_state (perform_delivered path h step) (ih hnext)

theorem performAll_settles (lawful : TableLibrary.Lawful content) (h : f.Tabulates content before pending)
    (steps : List OutputStep) :
    k.Settles ((⟨sink, path⟩ : Output (StateM σ)).performAll (steps ++ [.flush]) f) := by
  induction steps generalizing f before pending with
  | nil =>
    obtain ⟨pieces, hnext, _⟩ := h.next_pieces .flush
    rw [List.nil_append]
    unfold performAll
    refine .bind_pure (flush_settles hnext path) ?_
    intro r e s
    cases r with
    | error failure => rfl
    | ok => rfl
  | cons step rest ih =>
    obtain ⟨later, hnext⟩ := h.next lawful step
    rw [List.cons_append]
    unfold performAll
    exact .bind_state (perform_delivered path h step) (ih hnext)

end Output

end

/--
Headers, results and flushes in any order, on tables of any lawful library and a sink that refuses nothing. A table is drawn just by a flush with
rows recorded since the flush before it; it holds all of them and no others, under the headers in force. At any moment the
sink has been given the tables drawn so far, and nothing else; the table that waits holds the rows recorded since, and
their count is right. A last flush has drawn every row that has been recorded, each once and in order.
-/
theorem tables_flushed {τ : Type} [TableLibrary τ] {content : τ → TableContent} (lawful : TableLibrary.Lawful content)
    {σ : Type} {sink : Sink (StateM σ)} (k : Intake sink) (path : Option String) {s : σ} (fine : k.fine s) :
    ∃ tables : List OutputStep → List τ,
      tables [] = [] ∧
      (∀ steps step, step ≠ .flush → tables (steps ++ [step]) = tables steps) ∧
      (∀ steps, OutputStep.newRows steps = [] → tables (steps ++ [.flush]) = tables steps) ∧
      (∀ steps, OutputStep.newRows steps ≠ [] →
        ∃ table : τ, (content table).Batch steps ∧ tables (steps ++ [.flush]) = tables steps ++ [table]) ∧
      (∀ steps, (tables (steps ++ [.flush])).flatMap (fun t => (content t).rows) = OutputStep.rows steps) ∧
      ∀ steps, ∃ (pending : τ) (t : σ),
        (⟨sink, path⟩ : Output (StateM σ)).performAll steps (.new .table) s =
          ((.ok (), .table pending ((OutputStep.cells steps).getD []) (content pending).rows.length), t) ∧
        (content pending).Batch steps ∧
        k.taken t = k.taken s ++ (tables steps).flatMap TableLibrary.drawing ∧
        (steps.getLast? = some .flush → k.written t = k.taken t) := by
  refine ⟨(Formatter.new .table).tables, rfl, ?_, ?_, ?_, ?_, ?_⟩
  · intro steps step hstep
    refine Formatter.tables_of_not_flush steps ?_
    cases step with
    | headers | result => rfl
    | flush => exact (hstep rfl).elim
  · exact fun steps => Formatter.tables_of_no_rows lawful
  · exact fun steps => Formatter.tables_of_rows lawful
  · intro steps
    have hrows := Formatter.flatMap_rows_tables lawful (steps ++ [.flush])
    rw [OutputStep.newRows_concat, OutputStep.rows_concat] at hrows
    simpa [OutputStep.isFlush, OutputStep.row?] using hrows
  · intro steps
    have hnew := Formatter.tabulates_new lawful
    obtain ⟨pending, htable⟩ := Formatter.tabulates_after lawful steps
    obtain ⟨t, hrun, _, htaken⟩ := Output.performAll_delivered (k := k) path lawful hnew steps s fine
    refine ⟨pending, t, by rw [hrun, htable.eq], htable.batch, htaken, ?_⟩
    intro hlast
    obtain ⟨before, rfl⟩ := List.getLast?_eq_some_iff.mp hlast
    have hsettled := Output.performAll_settles (k := k) path lawful hnew before s fine
    rwa [hrun] at hsettled

theorem tables_flushed_terminal :
    let terminal : Medium := { holds := some Medium.terminalHolds }
    let steps : List OutputStep := [.headers ["Name"], .result ⟨["a"], .null⟩, .result ⟨["b"], .null⟩, .flush,
      .headers ["Value"], .flush, .result ⟨["c"], .null⟩, .flush]
    Medium.intake.fine terminal ∧
      ∃ (first second : Table) (f : Formatter) (t : Medium),
        (⟨Medium.sink, none⟩ : Output (StateM Medium)).performAll steps (.new .table) terminal = ((.ok (), f), t) ∧
        t.written.toList = TableLibrary.drawing first ++ TableLibrary.drawing second ∧
        first.rows = [["a"], ["b"]] ∧ first.header = some ["Name"] ∧
        second.rows = [["c"]] ∧ second.header = some ["Value"] := by
  intro terminal steps
  have hfine : Medium.intake.fine terminal := ⟨rfl, by rintro ⟨⟩⟩
  obtain ⟨tables, hnil, hother, hidle, hdraws, -, hrun⟩ := tables_flushed Table.lawful Medium.intake none hfine
  have hheaders := hother [] (.headers ["Name"]) nofun
  have hfirst := hother (steps.take 1) (.result ⟨["a"], .null⟩) nofun
  have hsecond := hother (steps.take 2) (.result ⟨["b"], .null⟩) nofun
  obtain ⟨first, hbatch, hdrawn⟩ := hdraws (steps.take 3) (by decide)
  have hagain := hother (steps.take 4) (.headers ["Value"]) nofun
  have hempty := hidle (steps.take 5) rfl
  have hthird := hother (steps.take 6) (.result ⟨["c"], .null⟩) nofun
  obtain ⟨second, hlater, hall⟩ := hdraws (steps.take 7) (by decide)
  have htables : tables steps = [first, second] := by
    simp only [steps, List.take, List.nil_append, List.cons_append] at *
    rw [hall, hthird, hempty, hagain, hdrawn, hsecond, hfirst, hheaders, hnil]
    rfl
  obtain ⟨pending, t, hend, -, htaken, hwritten⟩ := hrun steps
  refine ⟨hfine, first, second, _, t, hend, ?_, hbatch.rows, hbatch.header _ rfl, hlater.rows, hlater.header _ rfl⟩
  have htext : t.written.toList = Medium.intake.taken t := hwritten rfl
  rw [htext, htaken, htables]
  simp [Medium.intake, terminal]

end MeterPolling
