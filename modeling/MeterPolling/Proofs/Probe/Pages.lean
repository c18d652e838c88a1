import MeterPolling.Proofs.Probe.Story

namespace MeterPolling.Probe

def between : OutputFormat → Formatter
  | .table => .table (({} : Table).setHeader headers) headers 0
  | .jsonl => .jsonl
  | .csv => .csv true

def headText : OutputFormat → List Char
  | .csv => Csv.rowChars (headers.map String.toList)
  | _ => []

def addRows (t : Table) (es : List Entry) : Table := es.foldl (fun t e => t.addRow e.row) t

/-- The results of a cycle. A table is drawn anew for each cycle; the other formats go on line by line. -/
def pageText (format : OutputFormat) (es : List Entry) : List Char :=
  match format with
  | .table => if es.isEmpty then [] else (addRows (({} : Table).setHeader headers) es).text.toList ++ ['\n']
  | .jsonl => es.flatMap jsonLine
  | .csv => es.flatMap csvLine

def pages (format : OutputFormat) (first : Nat) : List CycleResult → List Char
  | [] => []
  | result :: rest => pageText format (entries first result) ++ pages format (first + 1) rest

theorem pages_concat (format : OutputFormat) (first : Nat) (results : List CycleResult) (result : CycleResult) :
    pages format first (results ++ [result]) =
      pages format first results ++ pageText format (entries (first + results.length) result) := by
  induction results generalizing first with
  | nil => simp [pages]
  | cons r rest ih =>
    have hnumber : first + 1 + rest.length = first + (r :: rest).length := by
      rw [List.length_cons]
      omega
    rw [List.cons_append, pages, pages, ih (first + 1), hnumber, List.append_assoc]

theorem headers_between (format : OutputFormat) :
    ∃ pieces, (Formatter.new format).headers headers = (⟨pieces, none⟩, between format) ∧
      piecesChars pieces = headText format := by
  cases format with
  | table => exact ⟨[], rfl, rfl⟩
  | jsonl => exact ⟨[], rfl, rfl⟩
  | csv =>
    have hwide : 2 ≤ headers.length := by decide
    obtain ⟨pieces, hrow, htext⟩ := Formatter.csvRow_pieces hwide
    exact ⟨pieces, by rw [Formatter.new, Formatter.headers, hrow]; rfl, htext⟩

section Sink

variable {σ : Type} {sink : Sink (StateM σ)} {k : Intake sink} (path : Option String)

theorem table_results_delivered (t : Table) (hs : List String) (n : Nat) (es : List Entry) :
    k.Delivers ((⟨sink, path⟩ : Output (StateM σ)).results es (.table t hs n))
      (.ok (), Formatter.table (addRows t es) hs (n + es.length)) [] := by
  induction es generalizing t n with
  | nil => exact .pure _
  | cons e rest ih =>
    have hresult : k.Delivers ((⟨sink, path⟩ : Output (StateM σ)).result e (.table t hs n))
        (.ok (), Formatter.table (t.addRow e.row) hs (n + 1)) [] :=
      Emission.deliver_delivered path [] (Formatter.table (t.addRow e.row) hs (n + 1))
    have hcount : n + (e :: rest).length = n + 1 + rest.length := by
      rw [List.length_cons]
      omega
    rw [hcount]
    unfold Output.results
    exact .bind_state hresult (ih (t.addRow e.row) (n + 1))

theorem table_flush (es : List Entry) :
    ∃ pieces, (Formatter.table (addRows (({} : Table).setHeader headers) es) headers es.length).flush =
        (⟨pieces, none⟩, between .table) ∧ piecesChars pieces = pageText .table es := by
  cases es with
  | nil => exact ⟨[], rfl, rfl⟩
  | cons e rest =>
    have hsome : 0 < (e :: rest).length := Nat.zero_lt_succ _
    refine ⟨_, by rw [Formatter.flush, if_pos hsome]; rfl, ?_⟩
    simp [piecesChars, pageText]

/-- The results of a cycle are taken, or written at once, and all of them are written behind a flush. -/
theorem results_flush (format : OutputFormat) {es : List Entry} (cells : ∀ e ∈ es, 2 ≤ e.row.length) :
    ∃ (f : Formatter) (now : List Char) (pieces : List Piece),
      k.Delivers ((⟨sink, path⟩ : Output (StateM σ)).results es (between format)) (.ok (), f) now ∧
      f.flush = (⟨pieces, none⟩, between format) ∧ now ++ piecesChars pieces = pageText format es := by
  cases format with
  | table =>
    obtain ⟨pieces, hflush, htext⟩ := table_flush es
    have hresults := table_results_delivered (k := k) path (({} : Table).setHeader headers) headers 0 es
    rw [Nat.zero_add] at hresults
    exact ⟨_, [], pieces, hresults, hflush, htext⟩
  | jsonl =>
    exact ⟨.jsonl, _, [], Output.results_delivered Formatter.jsonl_streams path cells, rfl, List.append_nil _⟩
  | csv =>
    exact ⟨.csv true, _, [], Output.results_delivered Formatter.csv_streams path cells, rfl, List.append_nil _⟩

theorem write_delivered (format : OutputFormat) (cycle : Nat) (result : CycleResult) :
    k.Delivers (write ⟨sink, path⟩ cycle result (between format)) (.ok (), between format)
        (pageText format (entries cycle result)) ∧
      k.Settles (write ⟨sink, path⟩ cycle result (between format)) := by
  obtain ⟨f, now, pieces, hresults, hflush, htext⟩ :=
    results_flush (k := k) path format (entries_cells cycle result)
  rw [← htext]
  unfold write
  exact ⟨.bind_state hresults (Output.flush_printed hflush path),
    .bind_state hresults (Output.flush_settles hflush path)⟩

end Sink

end MeterPolling.Probe
