import MeterPolling.Listing
import MeterPolling.Proofs.Output.Delivery
import MeterPolling.Proofs.Output.ScratchBuffer

namespace MeterPolling

open Text

namespace Csv.CellWriter.Lawful

variable {τ : Type} {progress : τ → Progress} {w : CellWriter τ}

theorem writeRow_csvRow (lawful : w.Lawful progress) {row : List String} {buffer : List UInt8}
    (sized : buffer.length = scratchSize (row.map String.toList)) :
    (w.writeRow buffer row).1 = (Formatter.csvRow row).pieces.map (fun p => encodeUtf8 p.text.toList) ∧
      ((w.writeRow buffer row).2 = none ↔ (Formatter.csvRow row).defect = none) := by
  rw [lawful.writeRow_eq, sized]
  constructor
  · simp [written, Formatter.csvRow]
  · simp [written, Formatter.csvRow]

theorem writeRow_wide (lawful : w.Lawful progress) {row : List String} {buffer : List UInt8}
    (sized : buffer.length = scratchSize (row.map String.toList)) (wide : 2 ≤ row.length) :
    (w.writeRow buffer row).2 = none ∧
      (w.writeRow buffer row).1.flatten = encodeUtf8 (rowChars (row.map String.toList)) := by
  obtain ⟨htexts, hfault⟩ := lawful.writeRow_csvRow sized
  obtain ⟨pieces, hrow, htext⟩ := Formatter.csvRow_pieces wide
  rw [hrow] at htexts hfault
  refine ⟨hfault.mpr rfl, ?_⟩
  rw [htexts, ← htext, ← List.flatMap_def, piecesChars, encodeUtf8, List.flatMap_assoc]
  rfl

end Csv.CellWriter.Lawful

def Output.writeAll {m : Type → Type} [Monad m] (o : Output m) (header : List String) (es : List Entry) :
    StateT Formatter m (Except OutputFailure Unit) := do
  match ← o.headers header with
  | .error failure => return .error failure
  | .ok () =>
    match ← o.results es with
    | .error failure => return .error failure
    | .ok () => o.flush

section Sink

variable {σ : Type} {sink : Sink (StateM σ)} {k : Intake sink}

theorem Output.writeAll_delivered {f g : Formatter} {text : Entry → List Char} {header : List String}
    {pieces : List Piece} {es : List Entry} (headers : f.headers header = (⟨pieces, none⟩, g))
    (streams : g.Streams text) (wide : ∀ e ∈ es, 2 ≤ e.row.length) (path : Option String) {s : σ} (fine : k.fine s) :
    ∃ t, (⟨sink, path⟩ : Output (StateM σ)).writeAll header es f s = ((.ok (), g), t) ∧
      k.written t = k.taken s ++ (piecesChars pieces ++ es.flatMap text) := by
  have hheaders := headers_delivered (k := k) headers path
  have hresults := results_delivered (k := k) streams path wide
  have hflush := flush_delivered (k := k) streams path
  have hsettles : k.Settles ((⟨sink, path⟩ : Output (StateM σ)).writeAll header es f) := by
    unfold writeAll
    exact .bind_state hheaders (.bind_state hresults (flush_settles streams.flush path))
  have hall : k.Delivers ((⟨sink, path⟩ : Output (StateM σ)).writeAll header es f) (.ok (), g)
      (piecesChars pieces ++ (es.flatMap text ++ [])) := by
    unfold writeAll
    exact .bind_state hheaders (.bind_state hresults hflush)
  obtain ⟨t, hrun, _, htaken⟩ := hall s fine
  refine ⟨t, hrun, ?_⟩
  have hwritten := hsettles s fine
  rw [hrun] at hwritten
  rw [hwritten, htaken, List.append_nil]

theorem Output.writeAll_parsed (k : Intake sink) (path : Option String) {header : List String} {es : List Entry}
    (wide : ∀ row ∈ header :: es.map Entry.row, 2 ≤ row.length) {s : σ} (fine : k.fine s) :
    let rows := (header :: es.map Entry.row).map (·.map String.toList)
    Csv.parse? (rows.flatMap Csv.rowChars) = some rows ∧
      ∃ t, (⟨sink, path⟩ : Output (StateM σ)).writeAll header es (.new .csv) s = ((.ok (), .csv true), t) ∧
        k.written t = k.taken s ++ rows.flatMap Csv.rowChars := by
  intro rows
  obtain ⟨hheader, hrows⟩ := List.forall_mem_cons.mp wide
  have hentries : ∀ e ∈ es, 2 ≤ e.row.length := fun e he => hrows e.row (List.mem_map_of_mem he)
  obtain ⟨pieces, hpieces, hhead⟩ := Formatter.csvRow_pieces hheader
  have hheaders : (Formatter.new .csv : Formatter).headers header = (⟨pieces, none⟩, .csv true) := by
    rw [Formatter.new, Formatter.headers, hpieces]
  obtain ⟨t, hrun, hwritten⟩ := Output.writeAll_delivered (k := k) hheaders Formatter.csv_streams hentries
    path fine
  have htext : piecesChars pieces ++ es.flatMap csvLine = rows.flatMap Csv.rowChars := by
    simp only [rows]
    rw [hhead, List.map_cons, List.flatMap_cons, List.map_map, List.flatMap_map]
    rfl
  refine ⟨Csv.parse?_rowChars _ (by simpa [rows] using wide), t, hrun, ?_⟩
  rw [hwritten, htext]

theorem Listing.write_eq_writeAll {m : Type → Type} [Monad m] (o : Output m) (p : Plan) :
    Listing.write o p = o.writeAll Listing.headers (p.commands.map Listing.entry) := rfl

/-- A listing as comma separated values is read back as its header and one row for each command. -/
theorem Listing.write_parsed (k : Intake sink) (path : Option String) (p : Plan) {s : σ} (fine : k.fine s) :
    ∃ (text : List Char) (t : σ),
      Listing.write (⟨sink, path⟩ : Output (StateM σ)) p (.new .csv) s = ((.ok (), .csv true), t) ∧
      k.written t = k.taken s ++ text ∧
      Csv.parse? text =
        some ((Listing.headers :: p.commands.map fun c => (Listing.entry c).row).map (·.map String.toList)) := by
  have hwide : ∀ row ∈ Listing.headers :: (p.commands.map Listing.entry).map Entry.row, 2 ≤ row.length := by
    intro row hrow
    rcases List.mem_cons.mp hrow with rfl | hrow
    · decide
    · obtain ⟨e, he, rfl⟩ := List.mem_map.mp hrow
      obtain ⟨c, -, rfl⟩ := List.mem_map.mp he
      cases c with
      | read c => simp [Listing.entry]
      | write c => simp [Listing.entry]
  obtain ⟨hparse, t, hrun, hwritten⟩ := Output.writeAll_parsed k path hwide fine
  rw [Listing.write_eq_writeAll]
  refine ⟨_, t, hrun, hwritten, hparse.trans ?_⟩
  rw [List.map_map]
  rfl

end Sink

/--
Where no write is refused, headers and results of more than one column are read back from the comma separated values as
they are: the header, and then the rows in order, cell for cell, whatever is in the cells. Whoever writes the cells, the
bytes are those that are passed on row by row, without a fault, from scratch buffers of two bytes and twice the longest
cell. They are the same whatever is in the buffers, and whatever a call leaves there behind what it has put.
-/
theorem csv_round_trip {σ τ : Type} {sink : Sink (StateM σ)} (k : Intake sink) (path : Option String)
    {w : Csv.CellWriter τ} {progress : τ → Csv.Progress} (lawful : w.Lawful progress) {header : List String}
    {es : List Entry} (wide : ∀ row ∈ header :: es.map Entry.row, 2 ≤ row.length) {s : σ} (fine : k.fine s) :
    ∃ (text : List Char) (t : σ),
      (⟨sink, path⟩ : Output (StateM σ)).writeAll header es (.new .csv) s = ((.ok (), .csv true), t) ∧
      k.written t = k.taken s ++ text ∧
      Csv.parse? text = some ((header :: es.map Entry.row).map (·.map String.toList)) ∧
      ∀ scratch : List String → List UInt8,
        (∀ row, (scratch row).length = Csv.scratchSize (row.map String.toList)) →
        (∀ row ∈ header :: es.map Entry.row, (w.writeRow (scratch row) row).2 = none) ∧
        (header :: es.map Entry.row).flatMap (fun row => (w.writeRow (scratch row) row).1.flatten) =
          encodeUtf8 text := by
  obtain ⟨hparse, t, hrun, hwritten⟩ := Output.writeAll_parsed k path wide fine
  refine ⟨_, t, hrun, hwritten, hparse, ?_⟩
  · intro scratch sized
    refine ⟨fun row hrow => (lawful.writeRow_wide (sized row) (wide row hrow)).1, ?_⟩
    rw [List.flatMap_congr fun row hrow => (lawful.writeRow_wide (sized row) (wide row hrow)).2, List.flatMap_map,
      encodeUtf8, List.flatMap_assoc]
    rfl

/-- Cells that are empty, or hold quotes, a comma, a line end or other characters; the scratch buffers are not clean. -/
theorem csv_round_trip_terminal :
    let terminal : Medium := { holds := some Medium.terminalHolds }
    let es : List Entry := [⟨["", "a\"b,\r\nc"], .null⟩, ⟨["\"\"", "λ😀"], .null⟩]
    let scratch (row : List String) : List UInt8 :=
      List.replicate (Csv.scratchSize (row.map String.toList)) 0x22
    Csv.CellWriter.standard.Lawful id ∧ (∀ row ∈ ["Name", "Value"] :: es.map Entry.row, 2 ≤ row.length) ∧
      Medium.intake.fine terminal ∧
      ∃ (text : List Char) (t : Medium),
        (⟨Medium.sink, none⟩ : Output (StateM Medium)).writeAll ["Name", "Value"] es (.new .csv) terminal =
          ((.ok (), .csv true), t) ∧
        t.written.toList = text ∧
        Csv.parse? text = some [["Name".toList, "Value".toList], [[], "a\"b,\r\nc".toList],
          ["\"\"".toList, "λ😀".toList]] ∧
        (["Name", "Value"] :: es.map Entry.row).flatMap
          (fun row => (Csv.CellWriter.standard.writeRow (scratch row) row).1.flatten) = encodeUtf8 text := by
  intro terminal es scratch
  have hwide : ∀ row ∈ ["Name", "Value"] :: es.map Entry.row, 2 ≤ row.length := by decide
  have hfine : Medium.intake.fine terminal := ⟨rfl, by rintro ⟨⟩⟩
  obtain ⟨text, t, hrun, hwritten, hparse, hbytes⟩ :=
    csv_round_trip Medium.intake none Csv.CellWriter.standard_lawful hwide hfine
  exact ⟨Csv.CellWriter.standard_lawful, hwide, hfine, text, t, hrun, hwritten, hparse,
    (hbytes scratch fun row => List.length_replicate).2⟩

end MeterPolling
