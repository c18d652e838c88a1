import MeterPolling.Proofs.Effect
import MeterPolling.Proofs.Output.RoundTrip

namespace MeterPolling

section Misuse

variable {σ δ : Type} {sink : Sink (StateM σ)} {path : Option String} {d : δ} {s : σ}

theorem deliverPieces_taken {p : Piece} {rest : List Piece} {t : σ} (h : sink.write p.text s = (.ok (), t)) :
    deliverPieces sink.lift path (p :: rest) d s = deliverPieces sink.lift path rest d t := bind_run (lift_run h)

theorem deliverPieces_refused {p : Piece} {rest : List Piece} {cause : OsError} {t : σ}
    (h : sink.write p.text s = (.error cause, t)) :
    deliverPieces sink.lift path (p :: rest) d s = ((.error (.error (p.error path cause)), d), t) :=
  bind_run (lift_run h)

theorem deliverPieces_no_defect (pieces : List Piece) (x : OutputDefect) :
    (deliverPieces sink.lift path pieces d s).1.1 ≠ .error (.defect x) := by
  induction pieces generalizing s with
  | nil => nofun
  | cons p rest ih =>
    rcases hwrite : sink.write p.text s with ⟨r, t⟩
    cases r with
    | error cause =>
      rw [deliverPieces_refused hwrite]
      nofun
    | ok =>
      rw [deliverPieces_taken hwrite]
      exact ih

theorem Emission.deliver_defect_iff (e : Emission) (x : OutputDefect) :
    (e.deliver sink.lift path d s).1.1 = .error (.defect x) ↔
      (deliverPieces sink.lift path e.pieces d s).1.1 = .ok () ∧ e.defect = some x := by
  have hnone : (deliverPieces sink.lift path e.pieces d s).1.1 ≠ .error (.defect x) :=
    deliverPieces_no_defect e.pieces x
  rcases hpieces : deliverPieces sink.lift path e.pieces d s with ⟨⟨r, d'⟩, t⟩
  rw [hpieces] at hnone
  unfold Emission.deliver
  rw [bind_run hpieces]
  cases r with
  | error failure => exact iff_of_false hnone nofun
  | ok =>
    cases e.defect with
    | none => exact iff_of_false nofun nofun
    | some y =>
      change Except.error (OutputFailure.defect y) = _ ↔ _
      simp

end Misuse

theorem Csv.blank_map_iff {row : List String} : Blank (row.map String.toList) ↔ row = [] ∨ row = [""] := by
  unfold Blank
  refine or_congr List.map_eq_nil_iff ?_
  match row with
  | [] => simp
  | [cell] => simp
  | _ :: _ :: _ => simp

theorem Csv.CellWriter.Lawful.writeRow_fault {τ : Type} {progress : τ → Progress} {w : CellWriter τ}
    (lawful : w.Lawful progress) {row : List String} {scratch : List UInt8}
    (sized : scratch.length = scratchSize (row.map String.toList)) :
    (w.writeRow scratch row).2 = if row = [] ∨ row = [""] then some .full else none := by
  rw [lawful.writeRow_eq, sized, written]
  by_cases hblank : Blank (row.map String.toList)
  · rw [fittingPieces_blank hblank, if_pos (blank_map_iff.mp hblank)]
    rfl
  · rw [fittingPieces_pieces hblank, if_neg (blank_map_iff.not.mp hblank)]
    rfl

section Deliver

variable {σ δ : Type} {sink : Sink (StateM σ)} {path : Option String} {d : δ} {s : σ}

/-- A blank row is a misuse, which a sink that refuses an empty text keeps from being noticed. -/
theorem Formatter.csvRow_deliver_defect_iff (row : List String) :
    ((csvRow row).deliver sink.lift path d s).1.1 = .error (.defect .scratchFull) ↔
      row = [] ∨ row = [""] ∧ (sink.write "" s).1 = .ok () := by
  rw [Emission.deliver_defect_iff]
  by_cases hblank : Csv.Blank (row.map String.toList)
  · have hdefect : (csvRow row).defect = some .scratchFull := by simp [csvRow, Csv.fittingPieces_blank hblank]
    have hpieces : (csvRow row).pieces = row.map (⟨·, false⟩) := by simp [csvRow, Csv.fittingPieces_blank hblank]
    rw [hpieces, and_iff_left hdefect]
    rcases Csv.blank_map_iff.mp hblank with rfl | rfl
    · exact iff_of_true rfl (.inl rfl)
    · rcases hwrite : sink.write "" s with ⟨r, t⟩
      rw [List.map_cons]
      cases r with
      | error cause =>
        rw [deliverPieces_refused hwrite]
        simp
      | ok =>
        rw [deliverPieces_taken hwrite]
        exact iff_of_true rfl (.inr ⟨rfl, rfl⟩)
  · have hdefect : (csvRow row).defect = none := by simp [csvRow, Csv.fittingPieces_pieces hblank]
    rw [Csv.blank_map_iff, not_or] at hblank
    simp [hdefect, hblank]

end Deliver

/--
A row as headers or as a result, of any number of cells with anything in them. A scratch buffer of two bytes and twice the
longest cell has room for each call that writes the row, and the row is no misuse, just if it is neither without cells nor
a single empty cell. In these two rows no byte comes before the line end, the two quotes and the line end ask for three
bytes, and there are two.
-/
theorem scratch_suffices_iff {σ τ : Type} {sink : Sink (StateM σ)} (path : Option String) {w : Csv.CellWriter τ}
    {progress : τ → Csv.Progress} (lawful : w.Lawful progress) (row : List String) {scratch : List UInt8}
    (sized : scratch.length = Csv.scratchSize (row.map String.toList)) :
    (w.writeRow scratch row).2 = (if row = [] ∨ row = [""] then some .full else none) ∧
      ∀ (f : Formatter) (record : Json) (s : σ),
        let o : Output (StateM σ) := ⟨sink, path⟩
        let blank := row = [] ∨ row = [""] ∧ (sink.write "" s).1 = .ok ()
        ((o.headers row f s).1.1 = .error (.defect .scratchFull) ↔ f = .csv false ∧ blank) ∧
        ((o.result ⟨row, record⟩ f s).1.1 = .error (.defect .scratchFull) ↔ (∃ started, f = .csv started) ∧ blank) := by
  refine ⟨lawful.writeRow_fault sized, ?_⟩
  intro f record s o blank
  have hblank : ∀ g, ((Formatter.csvRow row).deliver sink.lift path g s).1.1 = .error (.defect .scratchFull) ↔ blank :=
    fun g : Formatter => Formatter.csvRow_deliver_defect_iff row
  constructor
  · have hrun : (o.headers row f s).1.1 = ((f.headers row).1.deliver sink.lift path (f.headers row).2 s).1.1 := rfl
    rw [hrun]
    cases f with
    | csv started =>
      cases started with
      | false => exact (hblank _).trans (and_iff_right rfl).symm
      | true => simp [Formatter.headers, Emission.deliver_defect_iff]
    | table | jsonl => simp [Formatter.headers, Emission.deliver_defect_iff]
  · have hrun : (o.result ⟨row, record⟩ f s).1.1 =
        ((f.result ⟨row, record⟩).1.deliver sink.lift path (f.result ⟨row, record⟩).2 s).1.1 := rfl
    rw [hrun]
    cases f with
    | csv started => exact (hblank _).trans (and_iff_right ⟨started, rfl⟩).symm
    | table | jsonl => simp [Formatter.result, Emission.deliver_defect_iff]

theorem scratch_suffices_iff_quotes :
    let row := ["\"\"", ""]
    let scratch : List UInt8 := List.replicate 6 0x22
    let o : Output (StateM Medium) := ⟨Medium.sink, none⟩
    Csv.CellWriter.standard.Lawful id ∧ scratch.length = Csv.scratchSize (row.map String.toList) ∧
      (Csv.CellWriter.standard.writeRow scratch row).2 = none ∧
      (o.result ⟨row, .null⟩ (.csv true : Formatter) {}).1.1 ≠ .error (.defect .scratchFull) := by
  intro row scratch o
  have hsized : scratch.length = Csv.scratchSize (row.map String.toList) := by decide
  obtain ⟨hcalls, hoperations⟩ :=
    @scratch_suffices_iff Medium _ Medium.sink none _ _ Csv.CellWriter.standard_lawful row _ hsized
  obtain ⟨-, hresult⟩ := hoperations (.csv true) .null {}
  refine ⟨Csv.CellWriter.standard_lawful, hsized, hcalls, fun h => ?_⟩
  obtain ⟨-, hrow | ⟨hrow, -⟩⟩ := hresult.mp h
  · simp [row] at hrow
  · simp [row] at hrow

/-- A row without cells, as it is to be written to a file. -/
theorem blank_row_overflows :
    (Csv.CellWriter.standard.writeRow (List.replicate (Csv.scratchSize []) 0) []).2 = some .full ∧
      ((⟨Medium.sink, some "out.csv"⟩ : Output (StateM Medium)).result ⟨[], .null⟩ (.csv false : Formatter) {}).1.1 =
        .error (.defect .scratchFull) :=
  ⟨by decide, rfl⟩

end MeterPolling
