import MeterPolling.Output
import MeterPolling.Proofs.Output.CsvText

namespace MeterPolling

/-- What a sink that refuses nothing has been given, and what of it has come out. -/
structure Intake {σ : Type} (sink : Sink (StateM σ)) where
  fine : σ → Prop
  taken : σ → List Char
  written : σ → List Char
  write : ∀ text s, fine s → ∃ s', sink.write text s = (.ok (), s') ∧ fine s' ∧ taken s' = taken s ++ text.toList
  flush : ∀ s, fine s → ∃ s', sink.flush s = (.ok (), s') ∧ fine s' ∧ taken s' = taken s ∧ written s' = taken s

namespace Medium

theorem splitLastLine_append (text : String) : (splitLastLine text).1 ++ (splitLastLine text).2 = text := by
  unfold splitLastLine
  simp only
  rw [← String.ofList_append, ← List.reverse_append, List.takeWhile_append_dropWhile, List.reverse_reverse,
    String.ofList_toList]

theorem release_append (limit : Nat) (held text : String) :
    (release limit held text).1 ++ (release limit held text).2 = held ++ text := by
  unfold release
  simp only
  split
  next => rw [String.append_assoc, splitLastLine_append]
  next =>
    split
    next => simp
    next => simp

theorem put_fine {x : Medium} (h : x.fault = none) (text : String) :
    x.put text = (.ok (), { x with written := x.written ++ text }) := by
  unfold put
  split
  next hempty => simp [String.isEmpty_iff.mp hempty]
  next => rw [h]

def intake : Intake Medium.sink where
  fine x := x.fault = none ∧ (x.holds = none → x.held = "")
  taken x := (x.written ++ x.held).toList
  written x := x.written.toList
  write text x h := by
    unfold sink write
    simp only
    split
    next hholds =>
      refine ⟨_, put_fine h.1 text, h, ?_⟩
      simp [h.2 hholds]
    next limit hholds =>
      have happend := release_append limit x.held text
      rw [put_fine (x := { x with held := "" }) h.1]
      refine ⟨_, rfl, ⟨h.1, ?_⟩, ?_⟩
      · intro hnone
        rw [hholds] at hnone
        cases hnone
      · simp only [← String.toList_append, String.append_assoc, happend]
  flush x h := by
    refine ⟨_, put_fine (x := { x with held := "" }) h.1 x.held, ⟨h.1, fun _ => rfl⟩, ?_, rfl⟩
    simp

end Medium

variable {σ α β δ : Type} {sink : Sink (StateM σ)}

/-- The operation comes to this value in every fine state, and the text is what it gives to the sink. -/
def Intake.Delivers (k : Intake sink) (act : StateM σ α) (a : α) (text : List Char) : Prop :=
  ∀ s, k.fine s → ∃ s', act s = (a, s') ∧ k.fine s' ∧ k.taken s' = k.taken s ++ text

def Intake.Settles (k : Intake sink) (act : StateM σ α) : Prop :=
  ∀ s, k.fine s → k.written (act s).2 = k.taken (act s).2

namespace Intake

variable {k : Intake sink}

theorem Delivers.pure (a : α) : k.Delivers (pure a) a [] := by
  intro s hs
  exact ⟨s, rfl, hs, (List.append_nil _).symm⟩

theorem Delivers.bind {act : StateM σ α} {next : α → StateM σ β} {a : α} {b : β} {text more : List Char}
    (h : k.Delivers act a text) (hn : k.Delivers (next a) b more) :
    k.Delivers (act >>= next) b (text ++ more) := by
  intro s hs
  obtain ⟨t, hact, ht, htaken⟩ := h s hs
  obtain ⟨u, hnext, hu, hmore⟩ := hn t ht
  refine ⟨u, ?_, hu, ?_⟩
  · calc (act >>= next) s = next (act s).1 (act s).2 := rfl
      _ = (b, u) := by rw [hact, hnext]
  · rw [hmore, htaken, List.append_assoc]

theorem Delivers.bind_state {act : StateT δ (StateM σ) α} {next : α → StateT δ (StateM σ) β} {d e : δ} {a : α}
    {b : β × δ} {text more : List Char} (h : k.Delivers (act d) (a, e) text) (hn : k.Delivers (next a e) b more) :
    k.Delivers ((act >>= next) d) b (text ++ more) := by
  have hboth : k.Delivers (act d >>= fun r => next r.1 r.2) b (text ++ more) := h.bind hn
  exact hboth

theorem Delivers.bind_states {γ : Type} {act : StateT γ (StateT δ (StateM σ)) α}
    {next : α → StateT γ (StateT δ (StateM σ)) β} {x y : γ} {d e : δ} {a : α} {b : (β × γ) × δ} {text more : List Char}
    (h : k.Delivers (act x d) ((a, y), e) text) (hn : k.Delivers (next a y e) b more) :
    k.Delivers ((act >>= next) x d) b (text ++ more) := by
  have hboth : k.Delivers ((act x >>= fun r => next r.1 r.2) d) b (text ++ more) := h.bind_state hn
  exact hboth

theorem Settles.bind_state {act : StateT δ (StateM σ) α} {next : α → StateT δ (StateM σ) β} {d e : δ} {a : α}
    {text : List Char} (h : k.Delivers (act d) (a, e) text) (hn : k.Settles (next a e)) :
    k.Settles ((act >>= next) d) := by
  intro s hs
  obtain ⟨t, hact, ht, _⟩ := h s hs
  have hrun : (act >>= next) d s = next a e t := by
    calc (act >>= next) d s = next (act d s).1.1 (act d s).1.2 (act d s).2 := rfl
      _ = next a e t := by rw [hact]
  rw [hrun]
  exact hn t ht

theorem delivers_flush (k : Intake sink) : k.Delivers sink.flush (.ok ()) [] := by
  intro s hs
  obtain ⟨t, hflush, ht, htaken, _⟩ := k.flush s hs
  exact ⟨t, hflush, ht, by rw [htaken, List.append_nil]⟩

theorem Settles.bind_pure {act : StateT δ (StateM σ) α} {next : α → StateT δ (StateM σ) β} {d : δ}
    (h : k.Settles (act d)) (hn : ∀ a e s, (next a e s).2 = s) : k.Settles ((act >>= next) d) := by
  intro s hs
  have hrun : ((act >>= next) d s).2 = (act d s).2 := hn _ _ _
  rw [hrun]
  exact h s hs

theorem settles_flush (k : Intake sink) : k.Settles sink.flush := by
  intro s hs
  obtain ⟨t, hflush, _, htaken, hwritten⟩ := k.flush s hs
  rw [hflush, htaken, hwritten]

end Intake

variable {k : Intake sink}

def piecesChars (pieces : List Piece) : List Char := pieces.flatMap fun p => p.text.toList

theorem piecesChars_cons (p : Piece) (rest : List Piece) :
    piecesChars (p :: rest) = p.text.toList ++ piecesChars rest := rfl

theorem Intake.Delivers.lift {act : StateM σ α} {a : α} {text : List Char} (h : k.Delivers act a text) (d : δ) :
    k.Delivers ((StateT.lift act : StateT δ (StateM σ) α) d) (a, d) text := by
  have hboth : k.Delivers (act >>= fun a => Pure.pure (a, d)) (a, d) (text ++ []) := h.bind (.pure (a, d))
  rw [List.append_nil] at hboth
  exact hboth

theorem Intake.Settles.lift {act : StateM σ α} (h : k.Settles act) (d : δ) :
    k.Settles ((StateT.lift act : StateT δ (StateM σ) α) d) := h

theorem deliverPieces_delivered (path : Option String) (pieces : List Piece) (d : δ) :
    k.Delivers (deliverPieces sink.lift path pieces d) (.ok (), d) (piecesChars pieces) := by
  induction pieces with
  | nil => exact .pure _
  | cons p rest ih =>
    have hwrite : k.Delivers (sink.write p.text) (.ok ()) p.text.toList := k.write p.text
    rw [piecesChars_cons]
    unfold deliverPieces
    exact .bind_state (hwrite.lift d) ih

theorem Emission.deliver_delivered (path : Option String) (pieces : List Piece) (d : δ) :
    k.Delivers ((⟨pieces, none⟩ : Emission).deliver sink.lift path d) (.ok (), d) (piecesChars pieces) := by
  rw [← List.append_nil (piecesChars pieces)]
  unfold Emission.deliver
  exact .bind_state (deliverPieces_delivered path pieces d) (.pure _)

/-- A formatter that writes the text of each result, holds back nothing, and stays as it is. -/
structure Formatter.Streams {τ : Type} [TableLibrary τ] (f : Formatter τ) (text : Entry → List Char) : Prop where
  result : ∀ e : Entry, 2 ≤ e.row.length → ∃ pieces, f.result e = (⟨pieces, none⟩, f) ∧ piecesChars pieces = text e
  flush : f.flush = ({}, f)

theorem Formatter.csvRow_pieces {cells : List String} (h : 2 ≤ cells.length) :
    ∃ pieces, csvRow cells = ⟨pieces, none⟩ ∧ piecesChars pieces = Csv.rowChars (cells.map String.toList) := by
  match cells, h with
  | cell :: next :: rest, _ =>
    have hwide : ¬ Csv.Blank ((cell :: next :: rest).map String.toList) := by simp [Csv.Blank]
    unfold csvRow
    simp only [Csv.fittingPieces_pieces hwide]
    refine ⟨_, rfl, ?_⟩
    simp [piecesChars, Csv.rowChars, List.flatMap_map, List.flatMap_id']

def jsonLine (e : Entry) : List Char := e.record.chars ++ ['\n']

def csvLine (e : Entry) : List Char := Csv.rowChars (e.row.map String.toList)

theorem Formatter.jsonl_streams {τ : Type} [TableLibrary τ] : (jsonl : Formatter τ).Streams jsonLine := by
  refine ⟨?_, rfl⟩
  intro e _
  exact ⟨_, rfl, by simp [piecesChars, jsonLine, Json.text]⟩

theorem Formatter.csv_streams {τ : Type} [TableLibrary τ] : (csv true : Formatter τ).Streams csvLine := by
  refine ⟨?_, rfl⟩
  intro e he
  obtain ⟨pieces, hrow, htext⟩ := csvRow_pieces he
  exact ⟨pieces, by rw [Formatter.result, hrow], htext⟩

namespace Output

variable {τ : Type} [TableLibrary τ] {f : Formatter τ} {text : Entry → List Char}

theorem headers_delivered {f g : Formatter τ} {cells : List String} {pieces : List Piece}
    (h : f.headers cells = (⟨pieces, none⟩, g)) (path : Option String) :
    k.Delivers ((⟨sink, path⟩ : Output (StateM σ)).headers cells f) (.ok (), g) (piecesChars pieces) := by
  have hdeliver := Emission.deliver_delivered (k := k) path pieces g
  have hrun : (⟨sink, path⟩ : Output (StateM σ)).headers cells f =
      (f.headers cells).1.deliver sink.lift path (f.headers cells).2 := rfl
  rw [hrun, h]
  exact hdeliver

theorem result_delivered (h : f.Streams text) (path : Option String) {e : Entry} (he : 2 ≤ e.row.length) :
    k.Delivers ((⟨sink, path⟩ : Output (StateM σ)).result e f) (.ok (), f) (text e) := by
  obtain ⟨pieces, hresult, htext⟩ := h.result e he
  have hdeliver := Emission.deliver_delivered (k := k) path pieces f
  have hrun : (⟨sink, path⟩ : Output (StateM σ)).result e f =
      (f.result e).1.deliver sink.lift path (f.result e).2 := rfl
  rw [hrun, hresult, ← htext]
  exact hdeliver

theorem results_delivered (h : f.Streams text) (path : Option String) {es : List Entry}
    (hes : ∀ e ∈ es, 2 ≤ e.row.length) :
    k.Delivers ((⟨sink, path⟩ : Output (StateM σ)).results es f) (.ok (), f) (es.flatMap text) := by
  induction es with
  | nil => exact .pure _
  | cons e rest ih =>
    obtain ⟨he, hrest⟩ := List.forall_mem_cons.mp hes
    rw [List.flatMap_cons]
    unfold results
    exact .bind_state (result_delivered h path he) (ih hrest)

theorem modifyGet_flush {f g : Formatter τ} {pieces : List Piece} (h : f.flush = (⟨pieces, none⟩, g)) :
    k.Delivers ((modifyGet Formatter.flush : StateT (Formatter τ) (StateM σ) Emission) f) (⟨pieces, none⟩, g) [] := by
  change k.Delivers (pure f.flush) (⟨pieces, none⟩, g) []
  rw [h]
  exact .pure _

theorem flush_printed {f g : Formatter τ} {pieces : List Piece} (h : f.flush = (⟨pieces, none⟩, g))
    (path : Option String) :
    k.Delivers ((⟨sink, path⟩ : Output (StateM σ)).flush f) (.ok (), g) (piecesChars pieces) := by
  have hflush := k.delivers_flush.lift g
  have hall : k.Delivers ((⟨sink, path⟩ : Output (StateM σ)).flush f) (.ok (), g)
      ([] ++ (piecesChars pieces ++ ([] ++ []))) := by
    unfold flush
    exact .bind_state (modifyGet_flush h) <| .bind_state (Emission.deliver_delivered path pieces g) <|
      .bind_state hflush (.pure _)
  rwa [List.nil_append, List.append_nil, List.append_nil] at hall

theorem flush_delivered (h : f.Streams text) (path : Option String) :
    k.Delivers ((⟨sink, path⟩ : Output (StateM σ)).flush f) (.ok (), f) [] :=
  flush_printed h.flush path

theorem flush_settles {f g : Formatter τ} {pieces : List Piece} (h : f.flush = (⟨pieces, none⟩, g))
    (path : Option String) : k.Settles ((⟨sink, path⟩ : Output (StateM σ)).flush f) := by
  unfold flush
  refine .bind_state (modifyGet_flush h) (.bind_state (Emission.deliver_delivered path pieces g) ?_)
  refine .bind_pure (k.settles_flush.lift g) ?_
  intro r e s
  cases r with
  | error cause => rfl
  | ok => rfl

end Output

end MeterPolling
