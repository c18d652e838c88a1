import MeterPolling.Proofs.Output.CsvText
import MeterPolling.Proofs.Text.Encoding

namespace MeterPolling.Csv

open Text

namespace Bytes

def needsQuotes (cell : List UInt8) : Bool :=
  cell.any fun b => b = 0x2C || b = 0x22 || b = 0x0D || b = 0x0A

def doubled (cell : List UInt8) : List UInt8 :=
  cell.flatMap fun b => if b = 0x22 then [0x22, 0x22] else [b]

end Bytes

structure Progress where
  inCell : Bool := false
  /-- A closing quote is owed. -/
  quoted : Bool := false
  blank : Bool := true
  deriving DecidableEq, Repr

namespace Progress

def closing (p : Progress) : List UInt8 := if p.quoted then [0x22] else []

def afterCell (p : Progress) (cell : List UInt8) : Progress :=
  { inCell := true, quoted := Bytes.needsQuotes cell, blank := p.blank && cell.isEmpty }

/-- What a cell is written as; its closing quote is owed. -/
def cellText (cell : List UInt8) : List UInt8 :=
  if Bytes.needsQuotes cell then 0x22 :: Bytes.doubled cell else cell

def delimiterText (p : Progress) : List UInt8 := p.closing ++ [0x2C]

/-- A record that would be an empty line gets two quotes. -/
def terminatorText (p : Progress) : List UInt8 :=
  (if p.blank then [0x22, 0x22] else []) ++ p.closing ++ [0x0A]

end Progress

structure Call (σ : Type) where
  state : σ
  buffer : List UInt8
  full : Bool := false
  /-- How many bytes of its cell the call has taken. -/
  taken : Nat := 0
  /-- How many bytes the call has put in front of the buffer. -/
  put : Nat := 0

/-- A writer of records that is called for each cell, for what stands between two, and for the end of a record. -/
structure CellWriter (σ : Type) where
  start : σ
  field : List UInt8 → σ → List UInt8 → Call σ
  delimiter : σ → List UInt8 → Call σ
  terminator : σ → List UInt8 → Call σ

variable {σ : Type} {progress : σ → Progress}

/-- The call has put the text in front of the buffer. Nothing is said of the rest of the buffer. -/
structure Call.Puts (c : Call σ) (progress : σ → Progress) (room taken : Nat) (text : List UInt8) (after : Progress) :
    Prop where
  full : c.full = false
  taken : c.taken = taken
  front : c.buffer.take c.put = text
  room : c.buffer.length = room
  state : progress c.state = after

def Call.Answers (c : Call σ) (progress : σ → Progress) (room taken : Nat) (text : List UInt8) (after : Progress) :
    Prop :=
  if text.length ≤ room then c.Puts progress room taken text after else c.full = true

/-- What is documented of a writer: which cells it quotes and how, and when a closing quote comes. -/
structure CellWriter.Lawful (w : CellWriter σ) (progress : σ → Progress) : Prop where
  start : progress w.start = {}
  field : ∀ cell s buffer, (progress s).inCell = false → (w.field cell s buffer).Answers progress buffer.length cell.length
    (Progress.cellText cell) ((progress s).afterCell cell)
  delimiter : ∀ s buffer, (w.delimiter s buffer).Answers progress buffer.length 0
    (progress s).delimiterText { blank := false }
  terminator : ∀ s buffer, (w.terminator s buffer).Answers progress buffer.length 0 (progress s).terminatorText {}

inductive CallFault where
  | full
  | untaken
  deriving DecidableEq, Repr

structure Step (σ : Type) where
  call : σ → List UInt8 → Call σ
  takes : Nat := 0

namespace CellWriter

variable (w : CellWriter σ)

def stepsAfter : List (List UInt8) → List (Step σ)
  | [] => [{ call := w.terminator }]
  | cell :: rest => { call := w.delimiter } :: { call := w.field cell, takes := cell.length } :: stepsAfter rest

def steps : List (List UInt8) → List (Step σ)
  | [] => [{ call := w.terminator }]
  | cell :: rest => { call := w.field cell, takes := cell.length } :: w.stepsAfter rest

end CellWriter

abbrev Written : Type := List (List UInt8) × Option CallFault

/-- Calls in order, each with the state and the buffer that the one before has left, up to the first fault. -/
def drive (s : σ) (buffer : List UInt8) : List (Step σ) → Written
  | [] => ([], none)
  | step :: rest =>
    let c := step.call s buffer
    if c.full then ([], some .full)
    else if c.taken ≠ step.takes then ([], some .untaken)
    else
      let (texts, fault) := drive c.state c.buffer rest
      (c.buffer.take c.put :: texts, fault)

def CellWriter.writeRow (w : CellWriter σ) (buffer : List UInt8) (row : List String) : Written :=
  drive w.start buffer (w.steps (row.map fun cell => encodeUtf8 cell.toList))

theorem length_encodeUtf8 (cs : List Char) : (encodeUtf8 cs).length = byteCount cs := by
  induction cs with
  | nil => rfl
  | cons c cs ih =>
    rw [encodeUtf8] at ih ⊢
    rw [List.flatMap_cons, List.length_append, ih, String.length_utf8EncodeChar, byteCount_cons]

theorem Bytes.needsQuotes_iff {cell : List UInt8} :
    needsQuotes cell ↔ 0x2C ∈ cell ∨ 0x22 ∈ cell ∨ 0x0D ∈ cell ∨ 0x0A ∈ cell := by
  simp [needsQuotes, and_or_left, exists_or, or_assoc]

theorem needsQuotes_iff {cell : List Char} :
    needsQuotes cell ↔ ',' ∈ cell ∨ '"' ∈ cell ∨ '\r' ∈ cell ∨ '\n' ∈ cell := by
  simp [needsQuotes, and_or_left, exists_or, or_assoc]

theorem needsQuotes_encodeUtf8 (cell : List Char) : Bytes.needsQuotes (encodeUtf8 cell) = needsQuotes cell := by
  rw [Bool.eq_iff_iff, Bytes.needsQuotes_iff, needsQuotes_iff, mem_encodeUtf8_iff (by decide),
    mem_encodeUtf8_iff (by decide), mem_encodeUtf8_iff (by decide), mem_encodeUtf8_iff (by decide)]
  rfl

theorem doubled_encodeUtf8 (cell : List Char) : Bytes.doubled (encodeUtf8 cell) = encodeUtf8 (doubled cell) := by
  have hsingle : ∀ c : Char, Bytes.doubled (String.utf8EncodeChar c) =
      encodeUtf8 (if c = '"' then ['"', '"'] else [c]) := by
    intro c
    split
    next hc =>
      subst hc
      decide
    next hc =>
      have habsent : ∀ b ∈ String.utf8EncodeChar c, b ≠ 0x22 := by
        rintro b hb rfl
        exact hc ((mem_encode_iff (by decide)).mp hb)
      rw [encodeUtf8, List.flatMap_singleton, Bytes.doubled,
        List.flatMap_congr fun b hb => if_neg (habsent b hb), List.flatMap_singleton']
  unfold Bytes.doubled encodeUtf8 doubled at *
  rw [List.flatMap_assoc, List.flatMap_assoc]
  exact List.flatMap_congr fun c _ => hsingle c

theorem encodeUtf8_cellPiece (cell : List Char) :
    encodeUtf8 (cellPiece cell) = Progress.cellText (encodeUtf8 cell) := by
  unfold cellPiece Progress.cellText
  rw [needsQuotes_encodeUtf8, doubled_encodeUtf8]
  split
  next => rfl
  next => rfl

theorem encodeUtf8_closing {cell : List Char} {p : Progress} (h : p.quoted = needsQuotes cell) :
    encodeUtf8 (closing cell) = p.closing := by
  unfold closing Progress.closing
  rw [h]
  split
  next => rfl
  next => rfl

def written (size : Nat) (parts : List (List Char)) : Written :=
  ((fittingPieces size parts).1.map encodeUtf8, if (fittingPieces size parts).2 then none else some .full)

theorem written_cons (size : Nat) (part : List Char) (parts : List (List Char)) :
    written size (part :: parts) =
      if byteCount part ≤ size then (encodeUtf8 part :: (written size parts).1, (written size parts).2)
      else ([], some .full) := by
  have hcons : fittingPieces size (part :: parts) =
      if byteCount part ≤ size then (part :: (fittingPieces size parts).1, (fittingPieces size parts).2)
      else ([], false) := rfl
  rw [written, hcons]
  split
  next => rfl
  next => rfl

theorem Call.Answers.drive_cons {step : Step σ} {steps : List (Step σ)} {s : σ} {buffer : List UInt8}
    {part : List Char} {parts : List (List Char)} {after : Progress}
    (answers : (step.call s buffer).Answers progress buffer.length step.takes (encodeUtf8 part) after)
    (rest : ∀ t later, later.length = buffer.length → progress t = after →
      drive t later steps = written buffer.length parts) :
    drive s buffer (step :: steps) = written buffer.length (part :: parts) := by
  rw [written_cons, drive]
  unfold Call.Answers at answers
  rw [length_encodeUtf8] at answers
  split at answers
  next hroom =>
    have hrest := rest _ _ answers.room answers.state
    simp [answers.full, answers.taken, answers.front, hrest, hroom]
  next hroom => simp [answers, hroom]

namespace CellWriter.Lawful

variable {w : CellWriter σ}

theorem drive_terminator (lawful : w.Lawful progress) {part : List Char} {s : σ} (buffer : List UInt8)
    (text : encodeUtf8 part = (progress s).terminatorText) :
    drive s buffer (w.stepsAfter []) = written buffer.length [part] := by
  have hanswer := lawful.terminator s buffer
  rw [← text] at hanswer
  exact hanswer.drive_cons fun _ _ _ _ => rfl

theorem drive_field (lawful : w.Lawful progress) (cell : List Char) {s : σ} {buffer : List UInt8}
    {steps : List (Step σ)} {parts : List (List Char)} (outside : (progress s).inCell = false)
    (rest : ∀ t later, later.length = buffer.length → (progress t).quoted = needsQuotes cell →
      (progress t).blank = ((progress s).blank && cell.isEmpty) → drive t later steps = written later.length parts) :
    drive s buffer ({ call := w.field (encodeUtf8 cell), takes := (encodeUtf8 cell).length } :: steps) =
      written buffer.length (cellPiece cell :: parts) := by
  have hanswer := lawful.field (encodeUtf8 cell) s buffer outside
  rw [← encodeUtf8_cellPiece] at hanswer
  have hempty : (encodeUtf8 cell).isEmpty = cell.isEmpty := by
    cases cell with
    | nil => rfl
    | cons c cell => simp [encodeUtf8]
  refine hanswer.drive_cons fun t later hlater ht => ?_
  rw [← hlater]
  refine rest t later hlater ?_ ?_
  · rw [ht]
    exact needsQuotes_encodeUtf8 cell
  · rw [ht, ← hempty]
    rfl

theorem drive_stepsAfter (lawful : w.Lawful progress) (cell : List Char) (rest : List (List Char)) {s : σ}
    {buffer : List UInt8} (quoted : (progress s).quoted = needsQuotes cell)
    (begun : rest = [] → (progress s).blank = false) :
    drive s buffer (w.stepsAfter (rest.map encodeUtf8)) = written buffer.length (piecesAfter cell rest) := by
  have hclosing := encodeUtf8_closing quoted
  induction rest generalizing cell s buffer with
  | nil =>
    refine lawful.drive_terminator buffer ?_
    rw [encodeUtf8_append, hclosing, Progress.terminatorText, begun rfl]
    rfl
  | cons next rest ih =>
    have htext : encodeUtf8 (closing cell ++ [',']) = (progress s).delimiterText := by
      rw [encodeUtf8_append, hclosing]
      rfl
    have hanswer := lawful.delimiter s buffer
    rw [← htext] at hanswer
    refine hanswer.drive_cons fun t later hlater ht => ?_
    rw [← hlater]
    refine lawful.drive_field next (by rw [ht]) fun u last _ hquoted hblank => ?_
    refine ih next hquoted (fun _ => ?_) (encodeUtf8_closing hquoted)
    rw [hblank, ht, Bool.false_and]

theorem drive_blank (lawful : w.Lawful progress) {s : σ} (buffer : List UInt8) (blank : (progress s).blank = true)
    (plain : (progress s).quoted = false) :
    drive s buffer (w.stepsAfter []) = written buffer.length [['"', '"', '\n']] := by
  refine lawful.drive_terminator buffer ?_
  rw [Progress.terminatorText, Progress.closing, blank, plain]
  rfl

theorem drive_steps (lawful : w.Lawful progress) (buffer : List UInt8) (row : List (List Char)) :
    drive w.start buffer (w.steps (row.map encodeUtf8)) = written buffer.length (pieces row) := by
  have houtside : (progress w.start).inCell = false := by rw [lawful.start]
  unfold pieces
  split
  next => exact lawful.drive_blank buffer (by rw [lawful.start]) (by rw [lawful.start])
  next =>
    refine lawful.drive_field [] houtside fun t later _ hquoted hblank => ?_
    rw [lawful.start] at hblank
    exact lawful.drive_blank later hblank hquoted
  next cell rest hrow =>
    refine lawful.drive_field cell houtside fun t later _ hquoted hblank => ?_
    refine lawful.drive_stepsAfter cell rest hquoted fun hrest => ?_
    rw [hblank]
    cases cell with
    | nil => exact (hrow rfl hrest).elim
    | cons c cell => exact Bool.and_false _

/--
Whatever is in the buffer, the pieces that fit it are passed on, and nothing else. It does not matter what a call leaves
there behind its own bytes.
-/
theorem writeRow_eq (lawful : w.Lawful progress) (buffer : List UInt8) (row : List String) :
    w.writeRow buffer row = written buffer.length (pieces (row.map String.toList)) := by
  have hcells : row.map (fun cell => encodeUtf8 cell.toList) = (row.map String.toList).map encodeUtf8 := by
    rw [List.map_map]
    rfl
  rw [writeRow, hcells]
  exact lawful.drive_steps buffer _

end CellWriter.Lawful

def Progress.put (s after : Progress) (taken : Nat) (text buffer : List UInt8) : Call Progress :=
  if text.length ≤ buffer.length then
    { state := after, buffer := text ++ buffer.drop text.length, taken, put := text.length }
  else { state := s, buffer, full := true }

theorem Progress.put_answers (s after : Progress) (taken : Nat) (text buffer : List UInt8) :
    (s.put after taken text buffer).Answers id buffer.length taken text after := by
  unfold put Call.Answers
  split
  next hroom =>
    have hlength : (text ++ buffer.drop text.length).length = buffer.length := by
      rw [List.length_append, List.length_drop]
      omega
    exact ⟨rfl, rfl, List.take_left, hlength, rfl⟩
  next => rfl

def CellWriter.standard : CellWriter Progress where
  start := {}
  field cell s buffer := s.put (s.afterCell cell) cell.length (Progress.cellText cell) buffer
  delimiter s buffer := s.put { blank := false } 0 s.delimiterText buffer
  terminator s buffer := s.put {} 0 s.terminatorText buffer

theorem CellWriter.standard_lawful : standard.Lawful id where
  start := rfl
  field _ s buffer _ := s.put_answers _ _ _ buffer
  delimiter s buffer := s.put_answers _ _ _ buffer
  terminator s buffer := s.put_answers _ _ _ buffer

end MeterPolling.Csv
