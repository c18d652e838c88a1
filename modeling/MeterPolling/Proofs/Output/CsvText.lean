import MeterPolling.Output.Csv

namespace MeterPolling.Csv

theorem byteCount_append (a b : List Char) : byteCount (a ++ b) = byteCount a + byteCount b := by
  induction a with
  | nil => simp [byteCount]
  | cons c a ih =>
    simp only [List.cons_append, byteCount, List.foldr_cons] at ih ⊢
    omega

@[simp] theorem byteCount_nil : byteCount [] = 0 := rfl

@[simp] theorem byteCount_cons (c : Char) (cs : List Char) : byteCount (c :: cs) = c.utf8Size + byteCount cs := rfl

theorem byteCount_doubled (cell : List Char) : byteCount (doubled cell) ≤ 2 * byteCount cell := by
  induction cell with
  | nil => simp [doubled]
  | cons c cell ih =>
    have hcons : doubled (c :: cell) = (if c = '"' then ['"', '"'] else [c]) ++ doubled cell := rfl
    rw [hcons, byteCount_append, byteCount_cons]
    split
    next hc =>
      have hsize : byteCount ['"', '"'] = 2 * c.utf8Size := by
        rw [hc]
        rfl
      omega
    next =>
      have hsize : byteCount [c] = c.utf8Size := rfl
      omega

theorem byteCount_cellPiece (cell : List Char) : byteCount (cellPiece cell) ≤ 2 + 2 * byteCount cell := by
  have hdoubled := byteCount_doubled cell
  unfold cellPiece
  split
  next =>
    have hquote : ('"' : Char).utf8Size = 1 := rfl
    rw [byteCount_cons, hquote]
    omega
  next => omega

theorem byteCount_closing (cell : List Char) {c : Char} (hc : c.utf8Size = 1) :
    byteCount (closing cell ++ [c]) ≤ 2 := by
  have hquote : ('"' : Char).utf8Size = 1 := rfl
  unfold closing
  split
  next => simp [hc, hquote]
  next => simp [hc]

theorem le_foldl_max {n : Nat} {ns : List Nat} (h : n ∈ ns) (start : Nat) : n ≤ ns.foldl max start := by
  have hstart : ∀ (ns : List Nat) start, start ≤ ns.foldl max start := by
    intro ns
    induction ns with
    | nil => intro start; exact Nat.le_refl start
    | cons m ns ih => intro start; exact Nat.le_trans (Nat.le_max_left start m) (ih (max start m))
  induction ns generalizing start with
  | nil => cases h
  | cons m ns ih =>
    rcases List.mem_cons.mp h with he | h
    · subst he
      exact Nat.le_trans (Nat.le_max_right start n) (hstart ns _)
    · exact ih h _

theorem byteCount_le_scratchSize {row : List (List Char)} {cell : List Char} (h : cell ∈ row) :
    2 + 2 * byteCount cell ≤ scratchSize row := by
  have hmax := le_foldl_max (List.mem_map_of_mem (f := byteCount) h) 0
  unfold scratchSize
  omega

theorem fittingPieces_of_le {size : Nat} {parts : List (List Char)}
    (h : ∀ part ∈ parts, byteCount part ≤ size) : fittingPieces size parts = (parts, true) := by
  induction parts with
  | nil => rfl
  | cons part parts ih =>
    have hfirst := h part (List.mem_cons_self ..)
    have hrest := ih fun p hp => h p (List.mem_cons_of_mem part hp)
    simp [fittingPieces, hfirst, hrest]

theorem piecesAfter_fit (row : List (List Char)) (cell : List Char) {rest : List (List Char)}
    (h : ∀ other ∈ rest, other ∈ row) :
    ∀ part ∈ piecesAfter cell rest, byteCount part ≤ scratchSize row := by
  have htwo : 2 ≤ scratchSize row := Nat.le_add_right 2 _
  induction rest generalizing cell with
  | nil =>
    intro part hpart
    rw [List.mem_singleton.mp hpart]
    exact Nat.le_trans (byteCount_closing cell rfl) htwo
  | cons next rest ih =>
    have hnext := byteCount_le_scratchSize (h next (List.mem_cons_self ..))
    have hcell := byteCount_cellPiece next
    have hrest := ih next fun other ho => h other (List.mem_cons_of_mem next ho)
    simp only [piecesAfter, List.forall_mem_cons]
    exact ⟨Nat.le_trans (byteCount_closing cell rfl) htwo, by omega, hrest⟩

/-- Nothing is written of the row before its line end. -/
def Blank (row : List (List Char)) : Prop := row = [] ∨ row = [[]]

theorem fittingPieces_pieces {row : List (List Char)} (h : ¬ Blank row) :
    fittingPieces (scratchSize row) (pieces row) = (pieces row, true) := by
  refine fittingPieces_of_le ?_
  unfold pieces
  split
  next => exact (h (.inl rfl)).elim
  next => exact (h (.inr rfl)).elim
  next cell rest _ =>
    have hsize : 2 + 2 * byteCount cell ≤ scratchSize (cell :: rest) :=
      byteCount_le_scratchSize (List.mem_cons_self ..)
    have hcell := byteCount_cellPiece cell
    have hrest := piecesAfter_fit (cell :: rest) cell fun other ho => List.mem_cons_of_mem cell ho
    exact List.forall_mem_cons.mpr ⟨by omega, hrest⟩

/-- The scratch buffer holds the two quotes of an empty line, but not the line end behind them. -/
theorem fittingPieces_blank {row : List (List Char)} (h : Blank row) :
    fittingPieces (scratchSize row) (pieces row) = (row, false) := by
  rcases h with rfl | rfl
  · rfl
  · rfl

def cellChars (cell : List Char) : List Char := cellPiece cell ++ closing cell

def rowChars (row : List (List Char)) : List Char := (pieces row).flatten

theorem flatten_piecesAfter (cell : List Char) (rest : List (List Char)) :
    (piecesAfter cell rest).flatten = closing cell ++ (rest.flatMap fun next => ',' :: cellChars next) ++ ['\n'] := by
  induction rest generalizing cell with
  | nil => simp [piecesAfter]
  | cons next rest ih => simp [piecesAfter, ih, cellChars]

theorem rowChars_cons (cell next : List Char) (rest : List (List Char)) :
    rowChars (cell :: next :: rest) =
      cellChars cell ++ ((next :: rest).flatMap fun other => ',' :: cellChars other) ++ ['\n'] := by
  have hpieces : pieces (cell :: next :: rest) = cellPiece cell :: piecesAfter cell (next :: rest) := by
    cases cell <;> rfl
  rw [rowChars, hpieces, List.flatten_cons, flatten_piecesAfter]
  simp [cellChars]

def Place.Ends : Place → Prop
  | .start | .plain | .quote => True
  | .quoted | .carriage => False

namespace Reader

variable (rows : List (List (List Char))) (cells : List (List Char)) (cell : List Char) {p : Place}

theorem step_comma (h : p.Ends) :
    step ⟨rows, cells, cell.reverse, p⟩ ',' = some ⟨rows, cell :: cells, [], .start⟩ := by
  cases p with
  | start | plain | quote => simp [step, separate, endCell]
  | quoted | carriage => exact h.elim

theorem step_newline (h : p.Ends) :
    step ⟨rows, cells, cell.reverse, p⟩ '\n' = some ⟨(cell :: cells).reverse :: rows, [], [], .start⟩ := by
  cases p with
  | start | plain | quote => simp [step, separate, endCell, endRow]
  | quoted | carriage => exact h.elim

theorem step_plain {c : Char} (hp : p = .start ∨ p = .plain)
    (hc : ¬ (c = ',' ∨ c = '"' ∨ c = '\r' ∨ c = '\n')) :
    step ⟨rows, cells, cell, p⟩ c = some ⟨rows, cells, c :: cell, .plain⟩ := by
  simp only [not_or] at hc
  obtain ⟨hcomma, hquote, hreturn, hnewline⟩ := hc
  rcases hp with he | he
  · subst he
    simp [step, separate, push, hcomma, hquote, hreturn, hnewline]
  · subst he
    simp [step, separate, push, hcomma, hquote, hreturn, hnewline]

theorem read_plain {text : List Char} (hp : p = .start ∨ p = .plain) (h : needsQuotes text = false) :
    ∃ q, (q = .start ∨ q = .plain) ∧
      text.foldlM step ⟨rows, cells, cell, p⟩ = some ⟨rows, cells, text.reverse ++ cell, q⟩ := by
  induction text generalizing cell p with
  | nil => exact ⟨p, hp, rfl⟩
  | cons c text ih =>
    simp only [needsQuotes, List.any_cons, Bool.or_eq_false_iff] at h
    have hc : ¬ (c = ',' ∨ c = '"' ∨ c = '\r' ∨ c = '\n') := by
      simpa [and_assoc] using h.1
    obtain ⟨q, hq, hrest⟩ := ih (c :: cell) (.inr rfl) h.2
    refine ⟨q, hq, ?_⟩
    rw [List.foldlM_cons, step_plain rows cells cell hp hc]
    simpa using hrest

theorem read_doubled (text : List Char) :
    (doubled text).foldlM step ⟨rows, cells, cell, .quoted⟩ =
      some ⟨rows, cells, text.reverse ++ cell, .quoted⟩ := by
  induction text generalizing cell with
  | nil => rfl
  | cons c text ih =>
    have hcons : doubled (c :: text) = (if c = '"' then ['"', '"'] else [c]) ++ doubled text := rfl
    have hfirst : (if c = '"' then ['"', '"'] else [c]).foldlM step ⟨rows, cells, cell, .quoted⟩ =
        some ⟨rows, cells, c :: cell, .quoted⟩ := by
      by_cases hc : c = '"'
      · simp [hc, step, push]
      · simp [hc, step, push]
    rw [hcons, List.foldlM_append, hfirst]
    simpa using ih (c :: cell)

theorem read_cell (text : List Char) :
    ∃ q : Place, q.Ends ∧ (cellChars text).foldlM step ⟨rows, cells, [], .start⟩ =
      some ⟨rows, cells, text.reverse, q⟩ := by
  cases hq : needsQuotes text with
  | false =>
    obtain ⟨q, hends, hread⟩ := read_plain rows cells [] (.inl rfl) hq
    refine ⟨q, ?_, ?_⟩
    · rcases hends with he | he
      · exact he ▸ trivial
      · exact he ▸ trivial
    · simpa [cellChars, cellPiece, closing, hq] using hread
  | true =>
    refine ⟨.quote, trivial, ?_⟩
    have hopen : step ⟨rows, cells, [], .start⟩ '"' = some ⟨rows, cells, [], .quoted⟩ := rfl
    have hclose : step ⟨rows, cells, text.reverse, .quoted⟩ '"' =
        some ⟨rows, cells, text.reverse, .quote⟩ := rfl
    simp [cellChars, cellPiece, closing, hq, hopen, read_doubled, hclose]

theorem read_cells (rest : List (List Char)) (h : p.Ends) :
    ((rest.flatMap fun next => ',' :: cellChars next) ++ ['\n']).foldlM step
      ⟨rows, cells, cell.reverse, p⟩ = some ⟨(cells.reverse ++ cell :: rest) :: rows, [], [], .start⟩ := by
  induction rest generalizing cells cell p with
  | nil => simp [step_newline rows cells cell h]
  | cons next rest ih =>
    obtain ⟨q, hq, hnext⟩ := read_cell rows (cell :: cells) next
    have hrest := ih (cell :: cells) next hq
    rw [List.flatMap_cons, List.cons_append, List.cons_append, List.foldlM_cons, step_comma rows cells cell h]
    simp only [Option.bind_eq_bind, Option.bind_some, List.append_assoc, List.foldlM_append] at hrest ⊢
    rw [hnext, Option.bind_some, hrest]
    simp

theorem read_row (cell next : List Char) (rest : List (List Char)) :
    (rowChars (cell :: next :: rest)).foldlM step ⟨rows, [], [], .start⟩ =
      some ⟨(cell :: next :: rest) :: rows, [], [], .start⟩ := by
  obtain ⟨q, hq, hcell⟩ := read_cell rows [] cell
  have hrest := read_cells rows [] cell (next :: rest) hq
  rw [rowChars_cons, List.append_assoc, List.foldlM_append, hcell]
  exact hrest

theorem read_rows (table : List (List (List Char))) (h : ∀ row ∈ table, 2 ≤ row.length) :
    (table.flatMap rowChars).foldlM step ⟨rows, [], [], .start⟩ =
      some ⟨table.reverse ++ rows, [], [], .start⟩ := by
  induction table generalizing rows with
  | nil => rfl
  | cons row table ih =>
    have hrow := h row (List.mem_cons_self ..)
    have hrest := ih (row :: rows) fun other ho => h other (List.mem_cons_of_mem row ho)
    match row, hrow with
    | cell :: next :: more, _ =>
      rw [List.flatMap_cons, List.foldlM_append, read_row]
      simpa using hrest

end Reader

/-- Rows of more than one cell are read back, whatever is in their cells. -/
theorem parse?_rowChars (table : List (List (List Char))) (h : ∀ row ∈ table, 2 ≤ row.length) :
    parse? (table.flatMap rowChars) = some table := by
  have hread := Reader.read_rows [] table h
  simp only [parse?]
  rw [show ({} : Reader) = ⟨[], [], [], .start⟩ from rfl, hread]
  simp [Reader.finish]

end MeterPolling.Csv
