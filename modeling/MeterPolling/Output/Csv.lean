namespace MeterPolling.Csv

def needsQuotes (cell : List Char) : Bool :=
  cell.any fun c => c = ',' || c = '"' || c = '\r' || c = '\n'

def doubled (cell : List Char) : List Char :=
  cell.flatMap fun c => if c = '"' then ['"', '"'] else [c]

/-- The cell up to its last character; a closing quote belongs to the piece after it. -/
def cellPiece (cell : List Char) : List Char :=
  if needsQuotes cell then '"' :: doubled cell else cell

def closing (cell : List Char) : List Char :=
  if needsQuotes cell then ['"'] else []

def piecesAfter (cell : List Char) : List (List Char) → List (List Char)
  | [] => [closing cell ++ ['\n']]
  | next :: rest => (closing cell ++ [',']) :: cellPiece next :: piecesAfter next rest

/-- The pieces of a row. Two quotes stand for a row that would otherwise be an empty line. -/
def pieces : List (List Char) → List (List Char)
  | [] => [['"', '"', '\n']]
  | [[]] => [[], ['"', '"', '\n']]
  | cell :: rest => cellPiece cell :: piecesAfter cell rest

def byteCount (cs : List Char) : Nat := cs.foldr (fun c n => c.utf8Size + n) 0

/-- The size of the scratch buffer: two quotes and the longest cell with all its bytes doubled. -/
def scratchSize (row : List (List Char)) : Nat :=
  2 + 2 * (row.map byteCount).foldl max 0

/-- The pieces that fit the scratch buffer, up to the first that does not, and whether all do. -/
def fittingPieces (size : Nat) : List (List Char) → List (List Char) × Bool
  | [] => ([], true)
  | piece :: rest =>
    if byteCount piece ≤ size then
      let (fitting, all) := fittingPieces size rest
      (piece :: fitting, all)
    else ([], false)

inductive Place where
  | start
  | plain
  | quoted
  /-- Behind a quote that ends the cell unless another quote follows. -/
  | quote
  /-- Behind a carriage return that only a line feed may follow. -/
  | carriage
  deriving DecidableEq, Repr

structure Reader where
  rows : List (List (List Char)) := []
  cells : List (List Char) := []
  cell : List Char := []
  place : Place := .start

namespace Reader

def push (r : Reader) (c : Char) (place : Place) : Reader := { r with cell := c :: r.cell, place }

def endCell (r : Reader) : Reader :=
  { r with cells := r.cell.reverse :: r.cells, cell := [], place := .start }

def endRow (r : Reader) : Reader :=
  let r := r.endCell
  { r with rows := r.cells.reverse :: r.rows, cells := [] }

def separate (r : Reader) (c : Char) : Option Reader :=
  if c = ',' then some r.endCell
  else if c = '\n' then some r.endRow
  else if c = '\r' then some { r with place := .carriage }
  else none

/-- Reads a character. A quote may open a cell and be doubled inside it, but stand nowhere else. -/
def step (r : Reader) (c : Char) : Option Reader :=
  match r.place with
  | .start =>
    if c = '"' then some { r with place := .quoted }
    else (r.separate c).or (some (r.push c .plain))
  | .plain => if c = '"' then none else (r.separate c).or (some (r.push c .plain))
  | .quoted => if c = '"' then some { r with place := .quote } else some (r.push c .quoted)
  | .quote => if c = '"' then some (r.push c .quoted) else r.separate c
  | .carriage => if c = '\n' then some r.endRow else none

def finish (r : Reader) : Option (List (List (List Char))) :=
  match r.place with
  | .quoted | .carriage => none
  | .start => if r.cells.isEmpty then some r.rows.reverse else some r.endRow.rows.reverse
  | _ => some r.endRow.rows.reverse

end Reader

def parse? (cs : List Char) : Option (List (List (List Char))) := do
  let r ← cs.foldlM Reader.step {}
  r.finish

end MeterPolling.Csv
