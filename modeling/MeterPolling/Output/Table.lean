import MeterPolling.Text.Columns
import MeterPolling.Text.Split

namespace MeterPolling

/-- The calls of a table library. -/
class TableLibrary (τ : Type) where
  new : τ
  setHeader : τ → List String → τ
  addRow : τ → List String → τ
  text : τ → String

/-- The rows to be drawn, and the largest number of cells that any row or header has had. -/
structure Table where
  header : Option (List String) := none
  rows : List (List String) := []
  columns : Nat := 0
  deriving DecidableEq, Repr

namespace Table

def setHeader (t : Table) (cells : List String) : Table :=
  { t with header := some cells, columns := max t.columns cells.length }

def addRow (t : Table) (cells : List String) : Table :=
  { t with rows := t.rows ++ [cells], columns := max t.columns cells.length }

def cellLines (cell : String) : List String := (Text.split '\n' cell.toList).map String.ofList

def cellWidth (cell : String) : Nat := ((cellLines cell).map Text.columns).foldl max 0

def allRows (t : Table) : List (List String) := t.header.toList ++ t.rows

/-- The widths of the columns; none is narrower than one. -/
def widths (t : Table) : List Nat :=
  (List.range t.columns).map fun i =>
    (t.allRows.map fun row => (row[i]?.map cellWidth).getD 0).foldl max 1

def padded (width : Nat) (line : String) : String :=
  " " ++ line ++ String.ofList (List.replicate (width - Text.columns line) ' ') ++ " "

/-- The screen lines of a row. A cell is split at its line feeds, and cells that are missing are empty. -/
def rowLines (widths : List Nat) (row : List String) : List String :=
  let cells := (List.range widths.length).map fun i => (row[i]?.map cellLines).getD [""]
  let height := (cells.map List.length).foldl max 0
  (List.range height).map fun line =>
    "|" ++ "|".intercalate ((cells.zip widths).map fun (lines, w) => padded w (lines[line]?.getD "")) ++ "|"

def rule (widths : List Nat) (left stroke crossing right : String) : String :=
  left ++ crossing.intercalate (widths.map fun w => String.join (List.replicate (w + 2) stroke)) ++ right

def body (widths : List Nat) : List (List String) → List String
  | [] => []
  | [row] => rowLines widths row
  | row :: rest => rowLines widths row ++ rule widths "|" "-" "+" "|" :: body widths rest

def lines (t : Table) : List String :=
  let ws := t.widths
  let border := rule ws "+" "-" "+" "+"
  let head := match t.header with
    | some cells => rowLines ws cells ++ [rule ws "+" "=" "=" "+"]
    | none => []
  border :: (head ++ body ws t.rows ++ [border])

def text (t : Table) : String := "\n".intercalate t.lines

instance : TableLibrary Table := ⟨{}, setHeader, addRow, text⟩

@[simp] theorem library_text (t : Table) : TableLibrary.text t = t.text := rfl

end Table

end MeterPolling
