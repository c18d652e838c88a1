import MeterPolling.Json
import MeterPolling.Output.Csv
import MeterPolling.Output.Sink
import MeterPolling.Output.Table
import MeterPolling.Text.Quoted

namespace MeterPolling

inductive OutputFormat where
  | table
  | jsonl
  | csv
  deriving DecidableEq, Repr

structure OutputSettings where
  path : Option String := none
  format : OutputFormat := .table
  deriving DecidableEq, Repr

structure Entry where
  row : List String
  record : Json

/-- A text to be written, and whether it is the record itself. -/
structure Piece where
  text : String
  ofRecord : Bool := false
  deriving DecidableEq, Repr

inductive OutputDefect where
  | lateHeaders
  | scratchFull
  deriving DecidableEq, Repr

def OutputDefect.message : OutputDefect → String
  | .lateHeaders => "table headers for csv must be written very first!"
  | .scratchFull => "something wrong with csv output"

inductive OutputError where
  | openFile (cause : OsError) (path : String)
  | writeFile (cause : OsError) (path : String)
  | writeTerminal (cause : OsError)
  | serialize (cause : OsError)
  deriving DecidableEq, Repr

def OutputError.chain : OutputError → List String
  | .openFile cause path =>
    ["could not open the specified output file at " ++ Text.quotedPath path, cause.message]
  | .writeFile cause path =>
    ["could not write data to the output file at " ++ Text.quotedPath path, cause.message]
  | .writeTerminal cause => ["could not write data to the terminal", cause.message]
  | .serialize cause => ["could not serialize a record to JSON", cause.message]

inductive OutputFailure where
  | error (cause : OutputError)
  | defect (cause : OutputDefect)
  deriving DecidableEq, Repr

def OutputFailure.chain : OutputFailure → List String
  | .error cause => cause.chain
  | .defect cause => [cause.message]

/-- A misuse breaks the program off. -/
def OutputFailure.break? : OutputFailure → Option String
  | .error _ => none
  | .defect cause => some cause.message

structure Emission where
  pieces : List Piece := []
  defect : Option OutputDefect := none
  deriving DecidableEq, Repr

inductive Formatter (τ : Type := Table) where
  /-- The rows to be drawn next are counted, and the headers are remembered for the table after them. -/
  | table (pending : τ) (headers : List String) (count : Nat)
  | jsonl
  /-- Headers are no longer welcome once something has been written. -/
  | csv (started : Bool)
  deriving DecidableEq, Repr

namespace Formatter

variable {τ : Type} [TableLibrary τ]

def new : OutputFormat → Formatter τ
  | .table => .table TableLibrary.new [] 0
  | .jsonl => .jsonl
  | .csv => .csv false

def csvRow (cells : List String) : Emission :=
  let row := cells.map String.toList
  let (fitting, all) := Csv.fittingPieces (Csv.scratchSize row) (Csv.pieces row)
  ⟨fitting.map fun piece => ⟨String.ofList piece, false⟩, if all then none else some .scratchFull⟩

/-- Sets the headers. Only comma separated values write them at once; JSON lines have none. -/
def headers (f : Formatter τ) (cells : List String) : Emission × Formatter τ :=
  match f with
  | .table pending _ count => ({}, .table (TableLibrary.setHeader pending cells) cells count)
  | .jsonl => ({}, .jsonl)
  | .csv true => ({ defect := some .lateHeaders }, .csv true)
  | .csv false => (csvRow cells, .csv true)

def result (f : Formatter τ) (e : Entry) : Emission × Formatter τ :=
  match f with
  | .table pending headers count => ({}, .table (TableLibrary.addRow pending e.row) headers (count + 1))
  | .jsonl => ({ pieces := [⟨e.record.text, true⟩, ⟨"\n", false⟩] }, .jsonl)
  | .csv _ => (csvRow e.row, .csv true)

/-- Draws the rows that a table has taken. The next table starts with the same headers. -/
def flush (f : Formatter τ) : Emission × Formatter τ :=
  match f with
  | .table pending headers count =>
    if 0 < count then
      ({ pieces := [⟨TableLibrary.text pending ++ "\n", false⟩] },
        .table (TableLibrary.setHeader TableLibrary.new headers) headers 0)
    else ({}, f)
  | f => ({}, f)

end Formatter

def Piece.error (p : Piece) (path : Option String) (cause : OsError) : OutputError :=
  if p.ofRecord then .serialize cause
  else
    match path with
    | some path => .writeFile cause path
    | none => .writeTerminal cause

variable {m : Type → Type} [Monad m]

/-- Writes pieces in order until one is refused. -/
def deliverPieces (sink : Sink m) (path : Option String) : List Piece → m (Except OutputFailure Unit)
  | [] => return .ok ()
  | p :: rest => do
    match ← sink.write p.text with
    | .error cause => return .error (.error (p.error path cause))
    | .ok () => deliverPieces sink path rest

def Emission.deliver (e : Emission) (sink : Sink m) (path : Option String) :
    m (Except OutputFailure Unit) := do
  match ← deliverPieces sink path e.pieces with
  | .error failure => return .error failure
  | .ok () =>
    match e.defect with
    | some d => return .error (.defect d)
    | none => return .ok ()

structure Output (m : Type → Type) where
  sink : Sink m
  path : Option String

namespace Output

def start (files : Files m) (settings : OutputSettings) : m (Except OutputFailure (Output m)) :=
  match settings.path with
  | none => return .ok ⟨files.terminal, none⟩
  | some path => do
    match ← files.openFile path with
    | .error cause => return .error (.error (.openFile cause path))
    | .ok sink => return .ok ⟨sink, some path⟩

def lift {σ : Type} (o : Output m) : Output (StateT σ m) := ⟨o.sink.lift, o.path⟩

variable {τ : Type} [TableLibrary τ]

def headers (o : Output m) (cells : List String) : StateT (Formatter τ) m (Except OutputFailure Unit) := do
  let emission ← modifyGet (·.headers cells)
  emission.deliver o.lift.sink o.path

def result (o : Output m) (e : Entry) : StateT (Formatter τ) m (Except OutputFailure Unit) := do
  let emission ← modifyGet (·.result e)
  emission.deliver o.lift.sink o.path

def results (o : Output m) : List Entry → StateT (Formatter τ) m (Except OutputFailure Unit)
  | [] => return .ok ()
  | e :: rest => do
    match ← o.result e with
    | .error failure => return .error failure
    | .ok () => o.results rest

def flush (o : Output m) : StateT (Formatter τ) m (Except OutputFailure Unit) := do
  let emission ← modifyGet Formatter.flush
  match ← emission.deliver o.lift.sink o.path with
  | .error failure => return .error failure
  | .ok () =>
    match ← o.lift.sink.flush with
    | .error cause => return .error (.error (Piece.error ⟨"", false⟩ o.path cause))
    | .ok () => return .ok ()

end Output

end MeterPolling
