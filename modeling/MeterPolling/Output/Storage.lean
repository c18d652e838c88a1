import MeterPolling.Output.Sink
import MeterPolling.Text.Split

namespace MeterPolling

inductive Place where
  | file (x : Medium)
  | terminal
  deriving DecidableEq, Repr

structure Storage where
  terminal : Medium := { holds := some Medium.terminalHolds }
  opened : List (String × Place) := []
  place : String → Except OsError Place := fun _ => .ok (.file {})

/-- What there is besides files. Directories and devices are named by the names on the way from the root. -/
structure FileTree where
  directories : List (List String)
  devices : List (List String × Place)
  current : List String

namespace FileTree

def pathLimit : Nat := 4096
def nameLimit : Nat := 255

/-- Goes down from a directory. Every name on the way must be that of a directory. -/
def walk (t : FileTree) (start : List String) : List String → Except OsError (List String)
  | [] => .ok start
  | "" :: rest | "." :: rest => t.walk start rest
  | ".." :: rest => t.walk start.dropLast rest
  | name :: rest =>
    let path := start ++ [name]
    if nameLimit < name.utf8ByteSize then .error .nameTooLong
    else if path ∈ t.directories then t.walk path rest
    else if (t.devices.lookup path).isSome then .error .notDirectory
    else .error .notFound

/--
Where a path leads when it is opened for writing. A name that is not there yet becomes that of a file, but a
slash behind a name asks for a directory, which cannot be written.
-/
def place (t : FileTree) (path : String) : Except OsError Place :=
  if pathLimit ≤ path.utf8ByteSize then .error .nameTooLong
  else do
    let names := (Text.split '/' path.toList).map String.ofList
    let backwards := names.reverse.dropWhile (· = "")
    let start := if path.startsWith "/" then [] else t.current
    let directory ← t.walk start backwards.tail.reverse
    let name := backwards.headD "."
    let path := directory ++ [name]
    if names.getLast? = some "" ∨ name = "." ∨ name = ".." then throw .directory
    if nameLimit < name.utf8ByteSize then throw .nameTooLong
    if path ∈ t.directories then throw .directory
    return (t.devices.lookup path).getD (.file {})

end FileTree

namespace Storage

def openFile (path : String) (s : Storage) : Except OsError Unit × Storage :=
  match s.place path with
  | .error e => (.error e, s)
  | .ok place => (.ok (), { s with opened := (path, place) :: s.opened.filter (·.1 ≠ path) })

def contents (s : Storage) (path : String) : String :=
  match s.opened.lookup path with
  | some (.file x) => x.written
  | _ => ""

def onTerminal {α : Type} (act : Medium → α × Medium) (s : Storage) : α × Storage :=
  let (a, terminal) := act s.terminal
  (a, { s with terminal })

/-- Runs an operation of a medium on what has been opened. The terminal then holds back nothing. -/
def onFile {α : Type} (path : String) (act : Medium → α × Medium) (s : Storage) : α × Storage :=
  match s.opened.lookup path with
  | some .terminal =>
    let (a, terminal) := act { s.terminal with holds := none }
    (a, { s with terminal := { terminal with holds := s.terminal.holds } })
  | place =>
    let (a, x) := act (match place with
      | some (.file x) => x
      | _ => {})
    (a, { s with opened := (path, .file x) :: s.opened.filter (·.1 ≠ path) })

variable {m : Type → Type} [Monad m]

def files : Files (StateT Storage m) where
  terminal := ⟨fun text => modifyGet (onTerminal (·.write text)), modifyGet (onTerminal Medium.flush)⟩
  openFile path := do
    let opened ← modifyGet (openFile path)
    return opened.map fun _ =>
      ⟨fun text => modifyGet (onFile path (·.write text)), modifyGet (onFile path Medium.flush)⟩

end Storage

end MeterPolling
