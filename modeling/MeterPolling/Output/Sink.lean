import MeterPolling.Transport

namespace MeterPolling

structure Sink (m : Type → Type) where
  write : String → m (Except OsError Unit)
  flush : m (Except OsError Unit)

def Sink.lift {m : Type → Type} [Monad m] {σ : Type} (s : Sink m) : Sink (StateT σ m) where
  write text := StateT.lift (s.write text)
  flush := StateT.lift s.flush

structure Files (m : Type → Type) where
  terminal : Sink m
  openFile : String → m (Except OsError (Sink m))

def Files.lift {m : Type → Type} [Monad m] {σ : Type} (f : Files m) : Files (StateT σ m) where
  terminal := f.terminal.lift
  openFile path := do
    let opened ← StateT.lift (f.openFile path)
    return opened.map Sink.lift

/-- A file, or a terminal that holds back an unfinished line. -/
structure Medium where
  fault : Option OsError := none
  /-- How many bytes of an unfinished line are held back; a file holds back none. -/
  holds : Option Nat := none
  written : String := ""
  held : String := ""
  deriving DecidableEq, Repr

namespace Medium

def terminalHolds : Nat := 1024

/-- Puts a text on the medium; an empty text asks nothing of it. -/
def put (x : Medium) (text : String) : Except OsError Unit × Medium :=
  if text.isEmpty then (.ok (), x)
  else
    match x.fault with
    | some e => (.error e, x)
    | none => (.ok (), { x with written := x.written ++ text })

def splitLastLine (text : String) : String × String :=
  let backwards := text.toList.reverse
  let rest := (backwards.takeWhile (· ≠ '\n')).reverse
  let finished := (backwards.dropWhile (· ≠ '\n')).reverse
  (String.ofList finished, String.ofList rest)

/-- What is to be put on a medium that holds back unfinished lines, and what it then holds. -/
def release (limit : Nat) (held text : String) : String × String :=
  let (finished, rest) := splitLastLine text
  if !finished.isEmpty then (held ++ finished, rest)
  else if held.utf8ByteSize + text.utf8ByteSize ≤ limit then ("", held ++ text)
  else (held ++ text, "")

def write (x : Medium) (text : String) : Except OsError Unit × Medium :=
  match x.holds with
  | none => x.put text
  | some limit =>
    let (now, later) := release limit x.held text
    match { x with held := "" }.put now with
    | (.ok (), x) => (.ok (), { x with held := later })
    | (.error e, x) => (.error e, x)

def flush (x : Medium) : Except OsError Unit × Medium :=
  { x with held := "" }.put x.held

def sink : Sink (StateM Medium) where
  write text := fun x => x.write text
  flush := fun x => x.flush

end Medium

end MeterPolling
