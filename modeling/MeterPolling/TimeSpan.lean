import MeterPolling.Text.Blank

namespace MeterPolling

structure TimeSpan where
  nanoseconds : Nat
  deriving DecidableEq, Repr

namespace TimeSpan

def zero : TimeSpan := ⟨0⟩

def ofSeconds (seconds : Nat) : TimeSpan := ⟨seconds * 1000000000⟩

def ofMilliseconds (milliseconds : Nat) : TimeSpan := ⟨milliseconds * 1000000⟩

/-- A clock counts seconds in 63 bits; later times cannot be told. -/
def onClock (t : TimeSpan) : Bool := t.nanoseconds < 0x8000000000000000 * 1000000000

def longestPause : TimeSpan := ofSeconds (30 * 365 * 86400)

/-- When a pause ends that starts at `now`. One longer than the longest pause is cut to it. -/
def pauseEnd (now pause : TimeSpan) : TimeSpan :=
  ⟨now.nanoseconds + min pause.nanoseconds longestPause.nanoseconds⟩

/-- The seconds of a year of 365.25 days. -/
def yearSeconds : Nat := 31557600

/-- The seconds of a month of 30.44 days. -/
def monthSeconds : Nat := 2630016

def plural (n : Nat) (unit : String) : List String :=
  if n = 0 then [] else [toString n ++ unit ++ (if n = 1 then "" else "s")]

def part (n : Nat) (unit : String) : List String :=
  if n = 0 then [] else [toString n ++ unit]

def display (t : TimeSpan) : String :=
  let seconds := t.nanoseconds / 1000000000
  let nanos := t.nanoseconds % 1000000000
  let inYear := seconds % yearSeconds
  let inMonth := inYear % monthSeconds
  let inDay := inMonth % 86400
  let parts :=
    plural (seconds / yearSeconds) "year" ++ plural (inYear / monthSeconds) "month" ++
      plural (inMonth / 86400) "day" ++ part (inDay / 3600) "h" ++ part (inDay % 3600 / 60) "m" ++
      part (inDay % 60) "s" ++ part (nanos / 1000000) "ms" ++ part (nanos / 1000 % 1000) "us" ++
      part (nanos % 1000) "ns"
  if parts.isEmpty then "0s" else " ".intercalate parts

inductive ParseError where
  | empty
  | numberExpected (offset : Nat)
  | invalidCharacter (offset : Nat)
  | unitNeeded (number : Nat)
  | unknownUnit (unit : String)
  | unrepresentable
  /-- The seconds run over when a full second of nanoseconds is carried into them. -/
  | carry
  deriving DecidableEq, Repr

def ParseError.message : ParseError → String
  | .empty => "value was empty"
  | .numberExpected offset => s!"expected number at {offset}"
  | .invalidCharacter offset => s!"invalid character at {offset}"
  | .unitNeeded n => s!"time unit needed, for example {n}sec or {n}ms"
  | .unknownUnit unit =>
    s!"unknown time unit \"{unit}\", supported units: ns, us/µs, ms, sec, min, hours, days, weeks, " ++
      "months, years (and few variations)"
  | .unrepresentable =>
    "number is too large or cannot be represented without a lack of precision " ++
      "(values below 1ns are not supported)"
  | .carry => "overflow in Duration::new"

def wordLimit : Nat := 0x10000000000000000

def fits (n : Nat) : Except ParseError Nat := if n < wordLimit then .ok n else .error .unrepresentable

/-- How a unit counts: whole units in nanoseconds or seconds, and parts of one in either. -/
structure Scale where
  size : Nat
  wholeInSeconds : Bool
  fraction : Option (Nat × Bool)

def Scale.named? : String → Option Scale
  | "nanos" | "nsec" | "ns" => some ⟨1, false, none⟩
  | "usec" | "us" | "µs" => some ⟨1000, false, some (1000, false)⟩
  | "millis" | "msec" | "ms" => some ⟨1000000, false, some (1000000, false)⟩
  | "seconds" | "second" | "secs" | "sec" | "s" => some ⟨1, true, some (1000000000, false)⟩
  | "minutes" | "minute" | "min" | "mins" | "m" => some ⟨60, true, some (60000000000, false)⟩
  | "hours" | "hour" | "hrs" | "hr" | "h" => some ⟨3600, true, some (3600, true)⟩
  | "days" | "day" | "d" => some ⟨86400, true, some (86400, true)⟩
  | "weeks" | "week" | "wks" | "wk" | "w" => some ⟨604800, true, some (604800, true)⟩
  | "months" | "month" | "M" => some ⟨monthSeconds, true, some (monthSeconds, true)⟩
  | "years" | "year" | "yrs" | "yr" | "y" => some ⟨yearSeconds, true, some (yearSeconds, true)⟩
  | _ => none

/--
Adds `n` seconds or nanoseconds. Nanoseconds that make up just one second are carried last, and that the
seconds have no room for it is an error of its own.
-/
def add (t : TimeSpan) (inSeconds : Bool) (n : Nat) : Except ParseError TimeSpan := do
  let amount ← fits n
  let total := t.nanoseconds + amount * (if inSeconds then 1000000000 else 1)
  let nanos ← fits (t.nanoseconds % 1000000000 + (if inSeconds then 0 else amount))
  if total / 1000000000 < wordLimit then return ⟨total⟩
  else if nanos = 1000000000 ∧ total / 1000000000 = wordLimit then throw .carry
  else throw .unrepresentable

def addItem (t : TimeSpan) (n : Nat) (fraction : Option (Nat × Nat)) (unit : String) :
    Except ParseError TimeSpan := do
  if unit.isEmpty then throw (.unitNeeded n)
  let some scale := Scale.named? unit | throw (.unknownUnit unit)
  let t ← t.add scale.wholeInSeconds (n * scale.size)
  let some (numerator, denominator) := fraction | return t
  let some (size, inSeconds) := scale.fraction | throw .unrepresentable
  let product ← fits (numerator * size)
  if product % denominator = 0 then t.add inSeconds (product / denominator)
  else throw .unrepresentable

inductive Phase where
  | between (started : Bool) (mark : Nat)
  | whole (n : Nat)
  /-- After the point, with the digits so far over their power of ten and the place that an error names. -/
  | fraction (n numerator denominator mark : Nat)
  | unit (n : Nat) (fraction : Option (Nat × Nat)) (letters : List Char)

structure Reader where
  offset : Nat := 0
  total : TimeSpan := zero
  phase : Phase := .between false 0

def digit? (c : Char) : Option Nat :=
  if '0' ≤ c ∧ c ≤ '9' then some (c.toNat - 48) else none

def isUnitLetter (c : Char) : Bool :=
  ('a' ≤ c && c ≤ 'z') || ('A' ≤ c && c ≤ 'Z') || c = 'µ'

def Reader.advance (r : Reader) (c : Char) : Except ParseError (Phase × TimeSpan) :=
  match r.phase with
  | .between started mark =>
    match digit? c with
    | some d => .ok (.whole d, r.total)
    | none => if Text.isBlank c then .ok (.between started mark, r.total) else .error (.numberExpected mark)
  | .whole n =>
    match digit? c with
    | some d => do return (.whole (← fits (n * 10 + d)), r.total)
    | none =>
      if Text.isBlank c then .ok (.whole n, r.total)
      else if isUnitLetter c then .ok (.unit n none [c], r.total)
      else if c = '.' then .ok (.fraction n 0 1 r.offset, r.total)
      else .error (.invalidCharacter r.offset)
  | .fraction n numerator denominator mark =>
    let next := r.offset + c.utf8Size
    match digit? c with
    | some d => do return (.fraction n (numerator * 10 + d) (← fits (denominator * 10)) next, r.total)
    | none =>
      if Text.isBlank c then .ok (.fraction n numerator denominator next, r.total)
      else if isUnitLetter c ∧ denominator ≠ 1 then
        .ok (.unit n (some (numerator, denominator)) [c], r.total)
      else .error (.invalidCharacter mark)
  | .unit n fraction letters =>
    match digit? c with
    | some d => do return (.whole d, ← r.total.addItem n fraction (String.ofList letters.reverse))
    | none =>
      if Text.isBlank c then do
        let total ← r.total.addItem n fraction (String.ofList letters.reverse)
        return (.between true (r.offset + c.utf8Size), total)
      else if isUnitLetter c then .ok (.unit n fraction (c :: letters), r.total)
      else .error (.invalidCharacter r.offset)

def Reader.step (r : Reader) (c : Char) : Except ParseError Reader := do
  let (phase, total) ← r.advance c
  return ⟨r.offset + c.utf8Size, total, phase⟩

def Reader.finish (r : Reader) : Except ParseError TimeSpan :=
  match r.phase with
  | .between started _ => if started then .ok r.total else .error .empty
  | .whole n => .error (.unitNeeded n)
  | .fraction n _ denominator mark =>
    if denominator = 1 then .error (.invalidCharacter mark) else .error (.unitNeeded n)
  | .unit n fraction letters => r.total.addItem n fraction (String.ofList letters.reverse)

/-- Numbers with a unit each, such as `1h 30min` or `1.5s`; a single zero needs no unit. -/
def parse (s : String) : Except ParseError TimeSpan :=
  if s = "0" then .ok zero
  else do
    let reader ← s.toList.foldlM Reader.step {}
    reader.finish

end TimeSpan

end MeterPolling
