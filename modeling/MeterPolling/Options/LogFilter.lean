import MeterPolling.Options.Integer

namespace MeterPolling.Options

inductive LogFilterError where
  | manyEquals
  | manyFieldLists
  | openFieldList
  | level
  deriving DecidableEq, Repr

def LogFilterError.message : LogFilterError → String
  | .manyEquals => "invalid filter directive: too many '=' in filter directive, expected 0 or 1"
  | .manyFieldLists => "invalid filter directive: too many '[\x7b' in filter directive, expected 0 or 1"
  | .openFieldList => "invalid filter directive: expected fields list to end with '\x7d]'"
  | .level =>
    "error parsing level filter: expected one of \"off\", \"error\", \"warn\", \"info\", \"debug\", " ++
      "\"trace\", or a number 0-5"

def splitAt (separator : Char) : List Char → List Char × List (List Char)
  | [] => ([], [])
  | c :: cs =>
    let (part, more) := splitAt separator cs
    if c = separator then ([], part :: more) else (c :: part, more)

def parts (separator : Char) (cs : List Char) : List (List Char) :=
  let (first, more) := splitAt separator cs
  first :: more

/-- Levels are named in any case, or numbered; the empty name is one too. -/
def isLevel (cs : List Char) : Bool :=
  (match parseUnsigned (String.ofList cs) with
    | .ok n => n ≤ 5
    | .error _ => false) ||
  ["", "off", "error", "warn", "info", "debug", "trace"].contains
    (String.ofList (cs.map Char.toLower))

def fieldLists : List Char → Nat
  | '[' :: '{' :: cs => fieldLists cs + 1
  | _ :: cs => fieldLists cs
  | [] => 0

def checkTarget (cs : List Char) : Except LogFilterError Unit :=
  match fieldLists cs with
  | 0 => .ok ()
  | 1 => if cs.reverse.take 2 = [']', '}'] then .ok () else .error .openFieldList
  | _ => .error .manyFieldLists

/-- A directive without an equals sign is a level or else a target, so it is always valid. -/
def checkDirective (cs : List Char) : Except LogFilterError Unit :=
  match parts '=' cs with
  | [target, level] => do
    checkTarget target
    if isLevel level then .ok () else .error .level
  | _ :: _ :: _ :: _ => .error .manyEquals
  | _ => .ok ()

/--
A filter is a list of directives with commas between them: a level, a target, or a target with a level behind an
equals sign.
-/
def checkLogFilter (s : String) : Except LogFilterError Unit :=
  (parts ',' s.toList).forM checkDirective

end MeterPolling.Options
