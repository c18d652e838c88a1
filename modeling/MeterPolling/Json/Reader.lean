import MeterPolling.Json

namespace MeterPolling.Json

def isNumberChar (c : Char) : Bool :=
  c.isDigit || c = '-' || c = '+' || c = '.' || c = 'e' || c = 'E'

def isDigits (cs : List Char) : Bool := !cs.isEmpty && cs.all Char.isDigit

def isExponent : List Char → Bool
  | [] => false
  | mark :: rest =>
    let signed := rest.head? = some '+' || rest.head? = some '-'
    (mark = 'e' || mark = 'E') && isDigits (if signed then rest.tail else rest)

def isTail : List Char → Bool
  | '.' :: rest =>
    let exponent := rest.dropWhile Char.isDigit
    isDigits (rest.takeWhile Char.isDigit) && (exponent.isEmpty || isExponent exponent)
  | rest => isExponent rest

/-- A number. Its whole part has no zero in front. -/
def number? (token : List Char) : Option Json :=
  let negative := token.head? = some '-'
  let unsigned := if negative then token.tail else token
  let whole := unsigned.takeWhile Char.isDigit
  let tail := unsigned.dropWhile Char.isDigit
  if whole.isEmpty || (whole.head? = some '0' && 1 < whole.length) then none
  else if tail.isEmpty then
    let n : Int := Nat.ofDigitChars 10 whole 0
    some (.int (if negative then -n else n))
  else if isTail tail then some (.decimal (String.ofList token))
  else none

def escapes : List (Char × Char) :=
  [('"', '"'), ('\\', '\\'), ('/', '/'), ('b', '\x08'), ('f', '\x0C'), ('n', '\n'), ('r', '\r'), ('t', '\t')]

/-- The character with a number of four digits. Halves of a pair are not read. -/
def hexChar? (digits : List Char) : Option Char := do
  let values ← digits.mapM Text.hexValue?
  let n := values.foldl (fun n v => 16 * n + v) 0
  if n.isValidChar then some (Char.ofNat n) else none

/-- A character of a string, and what follows. Control characters only come escaped. -/
def readChar : List Char → Option (Char × List Char)
  | [] => none
  | '\\' :: mark :: rest =>
    if mark = 'u' then do
      if rest.length < 4 then none
      return (← hexChar? (rest.take 4), rest.drop 4)
    else do return (← escapes.lookup mark, rest)
  | c :: rest => if c.toNat < 0x20 || c = '\\' then none else some (c, rest)

def readString : Nat → List Char → Option (List Char × List Char)
  | 0, _ => none
  | fuel + 1, cs =>
    if cs.head? = some '"' then some ([], cs.tail)
    else do
      let (c, rest) ← readChar cs
      let (more, rest) ← readString fuel rest
      return (c :: more, rest)

mutual

def readValue : Nat → List Char → Option (Json × List Char)
  | 0, _ => none
  | fuel + 1, cs =>
    let token := cs.takeWhile isNumberChar
    if !token.isEmpty then (number? token).map fun j => (j, cs.dropWhile isNumberChar)
    else
      match cs with
      | 'n' :: 'u' :: 'l' :: 'l' :: rest => some (.null, rest)
      | 't' :: 'r' :: 'u' :: 'e' :: rest => some (.bool true, rest)
      | 'f' :: 'a' :: 'l' :: 's' :: 'e' :: rest => some (.bool false, rest)
      | '"' :: rest => (readString fuel rest).map fun (s, rest) => (.string (String.ofList s), rest)
      | '[' :: rest =>
        if rest.head? = some ']' then some (.array [], rest.tail)
        else (readItems fuel rest).map fun (items, rest) => (.array items, rest)
      | '{' :: rest =>
        if rest.head? = some '}' then some (.object [], rest.tail)
        else (readMembers fuel rest).map fun (members, rest) => (.object members, rest)
      | _ => none

def readItems : Nat → List Char → Option (List Json × List Char)
  | 0, _ => none
  | fuel + 1, cs => do
    let (item, rest) ← readValue fuel cs
    match rest with
    | ']' :: rest => return ([item], rest)
    | ',' :: rest =>
      let (items, rest) ← readItems fuel rest
      return (item :: items, rest)
    | _ => none

def readMembers : Nat → List Char → Option (List (String × Json) × List Char)
  | 0, _ => none
  | fuel + 1, cs =>
    match cs with
    | '"' :: rest => do
      let (name, rest) ← readString fuel rest
      match rest with
      | ':' :: rest =>
        let (value, rest) ← readValue fuel rest
        let member := (String.ofList name, value)
        match rest with
        | '}' :: rest => return ([member], rest)
        | ',' :: rest =>
          let (members, rest) ← readMembers fuel rest
          return (member :: members, rest)
        | _ => none
      | _ => none
    | _ => none

end

/-- The value that the text is. Every level and every item takes a character, so that the fuel never runs out. -/
def read? (text : List Char) : Option Json :=
  match readValue text.length text with
  | some (j, []) => some j
  | _ => none

end MeterPolling.Json
