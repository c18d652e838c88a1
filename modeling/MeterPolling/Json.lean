import MeterPolling.Text.Hex

namespace MeterPolling

inductive Json where
  | null
  | bool (b : Bool)
  | int (n : Int)
  /-- A number with a fraction or an exponent, as it is written. -/
  | decimal (text : String)
  | string (s : String)
  | array (items : List Json)
  | object (members : List (String × Json))
  deriving Inhabited

namespace Json

def stringChar (c : Char) : List Char :=
  if c = '"' then ['\\', '"']
  else if c = '\\' then ['\\', '\\']
  else if c = '\x08' then ['\\', 'b']
  else if c = '\x0C' then ['\\', 'f']
  else if c = '\n' then ['\\', 'n']
  else if c = '\r' then ['\\', 'r']
  else if c = '\t' then ['\\', 't']
  else if c.toNat < 0x20 then '\\' :: 'u' :: Text.hexPadded false 4 c.toNat
  else [c]

def stringChars (cs : List Char) : List Char := '"' :: (cs.flatMap stringChar ++ ['"'])

mutual

def chars : Json → List Char
  | .null => ['n', 'u', 'l', 'l']
  | .bool true => ['t', 'r', 'u', 'e']
  | .bool false => ['f', 'a', 'l', 's', 'e']
  | .int n => (toString n).toList
  | .decimal text => text.toList
  | .string s => stringChars s.toList
  | .array items => '[' :: itemChars true items ++ [']']
  | .object members => '{' :: memberChars true members ++ ['}']

/-- The items with commas between them; `first` says that none stands before. -/
def itemChars (first : Bool) : List Json → List Char
  | [] => []
  | item :: rest => (if first then [] else [',']) ++ chars item ++ itemChars false rest

def memberChars (first : Bool) : List (String × Json) → List Char
  | [] => []
  | (name, value) :: rest =>
    (if first then [] else [',']) ++ stringChars name.toList ++ ':' :: chars value ++ memberChars false rest

end

def text (j : Json) : String := String.ofList j.chars

end Json

end MeterPolling
