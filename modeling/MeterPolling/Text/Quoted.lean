import MeterPolling.Text.Hex
import MeterPolling.Text.Printable

namespace MeterPolling.Text

/-- Whether the character joins the one before it. The half-width sound marks stand on their own. -/
def joins (c : Char) : Bool := isGraphemeExtend c && c != 'ﾞ' && c != 'ﾟ'

def quotedChar (c : Char) : List Char :=
  if c = '"' then ['\\', '"']
  else if c = '\\' then ['\\', '\\']
  else if c = '\n' then ['\\', 'n']
  else if c = '\r' then ['\\', 'r']
  else if c = '\t' then ['\\', 't']
  else if c = '\x00' then ['\\', '0']
  else if joins c || !isPrintable c then
    '\\' :: 'u' :: '{' :: (hexPadded false 1 c.toNat ++ ['}'])
  else [c]

def quotedChars (cs : List Char) : List Char := '"' :: (cs.flatMap quotedChar ++ ['"'])

def quoted (s : String) : String := String.ofList (quotedChars s.toList)

/-- The name of a file: as other text, but single quotes get a backslash too. -/
def quotedPath (s : String) : String :=
  String.ofList ('"' :: (s.toList.flatMap (fun c => if c = '\'' then ['\\', '\''] else quotedChar c) ++ ['"']))

end MeterPolling.Text
