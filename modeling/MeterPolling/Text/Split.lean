namespace MeterPolling.Text

def cut (separator : Char) : List Char → List Char × List (List Char)
  | [] => ([], [])
  | c :: cs =>
    let (part, more) := cut separator cs
    if c = separator then ([], part :: more) else (c :: part, more)

/-- The parts of a text between its separators; there is at least one. -/
def split (separator : Char) (cs : List Char) : List (List Char) :=
  let (part, more) := cut separator cs
  part :: more

end MeterPolling.Text
