namespace MeterPolling.Text

def isPadding (c : Char) : Bool :=
  c = '\x00' || c = ' ' || c = '\t' || c = '\n' || c = '\x0C' || c = '\r'

def trimPadding (cs : List Char) : List Char :=
  (cs.reverse.dropWhile isPadding).reverse

end MeterPolling.Text
