/-!
# Line ends

A line ends with a line feed, a carriage return, or both.  A file that is read
as text has line feeds only.
-/

namespace Tunables.Text

def isLineEnd (c : Char) : Bool :=
  c == '\n' || c == '\r'

/-- Writes every line end as a line feed. -/
def unifyLineEnds : List Char → List Char
  | [] => []
  | '\r' :: '\n' :: rest => '\n' :: unifyLineEnds rest
  | '\r' :: rest => '\n' :: unifyLineEnds rest
  | c :: rest => c :: unifyLineEnds rest

end Tunables.Text
