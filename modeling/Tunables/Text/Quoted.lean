import Tunables.Text
import Tunables.Text.Hex
import Tunables.Text.Printable

/-!
# Quoted text

A text shown inside a message stands in single quotes, or in double quotes
when it holds a single quote and no double one.  The quote in use, the
backslash and every code point that is not printable are escaped.
-/

namespace Tunables.Text

def enclosingQuote (text : List CodePoint) : Char :=
  if text.contains (.char '\'') && !text.contains (.char '"') then '"' else '\''

/-- The escape of a code point that is not printable. -/
def unprintableEscape (c : CodePoint) : List Char :=
  if c == .char '\t' then ['\\', 't']
  else if c == .char '\n' then ['\\', 'n']
  else if c == .char '\r' then ['\\', 'r']
  else if c.toNat < 0x100 then '\\' :: 'x' :: hexDigits 2 c.toNat
  else if c.toNat < 0x10000 then '\\' :: 'u' :: hexDigits 4 c.toNat
  else '\\' :: 'U' :: hexDigits 8 c.toNat

/-- A code point as it stands between quotes. -/
def quotedPoint (quote : Char) (c : CodePoint) : List Char :=
  match c with
  | .char c =>
      if c == quote || c == '\\' then ['\\', c]
      else if isPrintable c then [c]
      else unprintableEscape c
  | surrogate => unprintableEscape surrogate

/-- A text in quotes, which has no surrogates. -/
def quoted (text : Text) : String :=
  let quote := enclosingQuote text.toList
  String.ofList (quote :: text.toList.flatMap (quotedPoint quote) ++ [quote])

end Tunables.Text
