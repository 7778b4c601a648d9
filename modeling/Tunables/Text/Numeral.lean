import Tunables.Binary64
import Tunables.Text.Blank
import Tunables.Text.DecimalDigit

/-!
# Numbers written as text

A written number has an optional sign and then digits with an optional point
and an optional exponent, or the name of an infinity or of not-a-number in any
case.  A single underscore may stand between two digits.  Nothing with a surrogate is a
number.  Two readers share this grammar and differ in the blanks they drop and the digits
they know.
-/

namespace Tunables.Text

/-- Drops the underscores of a number.  Each must stand between two digits;
`afterDigit` tells whether the character before was one. -/
def dropUnderscores? (afterDigit : Bool) : List Char → Option (List Char)
  | [] => some []
  | c :: rest =>
      if c == '_' then
        if afterDigit && rest.head?.any isPlainDigit then dropUnderscores? false rest
        else none
      else (dropUnderscores? (isPlainDigit c) rest).map (c :: ·)

def takeDigits (text : List Char) : List Char × List Char :=
  (text.takeWhile isPlainDigit, text.dropWhile isPlainDigit)

/-- Splits an optional sign off; the answer tells whether it is a minus. -/
def takeSign : List Char → Bool × List Char
  | '-' :: rest => (true, rest)
  | '+' :: rest => (false, rest)
  | rest => (false, rest)

/-- Reads the exponent that ends a number, `0` when nothing is left. -/
def exponentValue? : List Char → Option Int
  | [] => some 0
  | c :: rest =>
      if c == 'e' || c == 'E' then
        let (negative, unsigned) := takeSign rest
        let (digits, remaining) := takeDigits unsigned
        if digits.isEmpty || !remaining.isEmpty then none
        else
          let value : Int := plainDigitsValue digits
          some (if negative then -value else value)
      else none

/-- Splits the fraction off the digits that follow a point. -/
def takeFraction : List Char → List Char × List Char
  | '.' :: rest => takeDigits rest
  | rest => ([], rest)

def magnitudeValue? (negative : Bool) (text : List Char) : Option Binary64 :=
  let (integral, afterIntegral) := takeDigits text
  let (fraction, afterFraction) := takeFraction afterIntegral
  if integral.isEmpty && fraction.isEmpty then none
  else
    (exponentValue? afterFraction).map fun exponent =>
      Binary64.ofDecimal negative (plainDigitsValue (integral ++ fraction))
        (exponent - fraction.length)

/-- Reads a number without underscores that fills the whole text. -/
def signedValue? (text : List Char) : Option Binary64 :=
  let (negative, unsigned) := takeSign text
  match String.ofList (unsigned.map Char.toLower) with
  | "inf" => some (.infinite negative)
  | "infinity" => some (.infinite negative)
  | "nan" => some .nan
  | _ => magnitudeValue? negative unsigned

/-- Reads a number that fills the whole text. -/
def numeralValue? (text : List Char) : Option Binary64 :=
  (dropUnderscores? false text).bind signedValue?

/-- The character that a text outside ASCII shows in place of `c`: a plain
space for a blank, a plain digit for a digit of any script. -/
def plainCounterpart (c : Char) : Char :=
  if c.toNat < 128 then c
  else if isBlank c then ' '
  else
    match digitValue? c with
    | some value => Char.ofNat ('0'.toNat + value)
    | none => c

/-- Reads a number in any script, with plain blanks around it.  The separators
of records and fields are not among those blanks. -/
def readNumeral? (text : Text) : Option Binary64 :=
  text.chars?.bind fun characters =>
    numeralValue? (trimWhere isPlainSpace (characters.map plainCounterpart))

/-- Reads a number written in ASCII, with white space around it. -/
def readPlainNumeral? (text : Text) : Option Binary64 :=
  text.chars?.bind fun characters =>
    let body := trimWhere isWhiteSpace characters
    if body.all fun c => c.toNat < 128 then numeralValue? body else none

end Tunables.Text
