import Tunables.Json
import Tunables.Text.Encoding
import Tunables.Text.Numeral

/-!
# Reading JSON

The reader takes one value from the front of a row of code points and returns
the code points after it.  A fault is placed by the number of code points from
it to the end of the text, so the reader itself needs no position; the place in
the whole text is computed once at the end.

Beyond the standard the names of not-a-number and of the infinities are
numbers, and a whole number may have 4300 digits at most.
-/

namespace Tunables.Json

/-- What is wrong with a text. -/
inductive Flaw where
  | expectingValue
  | extraData
  | expectingComma
  | expectingColon
  | expectingKey
  | unterminatedString
  | controlCharacter
  | badEscape
  | badCodeUnit
  | byteOrderMark
  deriving DecidableEq, Repr

def Flaw.message : Flaw → String
  | .expectingValue => "Expecting value"
  | .extraData => "Extra data"
  | .expectingComma => "Expecting ',' delimiter"
  | .expectingColon => "Expecting ':' delimiter"
  | .expectingKey => "Expecting property name enclosed in double quotes"
  | .unterminatedString => "Unterminated string starting at"
  | .controlCharacter => "Invalid control character at"
  | .badEscape => "Invalid \\escape"
  | .badCodeUnit => "Invalid \\uXXXX escape"
  | .byteOrderMark => "Unexpected UTF-8 BOM (decode using utf-8-sig)"

/-- Why no value could be read: a flaw with the number of code points from it to
the end, or a whole number with too many digits. -/
inductive Fault where
  | flaw (kind : Flaw) (remaining : Nat)
  | integerTooLong (digits : Nat)
  deriving DecidableEq, Repr

/-- A reading of the front of a text. -/
abbrev Reading (α : Type) := Except Fault (α × List CodePoint)

/-- The fault that stands at the front of a text. -/
def faultAt {α : Type} (kind : Flaw) (text : List CodePoint) : Except Fault α :=
  .error (.flaw kind text.length)

/-- Whether a character may stand between the parts of a document. -/
def isSpacing (c : Char) : Bool :=
  c == ' ' || c == '\t' || c == '\r' || c == '\n'

def skipSpacing (text : List CodePoint) : List CodePoint :=
  text.dropWhile (CodePoint.isIn isSpacing)

/-- The character that a letter after a backslash stands for. -/
def simpleEscape? : Char → Option Char
  | '"' => some '"'
  | '\\' => some '\\'
  | '/' => some '/'
  | 'b' => some '\x08'
  | 'f' => some '\x0C'
  | 'n' => some '\n'
  | 'r' => some '\r'
  | 't' => some '\t'
  | _ => none

/-- The code unit that four digits in front write.  At least one code point has
to follow them. -/
def codeUnit? : List CodePoint → Option Nat
  | .char a :: .char b :: .char c :: .char d :: _ :: _ => Text.readHex [a, b, c, d]
  | _ => none

/-- Reads the code unit after `\u`, and a second one when both form a pair.
`text` starts after the `u`; the answer tells how many code points were used. -/
def readCodePoint (text : List CodePoint) : Except Fault (CodePoint × Nat) :=
  match codeUnit? text with
  | none => .error (.flaw .badCodeUnit (text.length + 1))
  | some unit =>
      match text.drop 4 with
      | .char '\\' :: .char 'u' :: second =>
          if Text.isHighSurrogate unit && 4 < second.length then
            match codeUnit? second with
            | none => .error (.flaw .badCodeUnit (second.length + 1))
            | some low =>
                if Text.isLowSurrogate low then .ok (.ofNat (Text.joinSurrogates unit low), 10)
                else .ok (.ofNat unit, 4)
          else .ok (.ofNat unit, 4)
      | _ => .ok (.ofNat unit, 4)

/-- Reads the code point that an escape stands for.  `text` starts after the
backslash; the answer tells how many code points were used. -/
def readEscape (text : List CodePoint) : Except Fault (CodePoint × Nat) :=
  match text with
  | [] => .error (.flaw .badEscape 1)
  | .char 'u' :: rest => (readCodePoint rest).map fun (c, used) => (c, used + 1)
  | c :: _ =>
      match c.char?.bind simpleEscape? with
      | some image => .ok (.char image, 1)
      | none => .error (.flaw .badEscape (text.length + 1))

/-- Reads the rest of a string.  `opening` is the number of code points from its
opening quote to the end of the text. -/
def readStringBody (opening : Nat) : List CodePoint → Reading (List CodePoint)
  | [] => .error (.flaw .unterminatedString opening)
  | c :: rest =>
      if c = .char '"' then .ok ([], rest)
      else if c = .char '\\' then
        if rest.isEmpty then .error (.flaw .unterminatedString opening)
        else
          match readEscape rest with
          | .error fault => .error fault
          | .ok (image, used) =>
              (readStringBody opening (rest.drop used)).map
                fun (codePoints, remaining) => (image :: codePoints, remaining)
      else if c.toNat < 0x20 then faultAt .controlCharacter (c :: rest)
      else
        (readStringBody opening rest).map
          fun (codePoints, remaining) => (c :: codePoints, remaining)
termination_by text => text.length
decreasing_by
  · simp only [List.length_drop, List.length_cons]; omega
  · simp only [List.length_cons]; omega

/-- Reads a string whose opening quote has been passed. -/
def readString (text : List CodePoint) : Reading Text :=
  (readStringBody (text.length + 1) text).map
    fun (codePoints, remaining) => (.ofList codePoints, remaining)

/-- The digits in front. -/
def takeDigits (text : List CodePoint) : List Char × List CodePoint :=
  let isDigit := CodePoint.isIn Text.isPlainDigit
  ((text.takeWhile isDigit).filterMap CodePoint.char?, text.dropWhile isDigit)

/-- The digits of a whole number in front: a single zero or digits that start
with another one. -/
def takeInteger : List CodePoint → List Char × List CodePoint
  | .char '0' :: rest => (['0'], rest)
  | text => takeDigits text

/-- The digits after a point in front; without a digit the point stays. -/
def takeFraction : List CodePoint → List Char × List CodePoint
  | .char '.' :: rest =>
      let (digits, after) := takeDigits rest
      if digits.isEmpty then ([], .char '.' :: rest) else (digits, after)
  | text => ([], text)

def takeMinus : List CodePoint → Bool × List CodePoint
  | .char '-' :: rest => (true, rest)
  | text => (false, text)

/-- Splits an optional sign off; the answer tells whether it is a minus. -/
def takeSign : List CodePoint → Bool × List CodePoint
  | .char '+' :: rest => (false, rest)
  | text => takeMinus text

/-- The exponent in front; without a digit nothing is taken. -/
def takeExponent : List CodePoint → Option Int × List CodePoint
  | [] => (none, [])
  | c :: rest =>
      if c = .char 'e' ∨ c = .char 'E' then
        let (negative, unsigned) := takeSign rest
        let (digits, after) := takeDigits unsigned
        if digits.isEmpty then (none, c :: rest)
        else
          let value : Int := Text.plainDigitsValue digits
          (some (if negative then -value else value), after)
      else (none, c :: rest)

/-- The greatest number of digits of a whole number. -/
def integerDigitLimit : Nat := 4300

def readNumber (text : List CodePoint) : Reading Json :=
  let (negative, unsigned) := takeMinus text
  let (integral, afterIntegral) := takeInteger unsigned
  if integral.isEmpty then faultAt .expectingValue text
  else
    let (fraction, afterFraction) := takeFraction afterIntegral
    let (exponent, rest) := takeExponent afterFraction
    if fraction.isEmpty && exponent.isNone then
      if integerDigitLimit < integral.length then .error (.integerTooLong integral.length)
      else
        let value : Int := Text.plainDigitsValue integral
        .ok (.int (if negative then -value else value), rest)
    else
      .ok (.real (Binary64.ofDecimal negative (Text.plainDigitsValue (integral ++ fraction))
        (exponent.getD 0 - fraction.length)), rest)

/-- The values that are written as words. -/
def wordValues : List (Text × Json) :=
  [("null", .null), ("true", .bool true), ("false", .bool false), ("NaN", .real .nan),
    ("Infinity", .real (.infinite false)), ("-Infinity", .real (.infinite true))]

def readAtom (text : List CodePoint) : Reading Json :=
  match wordValues.find? fun entry => entry.1.toList.isPrefixOf text with
  | some (word, value) => .ok (value, text.drop word.toList.length)
  | none => readNumber text

mutual

def readValue : (fuel : Nat) → List CodePoint → Reading Json
  | 0, text => faultAt .expectingValue text
  | fuel + 1, text =>
      match text with
      | .char '"' :: rest => (readString rest).map fun (value, after) => (.string value, after)
      | .char '[' :: rest =>
          match skipSpacing rest with
          | .char ']' :: after => .ok (.array [], after)
          | inner => (readItems fuel inner).map fun (items, after) => (.array items, after)
      | .char '{' :: rest =>
          match skipSpacing rest with
          | .char '}' :: after => .ok (.object [], after)
          | inner =>
              (readEntries fuel inner).map
                fun (entries, after) => (.object (Members.ofEntries entries), after)
      | _ => readAtom text

/-- Reads the items of an array up to its end. -/
def readItems : (fuel : Nat) → List CodePoint → Reading (List Json)
  | 0, text => faultAt .expectingValue text
  | fuel + 1, text =>
      match readValue fuel text with
      | .error fault => .error fault
      | .ok (item, afterItem) =>
          match skipSpacing afterItem with
          | .char ']' :: after => .ok ([item], after)
          | .char ',' :: after =>
              (readItems fuel (skipSpacing after)).map
                fun (items, rest) => (item :: items, rest)
          | rest => faultAt .expectingComma rest

/-- Reads the entries of an object up to its end. -/
def readEntries : (fuel : Nat) → List CodePoint → Reading (List (Text × Json))
  | 0, text => faultAt .expectingKey text
  | fuel + 1, text =>
      match text with
      | .char '"' :: afterQuote =>
          match readString afterQuote with
          | .error fault => .error fault
          | .ok (key, afterKey) =>
              match skipSpacing afterKey with
              | .char ':' :: afterColon =>
                  match readValue fuel (skipSpacing afterColon) with
                  | .error fault => .error fault
                  | .ok (value, afterValue) =>
                      match skipSpacing afterValue with
                      | .char '}' :: after => .ok ([(key, value)], after)
                      | .char ',' :: after =>
                          (readEntries fuel (skipSpacing after)).map
                            fun (entries, rest) => ((key, value) :: entries, rest)
                      | rest => faultAt .expectingComma rest
              | rest => faultAt .expectingColon rest
      | _ => faultAt .expectingKey text

end

/-- Reads a text that holds one value and nothing else but spacing. -/
def readDocument (text : List CodePoint) : Except Fault Json :=
  match readValue (2 * text.length + 2) (skipSpacing text) with
  | .error fault => .error fault
  | .ok (value, rest) =>
      match skipSpacing rest with
      | [] => .ok value
      | extra => faultAt .extraData extra

/-- Why a document gives no value. -/
inductive ReadError where
  | malformed (kind : Flaw) (line column position : Nat)
  | integerTooLong (digits : Nat)
  | undecodable (cause : Text.DecodeError)
  | notText (typeName : String)
  deriving DecidableEq, Repr

def ReadError.message : ReadError → String
  | .malformed kind line column position =>
      kind.message ++ ": line " ++ toString line ++ " column " ++ toString column ++
        " (char " ++ toString position ++ ")"
  | .integerTooLong digits =>
      "Exceeds the limit (4300 digits) for integer string conversion: value has " ++
        toString digits ++ " digits; use sys.set_int_max_str_digits() to increase the limit"
  | .undecodable cause => cause.message
  | .notText typeName => "the JSON object must be str, bytes or bytearray, not " ++ typeName

/-- Places a fault in the text it was found in. -/
def Fault.locate (text : List CodePoint) : Fault → ReadError
  | .flaw kind remaining =>
      let passed := text.take (text.length - remaining)
      let line := passed.count (.char '\n') + 1
      let column := (passed.reverse.takeWhile (· != .char '\n')).length + 1
      .malformed kind line column passed.length
  | .integerTooLong digits => .integerTooLong digits

/-- Reads the value of a decoded text. -/
def readCodePoints (text : List CodePoint) : Except ReadError Json :=
  (readDocument text).mapError (Fault.locate text)

/-- Reads the value of a text.  A byte order mark does not belong in one. -/
def read (text : Text) : Except ReadError Json :=
  match text.toList with
  | .char '\uFEFF' :: _ => .error (.malformed .byteOrderMark 1 1 0)
  | codePoints => readCodePoints codePoints

/-- Reads the value of a document in bytes. -/
def readBytes (bytes : Text.Bytes) : Except ReadError Json :=
  match (Text.EncodedDocument.ofBytes bytes).text with
  | .error cause => .error (.undecodable cause)
  | .ok codePoints => readCodePoints codePoints

end Tunables.Json
