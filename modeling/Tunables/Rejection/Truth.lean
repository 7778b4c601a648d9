import Tunables.Rejection

/-!
# Truth values in fields

A field for a truth value also takes the numbers zero and one and a few words
in any case.
-/

namespace Tunables

def falseWords : List String :=
  ["0", "off", "f", "false", "n", "no"]

def trueWords : List String :=
  ["1", "on", "t", "true", "y", "yes"]

/-- The truth value of a word; only ASCII letters are the same in both cases.  A word with
a surrogate cannot even be looked at. -/
def truthOfWord (word : Text) : Except FieldErrorKind Bool :=
  match word.chars? with
  | none => .error .stringUnicode
  | some characters =>
      let plain := String.ofList (characters.map Char.toLower)
      if trueWords.contains plain then .ok true
      else if falseWords.contains plain then .ok false
      else .error .boolParsing

/-- The truth value of a whole number.  Numbers beyond 64 bits are not even
looked at. -/
def truthOfInt (value : Int) : Except FieldErrorKind Bool :=
  if value = 0 then .ok false
  else if value = 1 then .ok true
  else if -Int.pow 2 63 ≤ value ∧ value < Int.pow 2 63 then .error .boolParsing
  else .error .boolType

/-- The truth value of a JSON value. -/
def truthOfJson : Json → Except FieldErrorKind Bool
  | .bool value => .ok value
  | .int value => truthOfInt value
  | .real value =>
      if value.isIntegral then
        match value.truncate? with
        | some whole => truthOfInt whole
        | none => .error .boolType
      else .error .boolType
  | .string word => truthOfWord word
  | _ => .error .boolType

end Tunables
