import Tunables.Json

/-!
# Placeholders in messages

A message may hold placeholders such as `%s` or `%(name)d`, and arguments may be
given for them.  A message is printed as it is, but only if the arguments fit
its placeholders.
-/

namespace Tunables.Placeholders

/-- The arguments that are left: values to be taken in order, or members to be
taken by name together with a value that can be taken once without one. -/
inductive Supply where
  | values (rest : List Json)
  | members (all : Members) (next : Option Json)

namespace Supply

/-- The supply of arguments.  A single object that is not empty is taken by
name. -/
def ofArguments : List Json → Supply
  | [.object (first :: rest)] => .members (first :: rest) (some (.object (first :: rest)))
  | arguments => .values arguments

/-- Takes the next argument. -/
def take? : Supply → Option (Json × Supply)
  | .values (value :: rest) => some (value, .values rest)
  | .values [] => none
  | .members all (some value) => some (value, .members all none)
  | .members _ none => none

/-- Makes the argument of a name the next one. -/
def choose? (name : Text) : Supply → Option Supply
  | .values _ => none
  | .members all _ => (all.get? name).map fun value => .members all (some value)

/-- Whether no argument is left that would have to be taken. -/
def isSpent : Supply → Bool
  | .values rest => rest.isEmpty
  | .members _ _ => true

end Supply

/-- The whole number that a value is. -/
def wholeOf? : Json → Option Int
  | .int value => some value
  | .bool value => some (if value then 1 else 0)
  | _ => none

/-- Whether a value is a finite number. -/
def isFinite : Json → Bool
  | .real (.finite ..) => true
  | .real _ => false
  | value => (wholeOf? value).isSome

/-- Whether a value is a number that a double can hold. -/
def fitsDouble : Json → Bool
  | .real _ => true
  | value => ((wholeOf? value).bind Binary64.ofInt?).isSome

/-- Whether a value is a single character or the number of one. -/
def isCharacter : Json → Bool
  | .string text => text.toList.length == 1
  | value => (wholeOf? value).any fun number => 0 ≤ number && number < 0x110000

/-- Whether a value can be written in the way that a letter asks for. -/
def accepts (letter : Char) (value : Json) : Bool :=
  if "sra".toList.contains letter then true
  else if "diu".toList.contains letter then isFinite value
  else if "oxX".toList.contains letter then (wholeOf? value).isSome
  else if "eEfFgG".toList.contains letter then fitsDouble value
  else letter == 'c' && isCharacter value

def readNumber (digits : List CodePoint) : Nat :=
  digits.foldl (fun number digit => number * 10 + (digit.toNat - '0'.toNat)) 0

/-- Passes over a number below a limit, or over a star that takes one. -/
def takeCount? (limit : Nat) (message : List CodePoint) (supply : Supply) :
    Option (List CodePoint × Supply) :=
  match message with
  | .char '*' :: rest =>
      match supply.take? with
      | none => none
      | some (value, left) =>
          if (wholeOf? value).any fun number => number.natAbs < limit then some (rest, left)
          else none
  | _ =>
      let isDigit := CodePoint.isIn Char.isDigit
      if readNumber (message.takeWhile isDigit) < limit then
        some (message.dropWhile isDigit, supply)
      else none

/-- Passes over a name in brackets; brackets within the name are paired. -/
def takeName? : (depth : Nat) → List CodePoint → Option (List CodePoint × List CodePoint)
  | _, [] => none
  | 0, .char ')' :: rest => some ([], rest)
  | depth + 1, .char ')' :: rest =>
      (takeName? depth rest).map fun (name, after) => (.char ')' :: name, after)
  | depth, .char '(' :: rest =>
      (takeName? (depth + 1) rest).map fun (name, after) => (.char '(' :: name, after)
  | depth, c :: rest => (takeName? depth rest).map fun (name, after) => (c :: name, after)

/-- Passes over the name of a placeholder and chooses the argument. -/
def takeChoice? (message : List CodePoint) (supply : Supply) : Option (List CodePoint × Supply) :=
  match message with
  | .char '(' :: rest =>
      match takeName? 0 rest with
      | none => none
      | some (name, after) =>
          (supply.choose? (.ofList name)).map fun chosen => (after, chosen)
  | _ => some (message, supply)

def takePrecision? (message : List CodePoint) (supply : Supply) :
    Option (List CodePoint × Supply) :=
  match message with
  | .char '.' :: rest => takeCount? (Nat.pow 2 31) rest supply
  | _ => some (message, supply)

/-- Passes over a letter for the size of a number. -/
def dropSize : List CodePoint → List CodePoint
  | .char 'h' :: rest => rest
  | .char 'l' :: rest => rest
  | .char 'L' :: rest => rest
  | message => message

/-- Passes over a placeholder, from behind its percent sign to its letter, if the
arguments fit it. -/
def takePlaceholder? (message : List CodePoint) (supply : Supply) :
    Option (List CodePoint × Supply) :=
  match takeChoice? message supply with
  | none => none
  | some (named, chosen) =>
      let counted := named.dropWhile (CodePoint.isIn "-+ #0".toList.contains)
      match takeCount? (Nat.pow 2 63) counted chosen with
      | none => none
      | some (sized, counted) =>
          match takePrecision? sized counted with
          | none => none
          | some (rest, left) =>
              match dropSize rest, left.take? with
              | .char letter :: after, some (value, last) =>
                  if accepts letter value then some (after, last) else none
              | _, _ => none

/-- Whether arguments fit a message; `fuel` bounds the number of placeholders. -/
def fitFrom : (fuel : Nat) → List CodePoint → Supply → Bool
  | 0, _, _ => false
  | fuel + 1, message, supply =>
      match message.dropWhile (· != .char '%') with
      | [] => supply.isSpent
      | [_] => false
      | _ :: .char '%' :: rest => fitFrom fuel rest supply
      | _ :: rest =>
          match takePlaceholder? rest supply with
          | none => false
          | some (after, left) => fitFrom fuel after left

/-- Whether arguments fit a message.  Without arguments every message will do. -/
def fit (message : Text) (arguments : List Json) : Bool :=
  arguments.isEmpty || fitFrom (message.toList.length + 1) message.toList (.ofArguments arguments)

end Tunables.Placeholders
