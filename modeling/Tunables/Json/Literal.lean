import Tunables.Binary64.Shortest
import Tunables.Json
import Tunables.Text.Quoted

/-!
# Values inside messages

A message shows a value as a literal: strings in quotes, lists in brackets,
objects in braces.
-/

namespace Tunables.Json

mutual

/-- A value as a message shows it. -/
def literal : Json → String
  | .null => "None"
  | .bool value => if value then "True" else "False"
  | .int value => toString value
  | .real value => value.text
  | .string value => Text.quoted value
  | .array items => "[" ++ literalItems items ++ "]"
  | .object members => "\x7b" ++ literalEntries members ++ "\x7d"

def literalItems : List Json → String
  | [] => ""
  | [item] => literal item
  | item :: next :: rest => literal item ++ ", " ++ literalItems (next :: rest)

def literalEntries : List (Text × Json) → String
  | [] => ""
  | [(key, value)] => Text.quoted key ++ ": " ++ literal value
  | (key, value) :: next :: rest =>
      Text.quoted key ++ ": " ++ literal value ++ ", " ++ literalEntries (next :: rest)

end

end Tunables.Json
