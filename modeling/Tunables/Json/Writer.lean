import Tunables.Binary64.Shortest
import Tunables.Json
import Tunables.Text.Encoding

/-!
# Writing JSON

Items are separated by a comma and a space, a key and its value by a colon and
a space, and everything outside printable ASCII is escaped, a character beyond
the basic plane as a pair of code units.  Members may be put in the order of
their keys first, which makes the text independent of their order.
-/

namespace Tunables.Json

/-- Numbers in JSON are laid out like other numbers; the values that are not
finite have names of their own. -/
def numberLayout : Binary64.NumberLayout :=
  ⟨-4, 15, 2, "NaN", "Infinity", "-Infinity"⟩

def codeUnitEscape (unit : Nat) : List Char :=
  '\\' :: 'u' :: Text.hexDigits 4 unit

/-- The letter that stands for a character after a backslash. -/
def shortEscape? : Char → Option Char
  | '"' => some '"'
  | '\\' => some '\\'
  | '\n' => some 'n'
  | '\r' => some 'r'
  | '\t' => some 't'
  | '\x0C' => some 'f'
  | '\x08' => some 'b'
  | _ => none

/-- A character as it stands in a string. -/
def escapedChar (c : Char) : List Char :=
  match shortEscape? c with
  | some letter => ['\\', letter]
  | none =>
      if ' ' ≤ c && c ≤ '~' then [c]
      else if c.toNat < 0x10000 then codeUnitEscape c.toNat
      else
        codeUnitEscape (0xD800 + (c.toNat - 0x10000) / 0x400) ++
          codeUnitEscape (0xDC00 + (c.toNat - 0x10000) % 0x400)

/-- A code point as it stands in a string.  A surrogate is a code unit of its own. -/
def escapedPoint : CodePoint → List Char
  | .char c => escapedChar c
  | surrogate => codeUnitEscape surrogate.toNat

/-- The characters of a string between quotes. -/
def stringChars (text : Text) : List Char :=
  '"' :: text.toList.flatMap escapedPoint ++ ['"']

def intChars (value : Int) : List Char :=
  (if value < 0 then ['-'] else []) ++ Nat.toDigits 10 value.natAbs

mutual

def chars : Json → List Char
  | .null => "null".toList
  | .bool value => if value then "true".toList else "false".toList
  | .int value => intChars value
  | .real value => (numberLayout.write value).toList
  | .string value => stringChars value
  | .array items => '[' :: itemsChars items ++ [']']
  | .object members => '{' :: entriesChars members ++ ['}']

/-- The characters of items with their separators. -/
def itemsChars : List Json → List Char
  | [] => []
  | [item] => chars item
  | item :: next :: rest => chars item ++ ", ".toList ++ itemsChars (next :: rest)

/-- The characters of entries with their separators. -/
def entriesChars : List (Text × Json) → List Char
  | [] => []
  | [(key, value)] => stringChars key ++ ": ".toList ++ chars value
  | (key, value) :: next :: rest =>
      stringChars key ++ ": ".toList ++ chars value ++ ", ".toList ++
        entriesChars (next :: rest)

end

def write (value : Json) : String :=
  String.ofList value.chars

/-- Puts an entry before the first one with a greater key. -/
def insertByKey (entry : Text × Json) : List (Text × Json) → List (Text × Json)
  | [] => [entry]
  | next :: rest =>
      if entry.1 < next.1 then entry :: next :: rest else next :: insertByKey entry rest

mutual

/-- The same value with the members of every object in the order of keys. -/
def sortKeys : Json → Json
  | .array items => .array (sortKeysInItems items)
  | .object members => .object (sortKeysInEntries members)
  | value => value

/-- The same items with members in order. -/
def sortKeysInItems : List Json → List Json
  | [] => []
  | item :: rest => sortKeys item :: sortKeysInItems rest

/-- Entries in the order of keys, their values with members in order. -/
def sortKeysInEntries : List (Text × Json) → List (Text × Json)
  | [] => []
  | (key, value) :: rest => insertByKey (key, sortKeys value) (sortKeysInEntries rest)

end

/-- The text of a value that does not depend on the order of members. -/
def writeSorted (value : Json) : String :=
  value.sortKeys.write

end Tunables.Json
