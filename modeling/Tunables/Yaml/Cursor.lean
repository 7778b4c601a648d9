/-!
# Places in a YAML text

A cursor stands at a place in a text and knows its line and column.  Lines end
with a line feed or with one of three rarer characters.
-/

namespace Tunables.Yaml

/-- What is wrong with a YAML text: a character that cannot be printed, text
that makes no token, tokens in a wrong order, a reference or an anchor that does
not fit, a value that has no meaning, or a number or a date that does not
exist. -/
inductive Error where
  | unprintable
  | token
  | order
  | reference
  | meaning
  | value (message : String)
  deriving DecidableEq, Repr

/-- Whether a character may stand in a text. -/
def isPrintable (c : Char) : Bool :=
  let n := c.toNat
  n == 0x09 || n == 0x0A || n == 0x0D || n == 0x85 || (0x20 ≤ n && n ≤ 0x7E) ||
    (0xA0 ≤ n && n ≤ 0xD7FF) || (0xE000 ≤ n && n ≤ 0xFFFD) || 0x10000 ≤ n

def isBreak (c : Char) : Bool :=
  c == '\n' || c == '\x85' || c == '\u2028' || c == '\u2029'

/-- Whether a blank, the end of a line or the end of the text is next. -/
def isGap : List Char → Bool
  | [] => true
  | c :: _ => c == ' ' || c == '\t' || isBreak c

/-- Whether three given characters and then a gap are next. -/
def isMark (mark : String) (text : List Char) : Bool :=
  mark.toList.isPrefixOf text && isGap (text.drop 3)

/-- Whether a mark between documents is next. -/
def isDocumentMark (text : List Char) : Bool :=
  isMark "---" text || isMark "..." text

/-- A place in a text. -/
structure Cursor where
  rest : List Char
  index : Nat
  line : Nat
  column : Nat

namespace Cursor

def start (text : List Char) : Cursor :=
  ⟨text, 0, 0, 0⟩

def head? (c : Cursor) : Option Char :=
  c.rest.head?

def step (c : Cursor) : Cursor :=
  match c.rest with
  | [] => c
  | next :: rest =>
      if isBreak next then ⟨rest, c.index + 1, c.line + 1, 0⟩
      else if next == '\uFEFF' then ⟨rest, c.index + 1, c.line, c.column⟩
      else ⟨rest, c.index + 1, c.line, c.column + 1⟩

def forward : Nat → Cursor → Cursor
  | 0, c => c
  | count + 1, c => forward count c.step

/-- The characters in front that satisfy a condition, and the place behind
them. -/
def takeWhile (c : Cursor) (condition : Char → Bool) : List Char × Cursor :=
  let taken := c.rest.takeWhile condition
  (taken, forward taken.length c)

/-- The place behind the characters that satisfy a condition. -/
def dropWhile (c : Cursor) (condition : Char → Bool) : Cursor :=
  (c.takeWhile condition).2

/-- Whether the end of a line is next. -/
def atBreak (c : Cursor) : Bool :=
  c.head?.any isBreak

/-- The end of a line as it counts in a value, if it is next, and the place
behind it. -/
def takeBreak (c : Cursor) : List Char × Cursor :=
  match c.rest with
  | [] => ([], c)
  | next :: _ =>
      if isBreak next then ([if next == '\x85' then '\n' else next], c.step) else ([], c)

end Cursor
end Tunables.Yaml
