import Tunables.Text
import Tunables.Text.Hex
import Tunables.Yaml.Cursor

/-!
# Scalars in a YAML text

A scalar is plain, quoted, or a block of lines.  Within the first two the end of
a line counts as a blank, and empty lines count as ends of lines.
-/

namespace Tunables.Yaml

/-- What the end of a line counts as, together with the empty lines behind it. -/
def fold (lineBreak emptyLines : List Char) : List Char :=
  if lineBreak != ['\n'] then lineBreak ++ emptyLines
  else if emptyLines.isEmpty then [' ']
  else emptyLines

/-! ## Plain scalars -/

/-- The characters with a meaning inside brackets. -/
def isFlowSign (c : Char) : Bool :=
  ",[]\x7b\x7d".toList.contains c

/-- The number of characters of a plain scalar up to a gap or a sign. -/
def plainLength (inFlow : Bool) : List Char → Nat
  | [] => 0
  | c :: rest =>
      let endsAtColon := c == ':' && (isGap rest || (inFlow && rest.head?.any isFlowSign))
      if isGap (c :: rest) || endsAtColon || (inFlow && (isFlowSign c || c == '?')) then 0
      else plainLength inFlow rest + 1

/-- The empty lines in front and the blanks behind them.  A mark between
documents ends a scalar. -/
def takeEmptyLines : (fuel : Nat) → Cursor → Option (List Char) × Cursor
  | 0, c => (some [], c)
  | fuel + 1, c =>
      if c.head? == some ' ' then takeEmptyLines fuel c.step
      else if c.atBreak then
        let (lineBreak, next) := c.takeBreak
        if isDocumentMark next.rest then (none, next)
        else
          let (more, last) := takeEmptyLines fuel next
          (more.map (lineBreak ++ ·), last)
      else (some [], c)

/-- The gap behind a word of a plain scalar: what it counts as, the place behind
it, and whether it reaches a new line. -/
structure PlainGap where
  text : List Char
  cursor : Cursor
  crossed : Bool

def Cursor.plainGap (c : Cursor) : PlainGap :=
  let (blanks, behind) := c.takeWhile (· == ' ')
  if behind.atBreak then
    let (lineBreak, next) := behind.takeBreak
    if isDocumentMark next.rest then ⟨[], next, true⟩
    else
      match takeEmptyLines (next.rest.length + 1) next with
      | (some emptyLines, last) => ⟨fold lineBreak emptyLines, last, true⟩
      | (none, last) => ⟨[], last, true⟩
  else ⟨blanks, behind, false⟩

/-- A scalar, the place behind it, and whether a key may be next. -/
structure ScannedPlain where
  text : List Char
  cursor : Cursor
  keyMayFollow : Bool

/-- Takes a plain scalar.  `before` is the gap in front of its next word, and
`indent` the least column of a line that goes on with it. -/
def takePlain (inFlow : Bool) (indent : Int) :
    (fuel : Nat) → (before : List Char) → ScannedPlain → ScannedPlain
  | 0, _, taken => taken
  | fuel + 1, before, taken =>
      let length := plainLength inFlow taken.cursor.rest
      if taken.cursor.head? == some '#' || length == 0 then taken
      else
        let text := taken.text ++ before ++ taken.cursor.rest.take length
        let gap := (taken.cursor.forward length).plainGap
        let next : ScannedPlain := ⟨text, gap.cursor, gap.crossed⟩
        if gap.text.isEmpty || gap.cursor.head? == some '#' ||
            (!inFlow && gap.cursor.column < indent) then next
        else takePlain inFlow indent fuel gap.text next

/-! ## Quoted scalars -/

/-- The character that a letter behind a backslash stands for. -/
def escapes : List (Char × Char) :=
  [('0', '\x00'), ('a', '\x07'), ('b', '\x08'), ('t', '\t'), ('\t', '\t'), ('n', '\n'),
    ('v', '\x0B'), ('f', '\x0C'), ('r', '\r'), ('e', '\x1B'), (' ', ' '), ('"', '"'),
    ('\\', '\\'), ('/', '/'), ('N', '\x85'), ('_', '\xA0'), ('L', '\u2028'), ('P', '\u2029')]

/-- The number of hexadecimal digits behind a letter. -/
def escapeWidths : List (Char × Nat) :=
  [('x', 2), ('u', 4), ('U', 8)]

def codePointOf (number : Nat) : Except Error CodePoint :=
  if number < 0x110000 then .ok (.ofNat number)
  else .error (.value "chr() arg not in range(0x110000)")

def takeQuotedLines : (fuel : Nat) → Cursor → Except Error (List Char × Cursor)
  | 0, c => .ok ([], c)
  | fuel + 1, c =>
      if isDocumentMark c.rest then .error .token
      else
        let behind := c.dropWhile fun ch => ch == ' ' || ch == '\t'
        if behind.atBreak then
          let (lineBreak, next) := behind.takeBreak
          (takeQuotedLines fuel next).map fun (more, last) => (lineBreak ++ more, last)
        else .ok ([], behind)

def takeQuotedGap (c : Cursor) : Except Error (List Char × Cursor) :=
  let (blanks, behind) := c.takeWhile fun ch => ch == ' ' || ch == '\t'
  if behind.rest.isEmpty then .error .token
  else if behind.atBreak then
    let (lineBreak, next) := behind.takeBreak
    (takeQuotedLines (next.rest.length + 1) next).map fun (emptyLines, last) =>
      (fold lineBreak emptyLines, last)
  else .ok (blanks, behind)

/-- Characters that were taken, as code points. -/
def ofChars : List Char × Cursor → List CodePoint × Cursor
  | (taken, behind) => (taken.map .char, behind)

/-- Takes what a backslash stands for, from behind the backslash. -/
def takeEscape (c : Cursor) : Except Error (List CodePoint × Cursor) :=
  match c.rest with
  | [] => .error .token
  | letter :: rest =>
      match escapes.lookup letter, escapeWidths.lookup letter with
      | some image, _ => .ok ([.char image], c.step)
      | none, some width =>
          if rest.length < width then .error .token
          else
            match Text.readHex (rest.take width) with
            | none => .error .token
            | some number =>
                (codePointOf number).map fun image => ([image], c.forward (width + 1))
      | none, none =>
          if c.atBreak then (takeQuotedLines (c.rest.length + 1) c.takeBreak.2).map ofChars
          else .error .token

/-- Takes what stands between quotes, from behind the opening one.  In double
quotes a backslash has a meaning; in single ones a quote is written twice. -/
def takeQuoted (double : Bool) : (fuel : Nat) → Cursor → Except Error (List CodePoint × Cursor)
  | 0, _ => .error .token
  | fuel + 1, c =>
      let quote := if double then '"' else '\''
      let goOn : List CodePoint × Cursor → Except Error (List CodePoint × Cursor) :=
        fun (text, next) =>
          (takeQuoted double fuel next).map fun (more, last) => (text ++ more, last)
      match c.rest with
      | [] => .error .token
      | first :: rest =>
          if isGap c.rest then ((takeQuotedGap c).map ofChars).bind goOn
          else if first == quote then
            if !double && rest.head? == some quote then goOn ([.char quote], c.forward 2)
            else .ok ([], c.step)
          else if double && first == '\\' then (takeEscape c.step).bind goOn
          else goOn ([.char first], c.step)

/-! ## Blocks of lines -/

/-- What happens to the ends of lines at the end of a block. -/
inductive Chomping where
  | strip
  | clip
  | keep
  deriving DecidableEq, Repr

/-- How a block is given in its first line. -/
structure BlockHeader where
  chomping : Chomping
  indent : Option Nat

/-- Reads a sign for the end of a block. -/
def chompingOf? : Char → Option Chomping
  | '+' => some .keep
  | '-' => some .strip
  | _ => none

/-- Reads a sign for the indentation of a block. -/
def blockIndent? (c : Char) : Except Error (Option Nat) :=
  if c == '0' then .error .token
  else if c.isDigit then .ok (some (c.toNat - '0'.toNat))
  else .ok none

/-- Takes the signs of a block, in either order. -/
def takeBlockHeader (c : Cursor) : Except Error (BlockHeader × Cursor) :=
  match c.rest with
  | [] => .ok (⟨.clip, none⟩, c)
  | first :: rest =>
      match chompingOf? first with
      | some chomping =>
          match rest with
          | [] => .ok (⟨chomping, none⟩, c.step)
          | second :: _ =>
              (blockIndent? second).map fun
                | some indent => (⟨chomping, some indent⟩, c.forward 2)
                | none => (⟨chomping, none⟩, c.step)
      | none =>
          (blockIndent? first).map fun
            | none => (⟨.clip, none⟩, c)
            | some indent =>
                match rest.head?.bind chompingOf? with
                | some chomping => (⟨chomping, some indent⟩, c.forward 2)
                | none => (⟨.clip, some indent⟩, c.step)

/-- Passes over blanks and a comment at the end of a line. -/
def dropLineRest (c : Cursor) : Except Error Cursor :=
  let behind := c.dropWhile (· == ' ')
  let last := if behind.head? == some '#' then behind.dropWhile fun ch => !isBreak ch
    else behind
  if last.rest.isEmpty then .ok last
  else if last.atBreak then .ok last.takeBreak.2
  else .error .token

/-- Takes the empty lines in front of a block whose indentation is not given,
and the widest indentation seen. -/
def takeLeadingLines : (fuel : Nat) → Cursor → List Char × Nat × Cursor
  | 0, c => ([], 0, c)
  | fuel + 1, c =>
      let behind := c.dropWhile (· == ' ')
      if behind.atBreak then
        let (lineBreak, next) := behind.takeBreak
        let (more, width, last) := takeLeadingLines fuel next
        (lineBreak ++ more, max behind.column width, last)
      else ([], behind.column, behind)

/-- Takes blanks up to a column. -/
def dropIndent (indent : Nat) : (fuel : Nat) → Cursor → Cursor
  | 0, c => c
  | fuel + 1, c =>
      if c.column < indent && c.head? == some ' ' then dropIndent indent fuel c.step else c

/-- Takes the empty lines of a block with a given indentation. -/
def takeBlockLines (indent : Nat) : (fuel : Nat) → Cursor → List Char × Cursor
  | 0, c => ([], c)
  | fuel + 1, c =>
      let behind := dropIndent indent (indent + 1) c
      if behind.atBreak then
        let (lineBreak, next) := behind.takeBreak
        let (more, last) := takeBlockLines indent fuel next
        (lineBreak ++ more, last)
      else ([], behind)

/-- Whether a place is at the start of a line of a block. -/
def isBlockLine (indent : Nat) (c : Cursor) : Bool :=
  c.column == indent && !c.rest.isEmpty

/-- Whether a line starts with a character that is not blank. -/
def startsSolid (c : Cursor) : Bool :=
  !c.head?.any fun ch => ch == ' ' || ch == '\t'

/-- Takes the lines of a block: its text, the end of its last line, and the
empty lines behind it. -/
def takeBlockBody (folded : Bool) (indent : Nat) :
    (fuel : Nat) → (emptyLines : List Char) → Cursor →
      List Char × List Char × List Char × Cursor
  | 0, emptyLines, c => ([], [], emptyLines, c)
  | fuel + 1, emptyLines, c =>
      let (line, behind) := c.takeWhile fun ch => !isBreak ch
      let (lineBreak, next) := behind.takeBreak
      let (nextEmpty, last) := takeBlockLines indent (next.rest.length + 1) next
      if isBlockLine indent last then
        let joined :=
          if folded && lineBreak == ['\n'] && startsSolid c && startsSolid last then
            if nextEmpty.isEmpty then [' '] else []
          else lineBreak
        let (more, finalBreak, finalEmpty, final) :=
          takeBlockBody folded indent fuel nextEmpty last
        (emptyLines ++ line ++ joined ++ more, finalBreak, finalEmpty, final)
      else (emptyLines ++ line, lineBreak, nextEmpty, last)

/-- Takes a block of lines, from behind its first sign.  `outer` is the
indentation around it. -/
def takeBlock (folded : Bool) (outer : Int) (c : Cursor) :
    Except Error (List Char × Cursor) :=
  match takeBlockHeader c with
  | .error error => .error error
  | .ok (header, behind) =>
      match dropLineRest behind with
      | .error error => .error error
      | .ok first =>
          let least := max 1 (outer + 1).toNat
          let fuel := first.rest.length + 1
          let (emptyLines, indent, body) := match header.indent with
            | none =>
                let (lines, width, next) := takeLeadingLines fuel first
                (lines, max least width, next)
            | some increment =>
                let indent := least + increment - 1
                let (lines, next) := takeBlockLines indent fuel first
                (lines, indent, next)
          let (text, lineBreak, trailing, last) :=
            if isBlockLine indent body then takeBlockBody folded indent fuel emptyLines body
            else ([], [], emptyLines, body)
          .ok (text ++ (if header.chomping == .strip then [] else lineBreak) ++
            (if header.chomping == .keep then trailing else []), last)

end Tunables.Yaml
