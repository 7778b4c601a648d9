import Tunables.Text.Blank
import Tunables.Yaml.Scalar

/-!
# Tokens of a YAML text

A text is a sequence of tokens.  The indentation of lines becomes tokens that
open and close blocks, and a key is recognised by the colon behind it, so its
token is put in front of what was read already.
-/

namespace Tunables.Yaml

/-- A token.  The last one stands for text that cannot be read any further. -/
inductive Token where
  | directive (words : List Text)
  | documentStart
  | documentEnd
  | streamEnd
  | blockSequenceStart
  | blockMappingStart
  | blockEnd
  | blockEntry
  | flowSequenceStart
  | flowSequenceEnd
  | flowMappingStart
  | flowMappingEnd
  | flowEntry
  | key
  | value
  | alias (name : String)
  | anchor (name : String)
  | tag (name : String)
  | scalar (plain : Bool) (text : Text)
  | broken (error : Error)
  deriving DecidableEq, Repr

/-- A token that may turn out to be a key: its position among the tokens, where
it stands, and whether nothing else could stand there. -/
structure PossibleKey where
  position : Nat
  required : Bool
  place : Cursor

/-- A text that was read in part.  The indentations of the open blocks are kept,
the innermost one apart, and the possible keys by the depth of brackets. -/
structure Tokenizer where
  cursor : Cursor
  tokens : List Token
  depth : Int
  indent : Int
  outerIndents : List Int
  keyAllowed : Bool
  possibleKeys : List (Int × PossibleKey)

namespace Tokenizer

/-- A text of which nothing was read. -/
def start (text : List Char) : Tokenizer :=
  ⟨.start text, [], 0, -1, [], true, []⟩

def inFlow (t : Tokenizer) : Bool :=
  t.depth != 0

def column (t : Tokenizer) : Int :=
  t.cursor.column

def emit (t : Tokenizer) (token : Token) : Tokenizer :=
  { t with tokens := t.tokens ++ [token] }

/-- Adds a token that stands for some characters. -/
def emitSign (t : Tokenizer) (token : Token) (length : Nat) : Tokenizer :=
  { t.emit token with cursor := t.cursor.forward length }

/-- Says whether a key may be next. -/
def allowKey (t : Tokenizer) (allowed : Bool) : Tokenizer :=
  { t with keyAllowed := allowed }

/-- Closes the blocks that are indented further than a column. -/
def closeBlocks (t : Tokenizer) (column : Int) : Tokenizer :=
  if t.inFlow then t else go t t.outerIndents
where
  /-- Closes blocks as long as one is indented further. -/
  go (t : Tokenizer) : List Int → Tokenizer
    | [] => t
    | outer :: rest =>
        if column < t.indent then
          go { t.emit .blockEnd with indent := outer, outerIndents := rest } rest
        else t

/-- Opens a block at a column if it is indented further than the innermost
one. -/
def opensBlock (t : Tokenizer) (column : Int) : Bool :=
  t.indent < column

def pushIndent (t : Tokenizer) (column : Int) : Tokenizer :=
  { t with indent := column, outerIndents := t.indent :: t.outerIndents }

/-- Opens a block at the next column, if it is indented further. -/
def openBlock (t : Tokenizer) (token : Token) : Tokenizer :=
  if t.opensBlock t.column then (t.emit token).pushIndent t.column else t

/-- The possible key at the depth reached. -/
def possibleKey? (t : Tokenizer) : Option PossibleKey :=
  t.possibleKeys.lookup t.depth

/-- Forgets the possible key at the depth reached, unless it has to be one. -/
def forgetKey (t : Tokenizer) : Except Error Tokenizer :=
  if t.possibleKey?.any (·.required) then .error .token
  else .ok { t with possibleKeys := t.possibleKeys.filter (·.1 != t.depth) }

/-- Remembers that the next token may be a key. -/
def rememberKey (t : Tokenizer) : Except Error Tokenizer :=
  if t.keyAllowed then
    t.forgetKey.map fun cleared =>
      let required := !t.inFlow && t.indent == t.column
      { cleared with possibleKeys :=
          (t.depth, ⟨t.tokens.length, required, t.cursor⟩) :: cleared.possibleKeys }
  else .ok t

/-- Whether a possible key is on another line or too far away. -/
def isStale (t : Tokenizer) (key : PossibleKey) : Bool :=
  key.place.line != t.cursor.line || 1024 < t.cursor.index - key.place.index

/-- Forgets the possible keys that can be none any more. -/
def forgetStaleKeys (t : Tokenizer) : Except Error Tokenizer :=
  if t.possibleKeys.any fun entry => t.isStale entry.2 && entry.2.required then
    .error .token
  else .ok { t with possibleKeys := t.possibleKeys.filter fun entry => !t.isStale entry.2 }

/-- Passes over blanks, comments and ends of lines. -/
def skipGap : (fuel : Nat) → Tokenizer → Tokenizer
  | 0, t => t
  | fuel + 1, t =>
      let behind := t.cursor.dropWhile (· == ' ')
      let last := if behind.head? == some '#' then behind.dropWhile fun c => !isBreak c
        else behind
      if last.atBreak then
        skipGap fuel { t with cursor := last.takeBreak.2, keyAllowed := t.keyAllowed || !t.inFlow }
      else { t with cursor := last }

/-- Passes over a mark of byte order at the start of a text. -/
def skipByteOrderMark (t : Tokenizer) : Tokenizer :=
  if t.cursor.index == 0 && t.cursor.head? == some '\uFEFF' then
    { t with cursor := t.cursor.step }
  else t

/-! ## Kinds of tokens -/

/-- Closes all blocks in front of a mark. -/
def closeAll (t : Tokenizer) : Except Error Tokenizer :=
  ((t.closeBlocks (-1)).forgetKey).map (·.allowKey false)

def takeEnd (t : Tokenizer) : Except Error Tokenizer :=
  t.closeAll.map (·.emit .streamEnd)

/-- Cuts a line into words. -/
def wordsOf (line : List Char) : List Text :=
  Text.words (.ofChars line)

def takeDirective (t : Tokenizer) : Except Error Tokenizer :=
  t.closeAll.map fun closed =>
    let (line, behind) := closed.cursor.step.takeWhile fun c => !isBreak c
    { closed.emit (.directive (wordsOf line)) with cursor := behind }

def takeDocumentMark (t : Tokenizer) (token : Token) : Except Error Tokenizer :=
  t.closeAll.map (·.emitSign token 3)

def takeOpening (t : Tokenizer) (token : Token) : Except Error Tokenizer :=
  t.rememberKey.map fun kept =>
    { kept.emitSign token 1 with depth := t.depth + 1, keyAllowed := true }

def takeClosing (t : Tokenizer) (token : Token) : Except Error Tokenizer :=
  t.forgetKey.map fun kept =>
    { kept.emitSign token 1 with depth := t.depth - 1, keyAllowed := false }

def takeFlowEntry (t : Tokenizer) : Except Error Tokenizer :=
  t.forgetKey.map fun kept => (kept.emitSign .flowEntry 1).allowKey true

def takeBlockEntry (t : Tokenizer) : Except Error Tokenizer :=
  if !t.inFlow && !t.keyAllowed then .error .token
  else
    let opened := if t.inFlow then t else t.openBlock .blockSequenceStart
    opened.forgetKey.map fun kept => (kept.emitSign .blockEntry 1).allowKey true

/-- Takes a question mark in front of a key. -/
def takeKey (t : Tokenizer) : Except Error Tokenizer :=
  if !t.inFlow && !t.keyAllowed then .error .token
  else
    let opened := if t.inFlow then t else t.openBlock .blockMappingStart
    opened.forgetKey.map fun kept => (kept.emitSign .key 1).allowKey !t.inFlow

/-- Puts the token of a key in front of what was read, and opens a block there
if the key is indented further. -/
def insertKey (t : Tokenizer) (key : PossibleKey) : Tokenizer :=
  let column : Int := key.place.column
  let opens := !t.inFlow && t.opensBlock column
  let inserted := if opens then [.blockMappingStart, .key] else [Token.key]
  let marked := { t with
    tokens := t.tokens.take key.position ++ inserted ++ t.tokens.drop key.position
    possibleKeys := t.possibleKeys.filter (·.1 != t.depth) }
  if opens then marked.pushIndent column else marked

/-- Takes the colon in front of a value. -/
def takeValue (t : Tokenizer) : Except Error Tokenizer :=
  match t.possibleKey? with
  | some key => .ok (((t.insertKey key).allowKey false).emitSign .value 1)
  | none =>
      if !t.inFlow && !t.keyAllowed then .error .token
      else
        let opened := if t.inFlow then t else t.openBlock .blockMappingStart
        (opened.allowKey !t.inFlow).forgetKey.map (·.emitSign .value 1)

/-- Whether a character may stand in the name of an anchor. -/
def isNameChar (c : Char) : Bool :=
  c.isAlphanum || c == '-' || c == '_'

/-- Takes the name of an anchor or of a reference to one. -/
def takeName (t : Tokenizer) (token : String → Token) : Except Error Tokenizer :=
  t.rememberKey.bind fun kept =>
    let (name, behind) := kept.cursor.step.takeWhile isNameChar
    if name.isEmpty then .error .token
    else if isGap behind.rest || behind.head?.any "?:,]\x7d%@\x60".toList.contains then
      .ok { (kept.emit (token (String.ofList name))).allowKey false with cursor := behind }
    else .error .token

/-- Whether a character may stand in a tag. -/
def isTagChar (c : Char) : Bool :=
  c.isAlphanum || "-;/?:@&=+$,_.!~*'()[]%<>".toList.contains c

def takeTag (t : Tokenizer) : Except Error Tokenizer :=
  t.rememberKey.bind fun kept =>
    let (name, behind) := kept.cursor.takeWhile isTagChar
    if isGap behind.rest then
      .ok { (kept.emit (.tag (String.ofList name))).allowKey false with cursor := behind }
    else .error .token

def takeLines (t : Tokenizer) (folded : Bool) : Except Error Tokenizer :=
  (t.allowKey true).forgetKey.bind fun kept =>
    (takeBlock folded t.indent t.cursor.step).map fun (text, behind) =>
      { kept.emit (.scalar false (.ofChars text)) with cursor := behind }

def takeQuotes (t : Tokenizer) (double : Bool) : Except Error Tokenizer :=
  t.rememberKey.bind fun kept =>
    (takeQuoted double (t.cursor.rest.length + 1) t.cursor.step).map fun (text, behind) =>
      { (kept.emit (.scalar false (.ofList text))).allowKey false with cursor := behind }

def takeWords (t : Tokenizer) : Except Error Tokenizer :=
  t.rememberKey.map fun kept =>
    let taken := takePlain t.inFlow (t.indent + 1) (t.cursor.rest.length + 1) []
      ⟨[], t.cursor, false⟩
    { (kept.emit (.scalar true (.ofChars taken.text))).allowKey taken.keyMayFollow with
      cursor := taken.cursor }

def startsPlain (t : Tokenizer) (first : Char) (rest : List Char) : Bool :=
  !(isGap (first :: rest) || "-?:,[]\x7b\x7d#&*!|>'\"%@\x60".toList.contains first) ||
    (!isGap rest && (first == '-' || (!t.inFlow && (first == '?' || first == ':'))))

/-- Takes the next token, which starts with a given character. -/
def takeToken (t : Tokenizer) (first : Char) (rest : List Char) : Except Error Tokenizer :=
  let atLineStart := t.cursor.column == 0
  let beforeGap := t.inFlow || isGap rest
  if first == '%' && atLineStart then t.takeDirective
  else if atLineStart && isMark "---" (first :: rest) then t.takeDocumentMark .documentStart
  else if atLineStart && isMark "..." (first :: rest) then t.takeDocumentMark .documentEnd
  else
    match first with
    | '[' => t.takeOpening .flowSequenceStart
    | '\x7b' => t.takeOpening .flowMappingStart
    | ']' => t.takeClosing .flowSequenceEnd
    | '\x7d' => t.takeClosing .flowMappingEnd
    | ',' => t.takeFlowEntry
    | '*' => t.takeName .alias
    | '&' => t.takeName .anchor
    | '!' => t.takeTag
    | '\'' => t.takeQuotes false
    | '"' => t.takeQuotes true
    | _ =>
        if first == '-' && isGap rest then t.takeBlockEntry
        else if first == '?' && beforeGap then t.takeKey
        else if first == ':' && beforeGap then t.takeValue
        else if first == '|' && !t.inFlow then t.takeLines false
        else if first == '>' && !t.inFlow then t.takeLines true
        else if t.startsPlain first rest then t.takeWords
        else .error .token

/-- Passes over everything in front of the next token. -/
def reachToken (t : Tokenizer) : Tokenizer :=
  skipGap (t.cursor.rest.length + 1) t.skipByteOrderMark

/-- Goes on by one token, or by the tokens that end the text. -/
def advance (t : Tokenizer) : Except Error Tokenizer :=
  t.reachToken.forgetStaleKeys.bind fun fresh =>
    let ready := fresh.closeBlocks fresh.column
    match ready.cursor.rest with
    | [] => ready.takeEnd
    | first :: rest => ready.takeToken first rest

/-- The tokens that are certain: those in front of every possible key. -/
def certainTokens (t : Tokenizer) : List Token :=
  let reached := t.reachToken
  let pending := t.possibleKeys.filter fun entry =>
    entry.2.required || !reached.isStale entry.2
  t.tokens.take (pending.foldl (fun least entry => min least entry.2.position) t.tokens.length)

/-- Reads all tokens; `fuel` bounds their number. -/
def run : (fuel : Nat) → Tokenizer → List Token
  | 0, t => t.tokens
  | fuel + 1, t =>
      match t.advance with
      | .error error => t.certainTokens ++ [.broken error]
      | .ok next => if next.tokens.getLast? == some .streamEnd then next.tokens else run fuel next

end Tokenizer

def Token.ofText (text : List Char) : List Token :=
  if text.all isPrintable then (Tokenizer.start text).run (text.length + 1)
  else [.broken .unprintable]

end Tunables.Yaml
