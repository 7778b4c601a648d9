import Tunables.Entries
import Tunables.Text.Blank
import Tunables.Text.LineEnd

/-!
# Files of variables

A file of variables has one variable a line, with a value that may stand in
quotes and may refer to other variables as `${NAME}` or `${NAME:-otherwise}`.
A line that cannot be read is passed over.
-/

namespace Tunables.Dotenv

/-- A line of the file: a name with its value, a name alone, or nothing of
use. -/
inductive Binding where
  | assigned (name value : String)
  | bare (name : String)
  | skipped
  deriving DecidableEq, Repr

/-- Whether a character is blank within a line. -/
def isInnerBlank (c : Char) : Bool :=
  Text.isBlank c && !Text.isLineEnd c

/-- Drops the word `export` with the blanks behind it. -/
def dropExport (text : List Char) : List Char :=
  let word := "export".toList
  if word.isPrefixOf text then
    let rest := text.drop word.length
    if rest.head?.any isInnerBlank then rest.dropWhile isInnerBlank else text
  else text

/-- Takes a name in single quotes or without any. -/
def takeName (text : List Char) : Option (String × List Char) :=
  match text with
  | '\'' :: rest =>
      let name := rest.takeWhile (· != '\'')
      match rest.dropWhile (· != '\'') with
      | _ :: after => if name.isEmpty then none else some (String.ofList name, after)
      | [] => none
  | _ =>
      let inName : Char → Bool := fun c => c != '=' && c != '#' && !Text.isBlank c
      let name := text.takeWhile inName
      if name.isEmpty then none
      else some (String.ofList name, text.dropWhile inName)

/-- Takes the characters up to a closing quote.  A backslash in front of the
quote keeps it from closing, if another one closes. -/
def takeQuoted (quote : Char) : List Char → Option (List Char × List Char)
  | [] => none
  | '\\' :: c :: rest =>
      if c == quote then
        match takeQuoted quote rest with
        | some (value, after) => some ('\\' :: c :: value, after)
        | none => some (['\\'], rest)
      else (takeQuoted quote (c :: rest)).map fun (value, after) => ('\\' :: value, after)
  | c :: rest =>
      if c == quote then some ([], rest)
      else (takeQuoted quote rest).map fun (value, after) => (c :: value, after)

/-- The character that a letter after a backslash stands for. -/
def escapedLetter? : Char → Option Char
  | '\\' => some '\\'
  | '\'' => some '\''
  | '"' => some '"'
  | 'a' => some '\x07'
  | 'b' => some '\x08'
  | 'f' => some '\x0C'
  | 'n' => some '\n'
  | 'r' => some '\r'
  | 't' => some '\t'
  | 'v' => some '\x0B'
  | _ => none

/-- Replaces the escapes that are known between quotes of a kind. -/
def unescape (known : Char → Bool) : List Char → List Char
  | '\\' :: c :: rest =>
      match known c, escapedLetter? c with
      | true, some image => image :: unescape known rest
      | _, _ => '\\' :: unescape known (c :: rest)
  | c :: rest => c :: unescape known rest
  | [] => []

/-- A value without quotes: what stands before a comment, without blanks at the
end.  A comment starts with a number sign behind a blank. -/
def cutComment : List Char → List Char
  | [] => []
  | c :: rest =>
      if Text.isBlank c && (rest.dropWhile Text.isBlank).head? == some '#' then []
      else c :: cutComment rest

def trimEnd (text : List Char) : List Char :=
  (text.reverse.dropWhile Text.isBlank).reverse

def takeValue (text : List Char) : Option (String × List Char) :=
  match text with
  | '\'' :: rest =>
      (takeQuoted '\'' rest).map fun (value, after) =>
        (String.ofList (unescape (fun c => c == '\\' || c == '\'') value), after)
  | '"' :: rest =>
      (takeQuoted '"' rest).map fun (value, after) =>
        (String.ofList (unescape (fun _ => true) value), after)
  | _ =>
      let line := text.takeWhile fun c => !Text.isLineEnd c
      some (String.ofList (trimEnd (cutComment line)), text.dropWhile fun c => !Text.isLineEnd c)

/-- Passes over the rest of a line. -/
def dropLine (text : List Char) : List Char :=
  (text.dropWhile fun c => !Text.isLineEnd c).drop 1

/-- Passes over a comment and the end of a line; nothing else may be left. -/
def takeLineEnd (text : List Char) : Option (List Char) :=
  let inner := text.dropWhile isInnerBlank
  let after := if inner.head? == some '#' then inner.dropWhile fun c => !Text.isLineEnd c
    else inner
  match after with
  | [] => some []
  | c :: rest => if Text.isLineEnd c then some rest else none

/-- Ends a line; one with something left over is of no use. -/
def endLine (binding : Binding) (text : List Char) : Binding × List Char :=
  match takeLineEnd text with
  | some rest => (binding, rest)
  | none => (.skipped, dropLine text)

/-- Takes a line that starts with something. -/
def takeBinding (text : List Char) : Binding × List Char :=
  let start := dropExport text
  if start.head? == some '#' then endLine .skipped start
  else
    match takeName start with
    | none => (.skipped, dropLine start)
    | some (name, afterName) =>
        match afterName.dropWhile isInnerBlank with
        | '=' :: rest =>
            let value := rest.dropWhile isInnerBlank
            match takeValue value with
            | none => (.skipped, dropLine value)
            | some (content, after) => endLine (.assigned name content) after
        | rest => endLine (.bare name) rest

/-- Takes all lines; `fuel` bounds their number. -/
def takeBindings : (fuel : Nat) → List Char → List Binding
  | 0, _ => []
  | fuel + 1, text =>
      match text.dropWhile Text.isBlank with
      | [] => []
      | start =>
          let (binding, rest) := takeBinding start
          binding :: takeBindings fuel rest

/-- The value of a name among entries, the last one winning. -/
def lookupLast (entries : List (Text × Text)) (name : Text) : Option Text :=
  entries.reverse.lookup name

/-- Splits a reference that starts after `${` into its name, the text that
stands in for it, and what follows. -/
def splitReference (text : List Char) : Option (String × String × List Char) :=
  let name := text.takeWhile fun c => c != '\x7d' && c != ':'
  match text.dropWhile fun c => c != '\x7d' && c != ':' with
  | '\x7d' :: after => some (String.ofList name, "", after)
  | ':' :: '-' :: rest =>
      match rest.dropWhile (· != '\x7d') with
      | _ :: after =>
          some (String.ofList name, String.ofList (rest.takeWhile (· != '\x7d')), after)
      | [] => none
  | _ => none

/-- Replaces references by values; `fuel` bounds the length of the text. -/
def resolve (value? : String → Option Text) : (fuel : Nat) → List Char → List CodePoint
  | 0, text => text.map .char
  | _ + 1, [] => []
  | fuel + 1, '$' :: '\x7b' :: rest =>
      match splitReference rest with
      | some (name, otherwise, after) =>
          ((value? name).getD otherwise).toList ++ resolve value? fuel after
      | none => .char '$' :: .char '\x7b' :: resolve value? fuel rest
  | fuel + 1, c :: rest => .char c :: resolve value? fuel rest

/-- Resolves the values of bindings in order.  A reference sees the variables
above it, and then the environment; a name alone has no value, and hides the
variable it names. -/
def resolveAll (environment : List (Text × Text)) :
    (above : List (Text × Option Text)) → List Binding → List (Text × Option Text)
  | above, [] => above
  | above, .skipped :: rest => resolveAll environment above rest
  | above, .bare name :: rest => resolveAll environment (Entries.set name none above) rest
  | above, .assigned name value :: rest =>
      let value? : String → Option Text := fun wanted =>
        match above.lookup (wanted : Text) with
        | some known => some (known.getD "")
        | none => lookupLast environment wanted
      let characters := value.toList
      let resolved := Text.ofList (resolve value? (characters.length + 1) characters)
      resolveAll environment (Entries.set name (some resolved) above) rest

/-- The variables of a file.  One whose last line is its name alone has no
value. -/
def entries (environment : List (Text × Text)) (text : String) :
    List (Text × Option Text) :=
  let characters := Text.unifyLineEnds text.toList
  resolveAll environment [] (takeBindings (characters.length + 1) characters)

end Tunables.Dotenv
