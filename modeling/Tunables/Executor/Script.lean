import Tunables.Command
import Tunables.Fault
import Tunables.FileTree
import Tunables.Log.Entry
import Tunables.Moment
import Tunables.Reply
import Tunables.Text.Utf8

/-!
# Scripted executors

A scripted executor answers commands from a table.  Help records are looked up
by the name asked for, everything else by the phrase of the command.  It can be
told to fail, to wait before it answers, and to raise any fault.
-/

namespace Tunables

/-- The bytes of a document.  A text with a surrogate has none. -/
def Document.toBytes : Document → Except Text.Utf8.EncodeError Text.Bytes
  | .text source => Text.Utf8.encodeText source
  | .bytes source => .ok source
  | .value (.string source) => Text.Utf8.encodeText source
  | .value other => .ok (Text.Utf8.encode other.write)

/-- The answer that a document gives. -/
def Document.answer (reply : Document) : Except Fault Text.Bytes :=
  reply.toBytes.mapError fun error => .foreign "UnicodeEncodeError" error.message

/-- A scripted executor.  `responses` is keyed by phrase, `details` by name;
`delays` and `faults` take both kinds of key. -/
structure Script where
  responses : List (Text × Document)
  details : List (Text × Document)
  failing : List Text
  delays : List (Text × Moment)
  faults : List (Text × Fault)

namespace Script

def empty : Script :=
  ⟨[], [], [], [], []⟩

/-- The key under which a command is looked up. -/
def key (command : Command) : Text :=
  command.helpName?.getD command.replyKey

/-- How long the executor waits before it answers, if it waits at all. -/
def delay? (script : Script) (command : Command) : Option Moment :=
  script.delays.lookup (key command)

def refuse (command : Command) (message status : Text) : Except Fault Text.Bytes :=
  .error (.command ⟨message, command.text, status⟩)

/-- The answer from the table of help records. -/
def answerHelp (script : Script) (command : Command) (name : Text) :
    Except Fault Text.Bytes :=
  if script.failing.contains name then
    refuse command ("Injected failure for parameter '" ++ name ++ "'") ""
  else
    match script.details.lookup name with
    | none => refuse command ("Unknown parameter '" ++ name ++ "'") "ENOENT"
    | some reply => reply.answer

/-- The answer from the table of phrases. -/
def answerPhrase (script : Script) (command : Command) : Except Fault Text.Bytes :=
  let phrase := command.replyKey
  if script.failing.contains phrase then
    refuse command ("Injected failure for command '" ++ phrase ++ "'") ""
  else
    match script.responses.lookup phrase with
    | none => refuse command ("Unknown monitor command prefix: " ++ phrase) ""
    | some reply => reply.answer

def answer (script : Script) (command : Command) : Except Fault Text.Bytes :=
  match script.faults.lookup (key command) with
  | some fault => .error fault
  | none =>
      match command.helpName? with
      | some name => script.answerHelp command name
      | none => script.answerPhrase command

/-- The names that recorded commands asked help for.  A command for help that
names nothing has none. -/
def helpNames : List Command → Except Fault (List Text)
  | [] => .ok []
  | command :: rest =>
      if command.phrase = Command.helpPhrase then
        match command.argument? "key" with
        | none => .error (.missingKey "key")
        | some name => (helpNames rest).map (name :: ·)
      else helpNames rest

/-- The name of a reply file without its ending, if it has the right one. -/
def replyStem? (name : Text) : Option Text :=
  let ending := (".json" : Text).toList
  if ending.isSuffixOf name.toList then
    let stem := name.toList.take (name.toList.length - ending.length)
    some (if stem.isEmpty then name else .ofList stem)
  else none

/-- Why no script could be read from a directory. -/
inductive LoadError where
  | noDirectory (path : Text)
  | unreadable (cause : FileError)
  deriving DecidableEq, Repr

/-- The wording of a directory without a script. -/
def LoadError.message : LoadError → Text
  | .noDirectory path => "Mock data directory " ++ path ++ " does not exist"
  | .unreadable cause => cause.message

def repliesIn (tree : FileTree) (directory : TreePath) :
    List Text → Except LoadError (List (Text × Document))
  | [] => .ok []
  | name :: rest =>
      match replyStem? name with
      | none => repliesIn tree directory rest
      | some stem =>
          match tree.read (directory.child name) with
          | .error cause => .error (.unreadable cause)
          | .ok bytes => (repliesIn tree directory rest).map ((stem, .bytes bytes) :: ·)

/-- The replies directly in a directory, none when there is no such one. -/
def repliesOf (tree : FileTree) (directory : TreePath) :
    Except LoadError (List (Text × Document)) :=
  if tree.isDirectory directory then
    repliesIn tree directory (tree.entryNames directory)
  else .ok []

/-- Reads a script from a directory: the replies to phrases from its own files,
help records from those in `config_help`. -/
def ofDirectory (tree : FileTree) (path : Text) : Logged (Except LoadError Script) :=
  let base := TreePath.ofText path
  if !tree.isDirectory base.resolved then ⟨.error (.noDirectory base.text), []⟩
  else
    match repliesOf tree base.resolved, repliesOf tree (base.resolved.child "config_help") with
    | .ok responses, .ok details =>
        ⟨.ok ⟨responses, details, [], [], []⟩,
          [.info ("Mock executor loaded " ++ toString responses.length ++
            " command replies and " ++ toString details.length ++
            " parameter details from " ++ base.text)]⟩
    | .error error, _ => ⟨.error error, []⟩
    | _, .error error => ⟨.error error, []⟩

end Script
end Tunables
