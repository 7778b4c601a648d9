import Tunables.Json.Writer
import Tunables.Text.Blank

/-!
# Cluster commands

A command has a phrase such as `config ls`, arguments with keys, and the format
in which the reply is wanted.
-/

namespace Tunables

/-- A command to the cluster. -/
structure Command where
  phrase : Text
  arguments : List (Text × Text)
  format : Text
  deriving DecidableEq, Repr

namespace Command

/-- A command from arguments in the order given: a repeated key keeps its first
place and its last value. -/
def ofEntries (phrase : Text) (entries : List (Text × Text)) (format : Text) :
    Command :=
  ⟨phrase, Entries.ofPairs entries, format⟩

/-- The phrase of the command that lists the names of all parameters. -/
def listingPhrase : Text := "config ls"

/-- The phrase of the command that asks for the help record of a parameter. -/
def helpPhrase : Text := "config help"

/-- The command that lists the names of all parameters. -/
def listing : Command :=
  ⟨listingPhrase, [], "json"⟩

/-- The command that asks for the help record of a parameter. -/
def help (name : Text) : Command :=
  ⟨helpPhrase, [("key", name)], "json"⟩

/-- The members of a command in JSON: the phrase, the arguments and the format.
Arguments with the key of another member share its place. -/
def members (c : Command) : Members :=
  Members.ofEntries
    (([("prefix", .string c.phrase)] : Members) ++
      (c.arguments.map fun entry => (entry.1, .string entry.2)) ++
      ([("format", .string c.format)] : Members))

def text (c : Command) : String :=
  (Json.object c.members).write

/-- The phrase with underscores in place of spaces. -/
def replyKey (c : Command) : Text :=
  .ofList (c.phrase.toList.map fun ch => if ch = .char ' ' then .char '_' else ch)

def argument? (c : Command) (key : Text) : Option Text :=
  (c.arguments.find? fun entry => entry.1 == key).map (·.2)

/-- The words that run a command with a tool. -/
def words (c : Command) (binary : Text) (baseArguments : List Text) : List Text :=
  binary :: baseArguments ++ Text.words c.phrase ++ c.arguments.map (·.2) ++
    [("--format" : Text), c.format]

/-- The name that a command asks help for, if it is such a command. -/
def helpName? (c : Command) : Option Text :=
  if c.phrase = helpPhrase then some ((c.argument? "key").getD "") else none

end Command
end Tunables
