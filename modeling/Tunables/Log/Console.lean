import Tunables.Log.Calendar
import Tunables.Log.Entry
import Tunables.Log.Placeholders
import Tunables.Log.Zone
import Tunables.Text.Quoted

/-!
# The console

The console prints entries of a least severity with the time, their severity
and the correlation id of the work they belong to.  A scope gives work an id and
puts back the id that was there before.
-/

namespace Tunables

def LogLevel.rank : LogLevel → Nat
  | .debug => 10
  | .info => 20
  | .warning => 30
  | .error => 40
  | .critical => 50

/-- What is printed in front of an entry to colour it. -/
def LogLevel.colour : LogLevel → String
  | .debug => "\x1b[34m"
  | .info => ""
  | .warning => "\x1b[33m"
  | .error => "\x1b[31m"
  | .critical => "\x1b[1;31m"

/-- The console.  Entries below the threshold are not printed; each handler
prints an entry once. -/
structure Console where
  threshold : Nat
  zone : Zone
  handlers : Nat
  correlation : Option Text

/-- Why no console can be set up. -/
inductive ConsoleError where
  | unknownLevel (name : Text)
  | zone (error : Zone.NameError)
  deriving DecidableEq, Repr

def ConsoleError.message : ConsoleError → Text
  | .unknownLevel name => "Unknown level: " ++ Text.quoted name
  | .zone error => error.message

namespace Console

def thresholds : List (Text × Nat) :=
  [("CRITICAL", 50), ("FATAL", 50), ("ERROR", 40), ("WARN", 30), ("WARNING", 30), ("INFO", 20),
    ("DEBUG", 10), ("NOTSET", 0)]

def thresholdNamed (name : Text) : Except ConsoleError Nat :=
  match thresholds.lookup name with
  | some threshold => .ok threshold
  | none => .error (.unknownLevel name)

/-- A new console, set up as the environment says. -/
def create (zones : ZoneDatabase) (environment : List (Text × Text)) :
    Except ConsoleError Console :=
  match thresholdNamed ((environment.lookup ("LOG_LEVEL" : Text)).getD "NOTSET") with
  | .error error => .error error
  | .ok threshold =>
      match Zone.named zones ((environment.lookup ("LOG_TIMEZONE" : Text)).getD "UTC") with
      | .error error => .error (.zone error)
      | .ok zone => .ok ⟨threshold, zone, 1, none⟩

/-- The console that there is, or else a new one. -/
def obtain (existing : Option Console) (zones : ZoneDatabase)
    (environment : List (Text × Text)) : Except ConsoleError Console :=
  match existing with
  | some console => .ok console
  | none => create zones environment

/-- What stands for a missing or empty correlation id. -/
def noCorrelation : String := "-"

/-- The correlation id as it is printed. -/
def correlationText (console : Console) : Text :=
  match console.correlation with
  | some id => if id.isEmpty then noCorrelation else id
  | none => noCorrelation

/-- An entry as it is printed at a second. -/
def line (console : Console) (now : Int) (entry : LogEntry) : Text :=
  entry.level.colour ++ (CalendarTime.ofSeconds (now + console.zone.offsetAt now)).text ++ " | " ++
    entry.level.name ++ " | " ++ console.correlationText ++ " | " ++ entry.text ++ "\x1b[0m\n"

/-- What is printed for an entry with arguments. -/
def output (console : Console) (now : Int) (entry : LogEntry) (arguments : List Json) :
    Text :=
  if console.threshold ≤ entry.level.rank && Placeholders.fit entry.text arguments then
    Text.join (List.replicate console.handlers (console.line now entry))
  else ""

end Console

/-- Work with the console.  A scope has an id for its body, which may raise an
error at its end. -/
inductive ConsoleAction where
  | print (entry : LogEntry) (arguments : List Json)
  | setCorrelation (id : Option Text)
  | readCorrelation
  | obtain
  | scope (id : Option Text) (body : List ConsoleAction) (raises : Option Text)

/-- A value, the correlation id at that time, and what was printed on the way. -/
structure Printed (α : Type) where
  value : α
  correlation : Option Text
  output : Text

/-- What an action answers. -/
inductive ConsoleAnswer where
  | done
  | correlation (id : Option Text)
  | obtained (console : Console)
  | scope (id : Option Text) (body : List (Printed ConsoleAnswer)) (raised : Option Text)

namespace Console

/-- A value with the correlation id and what was printed. -/
def print {α : Type} (console : Console) (value : α) (output : Text) : Printed α :=
  ⟨value, console.correlation, output⟩

mutual

/-- Carries out an action at a second. -/
def perform (now : Int) (console : Console) :
    ConsoleAction → Printed ConsoleAnswer × Console
  | .print entry arguments =>
      (console.print .done (console.output now entry arguments), console)
  | .setCorrelation id =>
      let next := { console with correlation := id }
      (next.print .done "", next)
  | .readCorrelation => (console.print (.correlation console.correlation) "", console)
  | .obtain => (console.print (.obtained console) "", console)
  | .scope id body raises =>
      let (answers, inner) := performAll now { console with correlation := id } body
      let left := { inner with correlation := console.correlation }
      (left.print (.scope id answers raises) "", left)

def performAll (now : Int) (console : Console) :
    List ConsoleAction → List (Printed ConsoleAnswer) × Console
  | [] => ([], console)
  | action :: rest =>
      let (answer, next) := console.perform now action
      let (answers, last) := next.performAll now rest
      (answer :: answers, last)

end

end Console
end Tunables
