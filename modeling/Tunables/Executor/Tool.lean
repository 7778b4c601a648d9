import Tunables.Cycle.Timed

/-!
# Running commands with a tool

A command is run by starting a program with the words of the command.  The
program is killed when it takes too long or when the call is given up; a killed
program is waited for only in the first case.
-/

namespace Tunables

/-- The program that runs commands, and how long a command may take. -/
structure Tool where
  binary : Text
  baseArguments : List Text
  limit : Timeout
  deriving DecidableEq

/-- The tool used unless another one is given. -/
def Tool.standard : Tool :=
  ⟨"ceph", [], some (.fractional (.ofDecimal false 30 0))⟩

def Tool.words (tool : Tool) (command : Command) : List Text :=
  command.words tool.binary tool.baseArguments

/-- Why a program could not be started. -/
structure StartError where
  kind : String
  number : Int
  reason : Text
  deriving DecidableEq, Repr

def StartError.message (error : StartError) : Text :=
  "[Errno " ++ toString error.number ++ "] " ++ error.reason

/-- The kinds of error that have a name, by their numbers. -/
def namedStartErrors : List (Int × String) :=
  [(1, "PermissionError"), (2, "FileNotFoundError"), (3, "ProcessLookupError"),
    (4, "InterruptedError"), (10, "ChildProcessError"), (11, "BlockingIOError"),
    (13, "PermissionError"), (17, "FileExistsError"), (20, "NotADirectoryError"),
    (21, "IsADirectoryError"), (32, "BrokenPipeError"), (103, "ConnectionAbortedError"),
    (104, "ConnectionResetError"), (108, "BrokenPipeError"), (110, "TimeoutError"),
    (111, "ConnectionRefusedError"), (114, "BlockingIOError"), (115, "BlockingIOError")]

/-- A failed start given as a kind and a number.  The general kind gives way to
the one named for the number. -/
def StartError.of (kind : String) (number : Int) (reason : Text) : StartError :=
  if kind = "OSError" then ⟨(namedStartErrors.lookup number).getD kind, number, reason⟩
  else ⟨kind, number, reason⟩

/-- What a started program does: what it prints, the code it ends with, and how
long it takes. -/
structure ProgramRun where
  output : Text.Bytes
  errorOutput : Text.Bytes
  exitCode : Int
  delay : Option Moment

/-- How a start of the program goes. -/
inductive Start where
  | failed (error : StartError)
  | running (run : ProgramRun)

/-- How a command run by a tool fails. -/
inductive ToolError where
  | notStarted (binary : Text) (cause : StartError)
  | timedOut (limit : Timeout)
  | exited (code : Int) (status : Text)
  deriving DecidableEq

def ToolError.message : ToolError → Text
  | .notStarted binary cause => "Could not start '" ++ binary ++ "': " ++ cause.message
  | .timedOut limit => "Command timed out after " ++ limit.text ++ "s"
  | .exited code _ => "Command exited with code " ++ toString code

/-- The status that the program gave with a failed command. -/
def ToolError.status : ToolError → Text
  | .exited _ status => status
  | _ => ""

def ToolError.toFault (error : ToolError) (command : Command) : Fault :=
  .command ⟨error.message, command.text, error.status⟩

/-- What is done to a running program. -/
inductive Signal where
  | kill
  | wait
  deriving DecidableEq, Repr

/-- How a command run by a tool ends. -/
inductive ToolOutcome where
  | answered (output : Text.Bytes)
  | failed (error : ToolError)
  | cancelled
  deriving DecidableEq

/-- The run of a command by a tool. -/
structure ToolRun where
  outcome : ToolOutcome
  signals : List Signal
  entries : List LogEntry
  finish : Moment

namespace ToolRun

/-- The answer that a run gives to whoever asked for the command. -/
def answer (run : ToolRun) (command : Command) : Answer :=
  match run.outcome with
  | .answered output => .ok output
  | .failed error => .error (error.toFault command)
  | .cancelled => .error .cancellation

/-- What a run logs after the entry at its start. -/
def laterEntries (run : ToolRun) : List LogEntry :=
  run.entries.tail

end ToolRun

namespace Tool

/-- The words that entries about a command start with. -/
def subject (command : Command) : Text :=
  "Cluster command " ++ command.text

/-- The status in what a program printed as errors. -/
def statusOf (errorOutput : Text.Bytes) : Text :=
  Text.trim (Text.Utf8.decodeLenient errorOutput)

/-- The outcome and the entries of a program that ended. -/
def judge (command : Command) (run : ProgramRun) : ToolOutcome × List LogEntry :=
  let status := statusOf run.errorOutput
  if run.exitCode ≠ 0 then
    (.failed (.exited run.exitCode status),
      [.error (subject command ++ " exited with " ++ toString run.exitCode ++ ": " ++ status)])
  else
    (.answered run.output,
      (if status.isEmpty then []
        else [.info (subject command ++ " executed with status: " ++ status)]) ++
      [.debug (subject command ++ " returned " ++ toString run.output.length ++ " bytes")])

/-- The entry logged before a program is started. -/
def startEntry (command : Command) : LogEntry :=
  .debug ("Executing cluster command " ++ command.text)

/-- The run of a program that ended by itself at a moment. -/
def finishedRun (command : Command) (run : ProgramRun) (finish : Moment) : ToolRun :=
  let (outcome, entries) := judge command run
  ⟨outcome, [], startEntry command :: entries, finish⟩

/-- The run of a program that was cut off. -/
def cutRun (tool : Tool) (command : Command) (cut : Cut) (finish : Moment) : ToolRun :=
  match cut.reason with
  | .deadline =>
      ⟨.failed (.timedOut tool.limit), [.kill, .wait], [startEntry command], finish⟩
  | .cancellation => ⟨.cancelled, [.kill], [startEntry command], finish⟩

/-- Runs a command at time zero; the call is given up at a moment, if any. -/
def run (tool : Tool) (command : Command) (start : Start) (cancellation : Option Moment) :
    ToolRun :=
  match start with
  | .failed error =>
      ⟨.failed (.notStarted tool.binary error), [], [startEntry command], 0⟩
  | .running program =>
      match program.delay with
      | none => finishedRun command program 0
      | some delay =>
          match (Cutoffs.mk (tool.limit.deadline 0) cancellation).first? (max delay 0) with
          | some cut => cutRun tool command cut (max 0 cut.moment)
          | none => finishedRun command program (max delay 0)

end Tool
end Tunables
