import Tunables.Executor.Tool
import Tunables.Settings

/-!
# Executors

The settings choose how commands reach the cluster: through a tool, or not at
all, with scripted answers in its place.
-/

namespace Tunables

/-- What runs commands. -/
inductive Executor where
  | script (script : Script)
  | tool (tool : Tool)

namespace Executor

/-- The entries that an executor logs before it carries out a command. -/
def startEntries : Executor → Command → List LogEntry
  | .script _, _ => []
  | .tool _, command => [Tool.startEntry command]

/-- Why settings give no executor. -/
inductive BuildError where
  | unsupported (name : Text)
  | replies (error : Script.LoadError)
  | limit (error : Settings.TruncationError)
  deriving DecidableEq, Repr

/-- The wording of a choice without an executor. -/
def BuildError.message : BuildError → Text
  | .unsupported name => "Unsupported executor '" ++ name ++ "'. Use 'ceph' or 'mock'."
  | .replies error => error.message
  | .limit error => error.message

/-- A choice without an executor, with its kind. -/
def BuildError.shown : BuildError → Text
  | .replies (.unreadable cause) => cause.shown
  | .replies (.noDirectory path) =>
      (Fault.command (.plain (Script.LoadError.noDirectory path).message)).shown
  | .limit .infinite =>
      (Fault.foreign "OverflowError" Settings.TruncationError.infinite.message).shown
  | error => (Fault.foreign "ValueError" error.message).shown

def toolOf (s : Settings) : Except Settings.TruncationError Tool :=
  s.baseArguments.map fun arguments =>
    ⟨s.cephBinary, arguments, s.commandTimeout.map Seconds.fractional⟩

/-- The scripted executor that settings describe: its answers lie in a
directory, if one is named. -/
def scriptOf (tree : FileTree) (s : Settings) : Logged (Except Script.LoadError Script) :=
  match s.mockDataDir with
  | none => ⟨.ok .empty, []⟩
  | some path => if path.isEmpty then ⟨.ok .empty, []⟩ else Script.ofDirectory tree path

/-- The executor that settings name, in any case. -/
def ofSettings (tree : FileTree) (s : Settings) : Logged (Except BuildError Executor) :=
  let kind := Text.lower s.executor
  if kind = "mock" then
    let loaded := scriptOf tree s
    ⟨(loaded.value.mapError .replies).map .script, loaded.entries⟩
  else if kind = "ceph" then ⟨((toolOf s).mapError .limit).map .tool, []⟩
  else ⟨.error (.unsupported s.executor), []⟩

end Executor
end Tunables
