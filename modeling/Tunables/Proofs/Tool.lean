import Tunables.Executor.Tool
import Tunables.Proofs.Cutoffs

/-!
# How the run of a command ends

Three things can end the wait for a program: it ends by itself, its time runs out, or
the call is given up.  The earliest of them decides how the call ends, and the program
is killed exactly if it does not end by itself.
-/

namespace Tunables

/-! ## What ends a wait -/

/-- What can end the wait for a program. -/
inductive Ending where
  | byItself
  | timeout
  | cancellation
  deriving DecidableEq

namespace Ending

variable {moments : Ending → Option Moment} {ending other : Ending} {moment later : Moment}

/-- Of the endings that come at some moments this one comes first. -/
structure IsEarliest (moments : Ending → Option Moment) (ending : Ending) (moment : Moment) :
    Prop where
  comes : moments ending = some moment
  before : ∀ other, other ≠ ending → ∀ later ∈ moments other, moment < later

/-- No two endings come at the same moment. -/
def Apart (moments : Ending → Option Moment) : Prop :=
  ∀ ending other, ending ≠ other → ∀ moment ∈ moments ending, moment ∉ moments other

theorem IsEarliest.unique (first : IsEarliest moments ending moment)
    (second : IsEarliest moments other later) : ending = other ∧ moment = later := by
  by_cases same : ending = other
  · subst same
    exact ⟨rfl, Option.some.inj (first.comes.symm.trans second.comes)⟩
  · have forth := first.before other (Ne.symm same) later second.comes
    have back := second.before ending same moment first.comes
    exact absurd forth back.asymm

theorem Apart.lt_of_le (apart : Apart moments) (first : moments ending = some moment)
    (second : moments other = some later) (different : other ≠ ending) (le : moment ≤ later) :
    moment < later := by
  refine lt_of_le_of_ne le ?_
  rintro rfl
  exact apart other ending different moment second first

end Ending

/-- The ending that a cut brings. -/
def CutReason.ending : CutReason → Ending
  | .deadline => .timeout
  | .cancellation => .cancellation

/-! ## Running a command -/

namespace Tool

variable {tool : Tool} {command : Command} {program : ProgramRun} {delay : Moment}
  {cancellation : Option Moment} {cut : Cut}

/-- When each ending of the wait for a program comes, if it does. -/
def endings (tool : Tool) (delay : Moment) (cancellation : Option Moment) :
    Ending → Option Moment
  | .byItself => some delay
  | .timeout => tool.limit.deadline 0
  | .cancellation => cancellation

/-- What a call comes to for each ending of the wait. -/
def outcomeOf (tool : Tool) (program : ProgramRun) : Ending → ToolOutcome
  | .byItself =>
      if program.exitCode = 0 then .answered program.output
      else .failed (.exited program.exitCode
        (Text.trim (Text.Utf8.decodeLenient program.errorOutput)))
  | .timeout => .failed (.timedOut tool.limit)
  | .cancellation => .cancelled

/-- What is done to the program for each ending of the wait. -/
def signalsOf : Ending → List Signal
  | .byItself => []
  | .timeout => [.kill, .wait]
  | .cancellation => [.kill]

/-- A run ends as this ending of the wait demands, and when it comes. -/
structure IsDecidedBy (tool : Tool) (program : ProgramRun) (r : ToolRun) (ending : Ending)
    (moment : Moment) : Prop where
  outcome : r.outcome = tool.outcomeOf program ending
  signals : r.signals = signalsOf ending
  finish : r.finish = max 0 moment

theorem kill_mem_signalsOf_iff {ending : Ending} :
    Signal.kill ∈ signalsOf ending ↔ ending = .timeout ∨ ending = .cancellation := by
  cases ending <;> decide

theorem isDecidedBy_finishedRun (command : Command) (positive : 0 < delay) :
    tool.IsDecidedBy program (finishedRun command program delay) .byItself delay where
  outcome := by
    change (judge command program).1 = _
    by_cases succeeded : program.exitCode = 0
    · simp [judge, outcomeOf, succeeded]
    · simp [judge, outcomeOf, succeeded, statusOf]
  signals := rfl
  finish := (max_eq_right positive.le).symm

theorem isDecidedBy_cutRun (command : Command) (cut : Cut) :
    tool.IsDecidedBy program (cutRun tool command cut (max 0 cut.moment)) cut.reason.ending
      cut.moment := by
  unfold cutRun
  cases cut.reason with
  | deadline => exact ⟨rfl, rfl, rfl⟩
  | cancellation => exact ⟨rfl, rfl, rfl⟩

theorem isEarliest_byItself
    (uncut : (Cutoffs.mk (tool.limit.deadline 0) cancellation).first? delay = none) :
    Ending.IsEarliest (tool.endings delay cancellation) .byItself delay := by
  obtain ⟨inTime, notGivenUp⟩ := Cutoffs.first?_eq_none_iff.mp uncut
  refine ⟨rfl, ?_⟩
  intro other different later comes
  cases other with
  | byItself => exact absurd rfl different
  | timeout => exact inTime later comes
  | cancellation => exact notGivenUp later comes

theorem isEarliest_of_cut (apart : Ending.Apart (tool.endings delay cancellation))
    (first : (Cutoffs.mk (tool.limit.deadline 0) cancellation).first? delay = some cut) :
    Ending.IsEarliest (tool.endings delay cancellation) cut.reason.ending cut.moment := by
  obtain ⟨inTime, ⟨same, limited, noLater⟩ | ⟨same, givenUp, earlier⟩⟩ :=
    Cutoffs.cases_of_first? first
  · have comes : tool.endings delay cancellation .timeout = some cut.moment := limited
    have brings : cut.reason.ending = .timeout := by rw [same]; rfl
    rw [brings]
    refine ⟨comes, ?_⟩
    intro other different later follows
    refine apart.lt_of_le comes follows different ?_
    cases other with
    | byItself => exact Option.some.inj follows ▸ inTime
    | timeout => exact absurd rfl different
    | cancellation => exact noLater later follows
  · have comes : tool.endings delay cancellation .cancellation = some cut.moment := givenUp
    have brings : cut.reason.ending = .cancellation := by rw [same]; rfl
    rw [brings]
    refine ⟨comes, ?_⟩
    intro other different later follows
    refine apart.lt_of_le comes follows different ?_
    cases other with
    | byItself => exact Option.some.inj follows ▸ inTime
    | timeout => exact (earlier later follows).le
    | cancellation => exact absurd rfl different

/-- A program that takes some time leads to a run that is decided by an earliest ending. -/
theorem exists_isDecidedBy (command : Command) (waits : program.delay = some delay)
    (positive : 0 < delay) (apart : Ending.Apart (tool.endings delay cancellation)) :
    ∃ ending moment, Ending.IsEarliest (tool.endings delay cancellation) ending moment ∧
      tool.IsDecidedBy program (run tool command (.running program) cancellation) ending
        moment := by
  simp only [run, waits, max_eq_left positive.le]
  split
  · next cut first => exact ⟨_, _, isEarliest_of_cut apart first, isDecidedBy_cutRun command cut⟩
  · next uncut => exact ⟨_, _, isEarliest_byItself uncut, isDecidedBy_finishedRun command positive⟩

/-- Every run logs the command that is started, whatever comes of it. -/
theorem entries_run (tool : Tool) (command : Command) (start : Start)
    (cancellation : Option Moment) :
    (run tool command start cancellation).entries =
      startEntry command :: (run tool command start cancellation).laterEntries := by
  have cut (reason : Cut) (moment : Moment) :
      (cutRun tool command reason moment).entries = [startEntry command] := by
    unfold cutRun
    split <;> rfl
  cases start with
  | failed error => rfl
  | running program =>
      rw [ToolRun.laterEntries, run]
      split
      · rfl
      · split
        · rw [cut]
          rfl
        · rfl

/-- If a program cannot be started, this is what comes of the call.  Otherwise the earliest
of three things decides: the program ends by itself, the time runs out, or the call is given
up.  The program is killed exactly if it does not end by itself, so none goes on running, and
every failure names the command. -/
theorem run_decided_by_earliest (tool : Tool) (command : Command)
    (cancellation : Option Moment) :
    (∀ error, (run tool command (.failed error) cancellation).outcome =
        .failed (.notStarted tool.binary error) ∧
      (run tool command (.failed error) cancellation).signals = []) ∧
    (∀ program delay, program.delay = some delay → 0 < delay →
      Ending.Apart (tool.endings delay cancellation) →
      (∃ ending moment, Ending.IsEarliest (tool.endings delay cancellation) ending moment) ∧
      ∀ ending moment, Ending.IsEarliest (tool.endings delay cancellation) ending moment →
        tool.IsDecidedBy program (run tool command (.running program) cancellation) ending
          moment ∧
        (.kill ∈ (run tool command (.running program) cancellation).signals ↔
          ending = .timeout ∨ ending = .cancellation) ∧
        (.kill ∉ (run tool command (.running program) cancellation).signals →
          delay ≤ (run tool command (.running program) cancellation).finish)) ∧
    ∀ error : ToolError,
      error.toFault command = .command ⟨error.message, command.text, error.status⟩ := by
  refine ⟨fun error => ⟨rfl, rfl⟩, ?_, fun error => rfl⟩
  intro program delay waits positive apart
  obtain ⟨ending, moment, earliest, decided⟩ := exists_isDecidedBy command waits positive apart
  refine ⟨⟨ending, moment, earliest⟩, ?_⟩
  intro other later first
  obtain ⟨rfl, rfl⟩ := earliest.unique first
  refine ⟨decided, ?_, ?_⟩
  · rw [decided.signals, kill_mem_signalsOf_iff]
  · rw [decided.signals, decided.finish]
    intro spared
    cases ending with
    | byItself => exact Option.some.inj earliest.comes ▸ le_max_right 0 delay
    | timeout => exact absurd List.mem_cons_self spared
    | cancellation => exact absurd List.mem_cons_self spared

/-- The call would be given up after two seconds and the program end after three, but the
time runs out after one. -/
theorem run_decided_by_earliest_timeout :
    let second : Moment := Binary64.unitsPerOne
    let tool : Tool := ⟨"ceph", [], some (.whole 1)⟩
    let program : ProgramRun := ⟨[], [], 0, some (3 * second)⟩
    0 < 3 * second ∧ Ending.Apart (tool.endings (3 * second) (some (2 * second))) ∧
      Ending.IsEarliest (tool.endings (3 * second) (some (2 * second))) .timeout second ∧
      tool.IsDecidedBy program (run tool .listing (.running program) (some (2 * second))) .timeout
        second := by
  intro second tool program
  have positive : 0 < 3 * second := by decide +kernel
  have apart : Ending.Apart (tool.endings (3 * second) (some (2 * second))) := by
    intro ending other
    cases ending <;> cases other <;> decide +kernel
  have earliest : Ending.IsEarliest (tool.endings (3 * second) (some (2 * second))) .timeout
      second := by
    refine ⟨by decide +kernel, ?_⟩
    intro other
    cases other <;> decide +kernel
  obtain ⟨-, decides, -⟩ := run_decided_by_earliest tool .listing (some (2 * second))
  have decided := (decides program (3 * second) rfl positive apart).2 .timeout second earliest
  exact ⟨positive, apart, earliest, decided.1⟩

end Tool
end Tunables
