import Tunables.Cycle.Talk

/-!
# What a talk can come to

A talk ends with a value over the exchanges that it had: the commands it asked
for, each with the answer that came back.  Nothing is assumed about where the
answers come from, so an executor that changes its mind, a deadline and an
interruption are all among them.
-/

namespace Tunables

/-- A command and the answer to it. -/
structure Exchange where
  command : Command
  answer : Answer

namespace Talk

/-- A talk ends with a value after some exchanges. -/
inductive EndsWith {α : Type} : Talk α → List Exchange → α → Prop where
  | done (value : α) : EndsWith (.done value) [] value
  | say {entry : LogEntry} {next : Talk α} {exchanges : List Exchange} {value : α} :
      EndsWith next exchanges value → EndsWith (.say entry next) exchanges value
  | ask {command : Command} {resume : Answer → Talk α} {answer : Answer}
      {exchanges : List Exchange} {value : α} :
      EndsWith (resume answer) exchanges value →
      EndsWith (.ask command resume) (⟨command, answer⟩ :: exchanges) value

variable {α β ε : Type}

@[simp] theorem endsWith_done_iff {value result : α} {exchanges : List Exchange} :
    (Talk.done value).EndsWith exchanges result ↔ exchanges = [] ∧ result = value := by
  constructor
  · intro ends
    cases ends
    exact ⟨rfl, rfl⟩
  · intro parts
    obtain ⟨rfl, rfl⟩ := parts
    exact .done result

@[simp] theorem endsWith_say_iff {entry : LogEntry} {next : Talk α}
    {exchanges : List Exchange} {result : α} :
    (Talk.say entry next).EndsWith exchanges result ↔ next.EndsWith exchanges result := by
  constructor
  · intro ends
    cases ends with
    | say later => exact later
  · exact .say

theorem endsWith_ask_iff {command : Command} {resume : Answer → Talk α}
    {exchanges : List Exchange} {result : α} :
    (Talk.ask command resume).EndsWith exchanges result ↔
      ∃ answer later, exchanges = ⟨command, answer⟩ :: later ∧
        (resume answer).EndsWith later result := by
  constructor
  · intro ends
    cases ends with
    | ask later => exact ⟨_, _, rfl, later⟩
  · intro parts
    obtain ⟨answer, later, rfl, ends⟩ := parts
    exact .ask ends

/-- The exchanges of work that goes on are those of its first part and then
those of its second. -/
theorem endsWith_bind_iff {talk : Talk α} {next : α → Talk β}
    {exchanges : List Exchange} {result : β} :
    (talk.bind next).EndsWith exchanges result ↔
      ∃ first middle second, exchanges = first ++ second ∧
        talk.EndsWith first middle ∧ (next middle).EndsWith second result := by
  induction talk generalizing exchanges with
  | done value =>
      constructor
      · intro ends
        exact ⟨[], value, exchanges, rfl, .done value, ends⟩
      · intro parts
        obtain ⟨first, middle, second, rfl, before, after⟩ := parts
        obtain ⟨rfl, rfl⟩ := endsWith_done_iff.mp before
        exact after
  | say entry rest ih => simp only [say_bind, endsWith_say_iff, ih]
  | ask command resume ih =>
      rw [ask_bind, endsWith_ask_iff]
      constructor
      · intro parts
        obtain ⟨answer, later, rfl, ends⟩ := parts
        obtain ⟨first, middle, second, rfl, before, after⟩ := (ih answer).mp ends
        exact ⟨_ :: first, middle, second, rfl, .ask before, after⟩
      · intro parts
        obtain ⟨first, middle, second, rfl, before, after⟩ := parts
        obtain ⟨answer, later, rfl, ends⟩ := endsWith_ask_iff.mp before
        exact ⟨answer, later ++ second, rfl,
          (ih answer).mpr ⟨later, middle, second, rfl, ends, after⟩⟩

theorem endsWith_map_iff {talk : Talk α} {change : α → β} {exchanges : List Exchange}
    {result : β} :
    (talk.map change).EndsWith exchanges result ↔
      ∃ middle, talk.EndsWith exchanges middle ∧ result = change middle := by
  rw [map, endsWith_bind_iff]
  constructor
  · intro parts
    obtain ⟨first, middle, second, rfl, before, after⟩ := parts
    obtain ⟨rfl, rfl⟩ := endsWith_done_iff.mp after
    exact ⟨middle, by rwa [List.append_nil], rfl⟩
  · intro parts
    obtain ⟨middle, before, rfl⟩ := parts
    exact ⟨exchanges, middle, [], (List.append_nil _).symm, before, .done _⟩

/-- Work that may fail succeeds as a whole when both parts do. -/
theorem endsWith_andThen_ok_iff {talk : Talk (Except ε α)} {next : α → Talk (Except ε β)}
    {exchanges : List Exchange} {result : β} :
    (talk.andThen next).EndsWith exchanges (.ok result) ↔
      ∃ first middle second, exchanges = first ++ second ∧
        talk.EndsWith first (.ok middle) ∧ (next middle).EndsWith second (.ok result) := by
  rw [andThen, endsWith_bind_iff]
  constructor
  · intro parts
    obtain ⟨first, middle, second, rfl, before, after⟩ := parts
    cases middle with
    | error failure => simp at after
    | ok value => exact ⟨first, value, second, rfl, before, after⟩
  · intro parts
    obtain ⟨first, middle, second, rfl, before, after⟩ := parts
    exact ⟨first, .ok middle, second, rfl, before, after⟩

@[simp] theorem endsWith_sayAll_iff {entries : List LogEntry} {next : Talk α}
    {exchanges : List Exchange} {result : α} :
    (sayAll entries next).EndsWith exchanges result ↔ next.EndsWith exchanges result := by
  induction entries with
  | nil => exact Iff.rfl
  | cons entry rest ih => exact endsWith_say_iff.trans ih

theorem endsWith_mapOk_iff {talk : Talk (Except ε α)} {change : α → β}
    {exchanges : List Exchange} {result : β} :
    (talk.map (Except.map change)).EndsWith exchanges (.ok result) ↔
      ∃ middle, talk.EndsWith exchanges (.ok middle) ∧ result = change middle := by
  rw [endsWith_map_iff]
  constructor
  · intro parts
    obtain ⟨middle, before, equal⟩ := parts
    cases middle with
    | error failure => cases equal
    | ok value =>
        cases equal
        exact ⟨value, before, rfl⟩
  · intro parts
    obtain ⟨middle, before, rfl⟩ := parts
    exact ⟨.ok middle, before, rfl⟩

/-! ## On the way -/

/-- After some exchanges there is this much left of a talk. -/
inductive Reaches : Talk α → List Exchange → Talk α → Prop where
  | start (talk : Talk α) : Reaches talk [] talk
  | say {entry : LogEntry} {next rest : Talk α} {exchanges : List Exchange} :
      Reaches next exchanges rest → Reaches (.say entry next) exchanges rest
  | ask {command : Command} {resume : Answer → Talk α} {answer : Answer}
      {exchanges : List Exchange} {rest : Talk α} :
      Reaches (resume answer) exchanges rest →
      Reaches (.ask command resume) (⟨command, answer⟩ :: exchanges) rest

theorem Reaches.append {talk middle last : Talk α} {first second : List Exchange}
    (before : talk.Reaches first middle) (after : middle.Reaches second last) :
    talk.Reaches (first ++ second) last := by
  induction before with
  | start talk => exact after
  | say _ ih => exact .say (ih after)
  | ask _ ih => exact .ask (ih after)

/-- A talk waits for the answer to one command, and goes on with it. -/
theorem Reaches.answer {talk : Talk α} {exchanges : List Exchange} {command : Command}
    {resume : Answer → Talk α} (before : talk.Reaches exchanges (.ask command resume))
    (answer : Answer) :
    talk.Reaches (exchanges ++ [⟨command, answer⟩]) (resume answer) :=
  before.append (.ask (.start _))

theorem endsWith_iff_reaches {talk : Talk α} {exchanges : List Exchange} {value : α} :
    talk.EndsWith exchanges value ↔ talk.Reaches exchanges (.done value) := by
  constructor
  · intro ends
    induction ends with
    | done value => exact .start _
    | say _ ih => exact .say ih
    | ask _ ih => exact .ask ih
  · intro reaches
    generalize last : Talk.done value = rest at reaches
    induction reaches with
    | start talk =>
        cases last
        exact .done value
    | say _ ih => exact .say (ih last)
    | ask _ ih => exact .ask (ih last)

/-- The exchanges of a talk say what it comes to. -/
theorem EndsWith.unique {talk : Talk α} {exchanges : List Exchange} {first second : α}
    (ends : talk.EndsWith exchanges first) (again : talk.EndsWith exchanges second) :
    first = second := by
  induction ends with
  | done value => exact (endsWith_done_iff.mp again).2.symm
  | say _ ih => exact ih (endsWith_say_iff.mp again)
  | ask _ ih =>
      cases again with
      | ask later => exact ih later

theorem EndsWith.not_reaches_ask {talk : Talk α} {exchanges : List Exchange} {value : α}
    {command : Command} {resume : Answer → Talk α} (ends : talk.EndsWith exchanges value) :
    ¬ talk.Reaches exchanges (.ask command resume) := by
  intro reaches
  induction ends with
  | done value => cases reaches
  | say _ ih =>
      cases reaches with
      | say later => exact ih later
  | ask _ ih =>
      cases reaches with
      | ask later => exact ih later

end Talk
end Tunables
