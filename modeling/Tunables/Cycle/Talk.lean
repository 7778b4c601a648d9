import Tunables.Command
import Tunables.Fault
import Tunables.Log.Entry
import Tunables.Text.Decoding

/-!
# Talks with an executor

A talk is work that logs entries and asks an executor to run commands, and that
goes on with whatever answers come back.  How long an answer takes, and whether
the work is cut off while it waits, is no part of the talk.
-/

namespace Tunables

/-- What an executor gives back for a command. -/
abbrev Answer := Except Fault Text.Bytes

/-- Work that ends with a value. -/
inductive Talk (α : Type) where
  | done (value : α)
  | say (entry : LogEntry) (next : Talk α)
  | ask (command : Command) (resume : Answer → Talk α)

namespace Talk

/-- Goes on with work that depends on the value of the first. -/
def bind {α β : Type} (talk : Talk α) (next : α → Talk β) : Talk β :=
  match talk with
  | .done value => next value
  | .say entry rest => .say entry (rest.bind next)
  | .ask command resume => .ask command fun answer => (resume answer).bind next

@[simp] theorem done_bind {α β : Type} (value : α) (next : α → Talk β) :
    (Talk.done value).bind next = next value :=
  rfl

@[simp] theorem say_bind {α β : Type} (entry : LogEntry) (rest : Talk α)
    (next : α → Talk β) : (Talk.say entry rest).bind next = .say entry (rest.bind next) :=
  rfl

@[simp] theorem ask_bind {α β : Type} (command : Command) (resume : Answer → Talk α)
    (next : α → Talk β) :
    (Talk.ask command resume).bind next =
      .ask command fun answer => (resume answer).bind next :=
  rfl

def map {α β : Type} (change : α → β) (talk : Talk α) : Talk β :=
  talk.bind fun value => .done (change value)

/-- Goes on with the value of work that may have failed. -/
def andThen {ε α β : Type} (talk : Talk (Except ε α)) (next : α → Talk (Except ε β)) :
    Talk (Except ε β) :=
  talk.bind fun
    | .ok value => next value
    | .error failure => .done (.error failure)

def sayAll {α : Type} (entries : List LogEntry) (next : Talk α) : Talk α :=
  entries.foldr .say next

end Talk
end Tunables
