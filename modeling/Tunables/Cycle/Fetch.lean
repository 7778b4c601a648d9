import Tunables.Cycle.Failure
import Tunables.Cycle.Talk
import Tunables.Parameter.Record

/-!
# Fetching from the cluster

The cluster is asked for the names of its parameters, and for the help record
of one parameter at a time.
-/

namespace Tunables

def textItems (items : List Json) : List Text :=
  items.filterMap fun
    | .string text => some text
    | _ => none

/-- The names in the reply to a listing. -/
def namesOfReply (bytes : Text.Bytes) : Except Failure (List Text) :=
  match (Document.bytes bytes).decodeReply "'config ls' reply" with
  | .error error => .error (.reply error)
  | .ok reply =>
      match checkReply reply .nameListing, reply with
      | .error error, _ => .error (.reply error)
      | .ok _, .array items => .ok (textItems items)
      | .ok _, _ => .ok []

/-- Asks for the names of all parameters. -/
def fetchNames : Talk (Except Failure (List Text)) :=
  .ask .listing fun
    | .error fault => .done (.error (.fault fault))
    | .ok bytes => .done (namesOfReply bytes)

/-- The parameter in the reply to a request for help on a name. -/
def parameterOfReply (name : Text) (bytes : Text.Bytes) : Except Failure Parameter :=
  match (Document.bytes bytes).decodeReply ("'config help' reply for '" ++ name ++ "'") with
  | .error error => .error (.reply error)
  | .ok record =>
      match checkReply record .helpRecord with
      | .error error => .error (.reply error)
      | .ok _ =>
          match Parameter.ofRecord record with
          | .ok p => .ok p
          | .error (.invalid rejection) => .error (.reply (.invalid name rejection))
          | .error (.bound error) => .error (.bound error)

/-- Keeps the name that was asked for, and reports another one. -/
def keepName (name : Text) (p : Parameter) : Talk (Except Failure Parameter) :=
  if p.name = name then .done (.ok p)
  else
    .say (.warning ("'config help' for '" ++ name ++ "' answered with '" ++ p.name ++
        "', keeping requested name"))
      (.done (.ok { p with name := name }))

/-- Asks for the help record of a name. -/
def fetchDetail (name : Text) : Talk (Except Failure Parameter) :=
  .ask (.help name) fun
    | .error fault => .done (.error (.fault fault))
    | .ok bytes =>
        match parameterOfReply name bytes with
        | .error failure => .done (.error failure)
        | .ok p => keepName name p

end Tunables
