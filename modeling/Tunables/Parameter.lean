import Tunables.Bound
import Tunables.Scalar

/-!
# Parameters

The help record of one tunable parameter.
-/

namespace Tunables

/-- Help data for one parameter. -/
structure Parameter where
  name : Text
  valueType : Text
  level : Text
  description : Text
  longDescription : Text
  default : Scalar
  daemonDefault : Scalar
  tags : List Text
  services : List Text
  seeAlso : List Text
  enumValues : List Text
  min : Bound
  max : Bound
  canUpdateAtRuntime : Bool
  flags : List Text
  deriving DecidableEq

namespace Parameter

/-- A parameter of which only the name is known. -/
def named (name : Text) : Parameter :=
  ⟨name, "", "", "", "", .none, .none, [], [], [], [], none, none, false, []⟩

/-- The service listed first, or the empty text. -/
def primaryService (p : Parameter) : Text :=
  p.services.headD ""

/-- Equality of parameters: texts and lists are the same, numbers have the same
value. -/
def sameAs (p q : Parameter) : Bool :=
  p.name == q.name && p.valueType == q.valueType && p.level == q.level &&
    p.description == q.description && p.longDescription == q.longDescription &&
    p.default.sameAs q.default && p.daemonDefault.sameAs q.daemonDefault &&
    p.tags == q.tags && p.services == q.services && p.seeAlso == q.seeAlso &&
    p.enumValues == q.enumValues && Bound.sameAs p.min q.min && Bound.sameAs p.max q.max &&
    p.canUpdateAtRuntime == q.canUpdateAtRuntime && p.flags == q.flags

end Parameter
end Tunables
