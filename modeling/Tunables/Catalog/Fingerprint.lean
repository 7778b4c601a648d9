import Tunables.Catalog

/-!
# Fingerprints

A fingerprint replaces every number by its residue modulo the prime
`2 ^ 61 - 1`, so that numbers of the same value have the same residue whether
they are whole or not.  Different numbers may share a residue.  Not-a-number has
none, and a mark of its own instead.
-/

namespace Tunables

/-- The modulus of residues. -/
def residueModulus : Nat := Nat.pow 2 61 - 1

/-- The residue of a signed magnitude.  Minus one is reserved and gives way to
minus two. -/
def signedResidue (negative : Bool) (magnitude : Nat) : Int :=
  let residue : Int := magnitude % residueModulus
  let signed := if negative then -residue else residue
  if signed = -1 then -2 else signed

def residueOfInt (value : Int) : Int :=
  signedResidue (decide (value < 0)) value.natAbs

/-- The residue of an infinity. -/
def infiniteResidue : Int := 314159

/-- The residue of a double.  A unit is `2 ^ (-1074)`, which has the residue
`2 ^ 24` because `2 ^ 61` has the residue one. -/
def residueOfReal : Binary64 → Option Int
  | .nan => none
  | .infinite negative => some (if negative then -infiniteResidue else infiniteResidue)
  | .finite negative rank _ =>
      some (signedResidue negative (Binary64.unitsOfRank rank * Nat.pow 2 24))

/-- The fingerprint of what a scalar or a bound holds. -/
inductive Mark where
  | nothing
  | number (residue : Int)
  | notANumber
  | text (value : Text)
  deriving DecidableEq, Repr

def Mark.ofReal (value : Binary64) : Mark :=
  match residueOfReal value with
  | some residue => .number residue
  | none => .notANumber

/-- The mark of the content of a scalar. -/
def Mark.ofContent : Option ScalarContent → Mark
  | none => .nothing
  | some (.int value) => .number (residueOfInt value)
  | some (.real value) => .ofReal value
  | some (.text value) => .text value

def Mark.ofBound : Bound → Mark
  | none => .nothing
  | some value => .ofReal value

/-- Whether two scalars have the same fingerprint. -/
def Scalar.sameFingerprint (s t : Scalar) : Bool :=
  s.kind == t.kind && Mark.ofContent s.content == Mark.ofContent t.content

/-- Whether two bounds have the same fingerprint. -/
def Bound.sameFingerprint (x y : Bound) : Bool :=
  Mark.ofBound x == Mark.ofBound y

/-- Whether two parameters have the same fingerprint. -/
def Parameter.sameFingerprint (p q : Parameter) : Bool :=
  p.name == q.name && p.valueType == q.valueType && p.level == q.level &&
    p.description == q.description && p.longDescription == q.longDescription &&
    p.default.sameFingerprint q.default &&
    p.daemonDefault.sameFingerprint q.daemonDefault &&
    p.tags == q.tags && p.services == q.services && p.seeAlso == q.seeAlso &&
    p.enumValues == q.enumValues && Bound.sameFingerprint p.min q.min &&
    Bound.sameFingerprint p.max q.max &&
    p.canUpdateAtRuntime == q.canUpdateAtRuntime && p.flags == q.flags

/-- Whether two catalogs have the same fingerprint. -/
def Catalog.sameFingerprint (c d : Catalog) : Bool :=
  c.size == d.size &&
    (c.parameters.zip d.parameters).all fun (p, q) => p.sameFingerprint q

/-- The outcome of writing a parameter and reading it again: whether the two
are equal, whether their fingerprints agree, and the second one. -/
structure WriteReadOutcome where
  equal : Bool
  sameFingerprint : Bool
  reread : Parameter

/-- Writes a parameter as a help record and reads it again. -/
def Parameter.writeRead (p : Parameter) : Except RecordError WriteReadOutcome :=
  (ofRecord p.toRecord).map fun q => ⟨p.sameAs q, p.sameFingerprint q, q⟩

end Tunables
