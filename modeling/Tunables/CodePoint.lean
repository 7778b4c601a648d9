/-!
# Code points

A text is a row of code points.  Most of them are characters.  The others are the two halves
of surrogate pairs: a pair encodes one character in sixteen bit units, but a half may also
stand by itself, and even a high half in front of a low one is not the character that the
two encode.
-/

namespace Tunables

/-- A code point: a character, or a high or low surrogate, counted from the first one of
its kind. -/
inductive CodePoint where
  | char (c : Char)
  | high (index : Fin 0x400)
  | low (index : Fin 0x400)
  deriving Repr

namespace CodePoint

instance : Coe Char CodePoint := ⟨.char⟩

/-- The number of a code point. -/
def toNat : CodePoint → Nat
  | .char c => c.toNat
  | .high index => 0xD800 + index
  | .low index => 0xDC00 + index

/-- The code point of a number. -/
def ofNat (n : Nat) : CodePoint :=
  if 0xD800 ≤ n ∧ n ≤ 0xDBFF then .high (Fin.ofNat 0x400 (n - 0xD800))
  else if 0xDC00 ≤ n ∧ n ≤ 0xDFFF then .low (Fin.ofNat 0x400 (n - 0xDC00))
  else .char (Char.ofNat n)

/-- The character that a code point is, if it is one. -/
def char? : CodePoint → Option Char
  | .char c => some c
  | .high _ => none
  | .low _ => none

/-- Whether a code point is a character of a class. -/
def isIn (inClass : Char → Bool) (c : CodePoint) : Bool :=
  c.char?.any inClass

/-- The character that a high and a low surrogate encode together. -/
def ofPair (high low : Fin 0x400) : Char :=
  Char.ofNat (0x10000 + 0x400 * high + low)

/-- No character has the number of a surrogate. -/
theorem toNat_char_lt_or_lt (c : Char) : c.toNat < 0xD800 ∨ 0xDFFF < c.toNat := by
  rcases c.valid with small | ⟨large, _⟩
  · exact .inl small
  · exact .inr large

theorem toNat_inj {a b : CodePoint} (same : a.toNat = b.toNat) : a = b := by
  cases a with
  | char c =>
      have outside := toNat_char_lt_or_lt c
      cases b with
      | char d => exact congrArg char (Char.toNat_inj.mp same)
      | high index | low index =>
          simp only [toNat] at same
          omega
  | high index =>
      cases b with
      | char d =>
          have outside := toNat_char_lt_or_lt d
          simp only [toNat] at same
          omega
      | high other =>
          simp only [toNat] at same
          exact congrArg high (Fin.ext (by omega))
      | low other =>
          simp only [toNat] at same
          omega
  | low index =>
      cases b with
      | char d =>
          have outside := toNat_char_lt_or_lt d
          simp only [toNat] at same
          omega
      | high other =>
          simp only [toNat] at same
          omega
      | low other =>
          simp only [toNat] at same
          exact congrArg low (Fin.ext (by omega))

instance : DecidableEq CodePoint := fun a b =>
  decidable_of_iff (a.toNat = b.toNat) ⟨toNat_inj, congrArg toNat⟩

instance : LE CodePoint := ⟨fun a b => a.toNat ≤ b.toNat⟩

instance : LT CodePoint := ⟨fun a b => a.toNat < b.toNat⟩

instance (a b : CodePoint) : Decidable (a ≤ b) :=
  inferInstanceAs (Decidable (a.toNat ≤ b.toNat))

instance (a b : CodePoint) : Decidable (a < b) :=
  inferInstanceAs (Decidable (a.toNat < b.toNat))

instance : Std.IsLinearOrder CodePoint where
  le_refl a := Nat.le_refl a.toNat
  le_trans _ _ _ := Nat.le_trans
  le_antisymm _ _ first second := toNat_inj (Nat.le_antisymm first second)
  le_total a b := Nat.le_total a.toNat b.toNat

instance : Std.LawfulOrderLT CodePoint where
  lt_iff _ _ := Nat.lt_iff_le_and_not_ge

end CodePoint
end Tunables
