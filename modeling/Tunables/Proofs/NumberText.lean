import Mathlib.Data.List.TakeWhile
import Tunables.Json.Writer
import Tunables.Proofs.Shortest
import Tunables.Text.Numeral

/-!
# Texts of numbers

The text of a finite magnitude is a numeral: digits with a point, with an exponent,
or with both.  A numeral stands for one decimal, and the decimal of a magnitude
rounds to this magnitude only, so different doubles have different texts.
-/

namespace Tunables.Text

open Binary64 (Decimal)

/-! ## Digits -/

def AllDigits (text : List Char) : Prop :=
  ∀ c ∈ text, isPlainDigit c = true

variable {text digits others rest : List Char} {c : Char}

theorem AllDigits.append (first : AllDigits digits) (second : AllDigits others) :
    AllDigits (digits ++ others) := by
  intro c member
  rcases List.mem_append.mp member with before | after
  · exact first c before
  · exact second c after

theorem AllDigits.of_sublist (all : AllDigits digits) (part : others.Sublist digits) :
    AllDigits others :=
  fun c member => all c (part.subset member)

theorem allDigits_zeros (count : Nat) : AllDigits (List.replicate count '0') := by
  intro c member
  rw [List.eq_of_mem_replicate member]
  decide

theorem allDigits_toDigits (n : Nat) : AllDigits (Nat.toDigits 10 n) := by
  intro c member
  have digit := Nat.isDigit_of_mem_toDigits (by decide) (by decide) member
  simpa [isPlainDigit, Char.isDigit, Char.le_def] using digit

theorem plainDigitsValue_eq_ofDigitChars (digits : List Char) :
    plainDigitsValue digits = Nat.ofDigitChars 10 digits 0 := by
  rw [Nat.ofDigitChars_eq_foldl]
  rfl

theorem plainDigitsValue_toDigits (n : Nat) : plainDigitsValue (Nat.toDigits 10 n) = n := by
  rw [plainDigitsValue_eq_ofDigitChars, Nat.ofDigitChars_ten_toDigits]

theorem plainDigitsValue_zeros_append (count : Nat) (digits : List Char) :
    plainDigitsValue (List.replicate count '0' ++ digits) = plainDigitsValue digits := by
  rw [plainDigitsValue_eq_ofDigitChars, plainDigitsValue_eq_ofDigitChars,
    Nat.ofDigitChars_append, Nat.ofDigitChars_replicate_zero, Nat.mul_zero]

theorem plainDigitsValue_append_zeros (digits : List Char) (count : Nat) :
    plainDigitsValue (digits ++ List.replicate count '0') =
      10 ^ count * plainDigitsValue digits := by
  rw [plainDigitsValue_eq_ofDigitChars, plainDigitsValue_eq_ofDigitChars,
    Nat.ofDigitChars_append, Nat.ofDigitChars_replicate_zero]

theorem takeDigits_of_allDigits (all : AllDigits digits) : takeDigits digits = (digits, []) := by
  rw [takeDigits, List.takeWhile_eq_self_iff.mpr all, List.dropWhile_eq_nil_iff.mpr all]

theorem takeDigits_append_cons (all : AllDigits digits) (stops : isPlainDigit c = false) :
    takeDigits (digits ++ c :: rest) = (digits, c :: rest) := by
  rw [takeDigits, List.takeWhile_append_of_pos all, List.dropWhile_append_of_pos all,
    List.takeWhile_cons_of_neg (by simp [stops]), List.dropWhile_cons_of_neg (by simp [stops]),
    List.append_nil]

theorem takeSign_of_ne (minus : c ≠ '-') (plus : c ≠ '+') :
    takeSign (c :: rest) = (false, c :: rest) := by
  unfold takeSign
  split <;> simp_all

/-! ## Numerals -/

/-- A text is an exponent of some value. -/
inductive IsExponent : List Char → Int → Prop where
  | plus {digits : List Char} : digits ≠ [] → AllDigits digits →
      IsExponent ('e' :: '+' :: digits) (plainDigitsValue digits)
  | minus {digits : List Char} : digits ≠ [] → AllDigits digits →
      IsExponent ('e' :: '-' :: digits) (-plainDigitsValue digits)

/-- A text is a numeral of a decimal. -/
inductive IsNumeral (d : Decimal) : List Char → Prop where
  | point {integral fraction : List Char} :
      integral ≠ [] → AllDigits integral → AllDigits fraction →
      plainDigitsValue (integral ++ fraction) = d.coefficient →
      -(fraction.length : Int) = d.exponent →
      IsNumeral d (integral ++ '.' :: fraction)
  | exponent {integral tail : List Char} :
      integral ≠ [] → AllDigits integral → plainDigitsValue integral = d.coefficient →
      IsExponent tail d.exponent →
      IsNumeral d (integral ++ tail)
  | both {integral fraction tail : List Char} :
      integral ≠ [] → AllDigits integral → AllDigits fraction →
      plainDigitsValue (integral ++ fraction) = d.coefficient →
      IsExponent tail (d.exponent + fraction.length) →
      IsNumeral d (integral ++ '.' :: (fraction ++ tail))

variable {tail : List Char} {exponent : Int} {d : Decimal}

theorem IsExponent.eq_cons (written : IsExponent tail exponent) : ∃ rest, tail = 'e' :: rest := by
  cases written with
  | plus _ _ => exact ⟨_, rfl⟩
  | minus _ _ => exact ⟨_, rfl⟩

theorem IsExponent.exponentValue? (written : IsExponent tail exponent) :
    Text.exponentValue? tail = some exponent := by
  cases written with
  | plus some all | minus some all =>
      simp [Text.exponentValue?, takeSign, takeDigits_of_allDigits all, some]

/-- The decimal that a text is read as when it is a numeral. -/
def numeralDecimal? (text : List Char) : Option Decimal :=
  let (integral, afterIntegral) := takeDigits text
  let (fraction, afterFraction) := takeFraction afterIntegral
  (exponentValue? afterFraction).map fun exponent =>
    ⟨plainDigitsValue (integral ++ fraction), exponent - fraction.length⟩

theorem IsNumeral.numeralDecimal? (written : IsNumeral d text) :
    Text.numeralDecimal? text = some d := by
  cases written with
  | point _ whole part value places =>
      simp [Text.numeralDecimal?, takeDigits_append_cons whole (c := '.') rfl, takeFraction,
        takeDigits_of_allDigits part, Text.exponentValue?, value, places]
  | exponent _ whole value written =>
      have power := written.exponentValue?
      obtain ⟨rest, rfl⟩ := written.eq_cons
      simp [Text.numeralDecimal?, takeDigits_append_cons whole (c := 'e') rfl, takeFraction, power,
        value]
  | both _ whole part value written =>
      have power := written.exponentValue?
      obtain ⟨rest, rfl⟩ := written.eq_cons
      simp [Text.numeralDecimal?, takeDigits_append_cons whole (c := '.') rfl, takeFraction,
        takeDigits_append_cons part (c := 'e') rfl, power, value]

/-- A text is a numeral of one decimal at most. -/
theorem IsNumeral.unique {other : Decimal} (written : IsNumeral d text)
    (again : IsNumeral other text) : d = other :=
  Option.some.inj (written.numeralDecimal?.symm.trans again.numeralDecimal?)

theorem IsNumeral.eq_cons (written : IsNumeral d text) :
    ∃ c rest, text = c :: rest ∧ isPlainDigit c = true := by
  cases written with
  | point some whole _ _ _ | exponent some whole _ _ | both some whole _ _ _ =>
      obtain ⟨c, rest, rfl⟩ := List.exists_cons_of_ne_nil some
      exact ⟨c, _, rfl, whole c List.mem_cons_self⟩

/-- The characters of a numeral besides its digits. -/
def numeralMarks : List Char := ['.', 'e', '+', '-']

theorem IsExponent.isPlainDigit_or_mem (written : IsExponent tail exponent) (member : c ∈ tail) :
    isPlainDigit c = true ∨ c ∈ numeralMarks := by
  cases written with
  | plus _ all | minus _ all =>
      rcases List.mem_cons.mp member with rfl | member
      · exact .inr (by decide)
      · rcases List.mem_cons.mp member with rfl | member
        · exact .inr (by decide)
        · exact .inl (all c member)

theorem IsNumeral.isPlainDigit_or_mem (written : IsNumeral d text) (member : c ∈ text) :
    isPlainDigit c = true ∨ c ∈ numeralMarks := by
  cases written with
  | point _ whole part _ _ =>
      rcases List.mem_append.mp member with before | after
      · exact .inl (whole c before)
      · rcases List.mem_cons.mp after with rfl | later
        · exact .inr (by decide)
        · exact .inl (part c later)
  | exponent _ whole _ written =>
      rcases List.mem_append.mp member with before | after
      · exact .inl (whole c before)
      · exact written.isPlainDigit_or_mem after
  | both _ whole part _ written =>
      rcases List.mem_append.mp member with before | after
      · exact .inl (whole c before)
      · rcases List.mem_cons.mp after with rfl | later
        · exact .inr (by decide)
        · rcases List.mem_append.mp later with inPart | inTail
          · exact .inl (part c inPart)
          · exact written.isPlainDigit_or_mem inTail

/-- A numeral is not made of digits alone. -/
theorem IsNumeral.exists_mark (written : IsNumeral d text) : '.' ∈ text ∨ 'e' ∈ text := by
  cases written with
  | point _ _ _ _ _ => exact .inl (List.mem_append_right _ List.mem_cons_self)
  | exponent _ _ _ written =>
      obtain ⟨rest, rfl⟩ := written.eq_cons
      exact .inr (List.mem_append_right _ List.mem_cons_self)
  | both _ _ _ _ _ => exact .inl (List.mem_append_right _ List.mem_cons_self)

end Tunables.Text

namespace Tunables.Binary64

open Text

/-! ## The layout of decimals -/

theorem toList_pushn (text : String) (c : Char) (count : Nat) :
    (text.pushn c count).toList = text.toList ++ List.replicate count c := by
  induction count with
  | zero => simp [String.pushn, Nat.repeat]
  | succ count ih =>
      change ((text.pushn c count).push c).toList = _
      rw [String.toList_push, ih, List.append_assoc, List.replicate_succ']

theorem toList_zeros (count : Nat) : ("".pushn '0' count).toList = List.replicate count '0' := by
  rw [toList_pushn]
  rfl

theorem toList_padDigits (width n : Nat) :
    ∃ count, (padDigits width (toString n)).toList =
      List.replicate count '0' ++ Nat.toDigits 10 n := by
  refine ⟨width - (toString n).length, ?_⟩
  rw [padDigits, String.toList_append, toList_zeros, Nat.toString_eq_repr, Nat.toList_repr]

theorem isExponent_padDigits (width : Nat) (lead : Int) :
    IsExponent ((if lead < 0 then "e-" else "e+") ++ padDigits width (toString lead.natAbs)).toList
      lead := by
  obtain ⟨count, padded⟩ := toList_padDigits width lead.natAbs
  have some : List.replicate count '0' ++ Nat.toDigits 10 lead.natAbs ≠ [] :=
    List.append_ne_nil_of_right_ne_nil _ Nat.toDigits_ne_nil
  have all := (allDigits_zeros count).append (allDigits_toDigits lead.natAbs)
  have value : plainDigitsValue (List.replicate count '0' ++ Nat.toDigits 10 lead.natAbs) =
      lead.natAbs := by
    rw [plainDigitsValue_zeros_append, plainDigitsValue_toDigits]
  rw [String.toList_append, padded]
  split
  · next negative =>
      have written := IsExponent.minus some all
      rw [value, ← Int.eq_neg_comm.mp (Int.ofNat_natAbs_of_nonpos negative.le)] at written
      exact written
  · next positive =>
      have written := IsExponent.plus some all
      rw [value, Int.natAbs_of_nonneg (Int.not_lt.mp positive)] at written
      exact written

section

variable {digits : List Char} {d : Decimal} (some : digits ≠ []) (all : AllDigits digits)
  (value : plainDigitsValue digits = d.coefficient)

include all value

/-- Below one all digits stand behind the point. -/
theorem isNumeral_zero_point {zeros : Nat} (places : -(zeros + digits.length : Int) = d.exponent) :
    IsNumeral d ("0." ++ "".pushn '0' zeros ++ String.ofList digits).toList := by
  have written : IsNumeral d (['0'] ++ '.' :: (List.replicate zeros '0' ++ digits)) := by
    refine .point (List.cons_ne_nil _ _) (allDigits_zeros 1) ((allDigits_zeros zeros).append all)
      ?_ ?_
    · rw [← value, ← plainDigitsValue_zeros_append zeros digits]
      exact plainDigitsValue_zeros_append 1 _
    · rw [List.length_append, List.length_replicate, Nat.cast_add]
      exact places
  simpa [toList_zeros] using written

include some

/-- Above the last digit zeros stand before the point, and one behind it. -/
theorem isNumeral_point_zero (zeros : Nat) :
    IsNumeral ⟨10 ^ (zeros + 1) * d.coefficient, -1⟩
      (String.ofList digits ++ "".pushn '0' zeros ++ "." ++ "0").toList := by
  have written : IsNumeral ⟨10 ^ (zeros + 1) * d.coefficient, -1⟩
      ((digits ++ List.replicate zeros '0') ++ '.' :: ['0']) := by
    refine .point (List.append_ne_nil_of_left_ne_nil some _) (all.append (allDigits_zeros zeros))
      (allDigits_zeros 1) ?_ rfl
    rw [List.append_assoc, ← value, ← plainDigitsValue_append_zeros, List.replicate_succ']
  simpa [toList_zeros] using written

/-- Otherwise the point stands between two digits. -/
theorem isNumeral_split {integral : Nat} (positive : 0 < integral)
    (places : -((digits.drop integral).length : Int) = d.exponent) :
    IsNumeral d (digits.take integral ++ '.' :: digits.drop integral) := by
  refine .point ?_ (all.of_sublist (List.take_sublist _ _)) (all.of_sublist (List.drop_sublist _ _))
    ?_ places
  · rw [Ne, List.take_eq_nil_iff]
    exact not_or.mpr ⟨positive.ne', some⟩
  · rw [List.take_append_drop, value]

/-- With an exponent at most one digit stands before the point. -/
theorem isNumeral_scientific {tail : List Char}
    (written : IsExponent tail (d.exponent + digits.length - 1)) :
    IsNumeral d (digits.take 1 ++
      ((if (digits.drop 1).isEmpty then [] else '.' :: digits.drop 1) ++ tail)) := by
  obtain ⟨first, fraction, rfl⟩ := List.exists_cons_of_ne_nil some
  rw [List.length_cons, Nat.cast_succ, ← add_assoc, add_sub_cancel_right] at written
  have whole : AllDigits [first] := all.of_sublist (List.sublist_append_left [first] fraction)
  have part : AllDigits fraction := all.of_sublist (List.sublist_cons_self first fraction)
  cases fraction with
  | nil => exact .exponent some whole value (by simpa using written)
  | cons second rest => exact .both (List.cons_ne_nil _ _) whole part value written

end

theorem Decimal.value_point_zero {d : Decimal} {zeros : Nat} (places : d.exponent = zeros) :
    Decimal.value ⟨10 ^ (zeros + 1) * d.coefficient, -1⟩ = d.value := by
  simp only [Decimal.value, places, zpow_natCast, zpow_neg_one]
  push_cast
  ring

/-- The text of a decimal is a numeral of the same value. -/
theorem isNumeral_writeDecimal (layout : NumberLayout) (d : Decimal) :
    ∃ written, IsNumeral written (layout.writeDecimal d).toList ∧ written.value = d.value := by
  have all := allDigits_toDigits d.coefficient
  have value := plainDigitsValue_toDigits d.coefficient
  have some : Nat.toDigits 10 d.coefficient ≠ [] := Nat.toDigits_ne_nil
  unfold NumberLayout.writeDecimal
  generalize Nat.toDigits 10 d.coefficient = digits at all value some
  have long : 0 < digits.length := List.length_pos_of_ne_nil some
  generalize lead_eq : d.exponent + digits.length - 1 = lead
  by_cases positional : layout.leastPositional ≤ lead ∧ lead ≤ layout.greatestPositional
  · simp only [lead_eq, if_pos positional]
    by_cases small : lead < 0
    · rw [if_pos small]
      exact ⟨d, isNumeral_zero_point all value (by omega), rfl⟩
    · rw [if_neg small]
      by_cases short : digits.length ≤ lead.toNat + 1
      · obtain ⟨zeros, places⟩ : ∃ zeros : Nat, d.exponent = zeros := ⟨d.exponent.toNat, by omega⟩
        -- The zero behind the point is one digit more than the decimal has.
        refine ⟨_, ?_, Decimal.value_point_zero places⟩
        have count : lead.toNat + 1 - digits.length = zeros := by omega
        rw [List.take_of_length_le short, List.drop_of_length_le short, count]
        exact isNumeral_point_zero some all value zeros
      · have part : ¬ (digits.drop (lead.toNat + 1)).isEmpty := by simpa using short
        have places : -((digits.drop (lead.toNat + 1)).length : Int) = d.exponent := by
          rw [List.length_drop]
          omega
        have filled : lead.toNat + 1 - (digits.take (lead.toNat + 1)).length = 0 := by
          rw [List.length_take]
          omega
        refine ⟨d, ?_, rfl⟩
        rw [if_neg part, filled]
        simpa [toList_zeros] using isNumeral_split some all value (Nat.succ_pos lead.toNat) places
  · simp only [lead_eq, if_neg positional]
    refine ⟨d, ?_, rfl⟩
    have power := isExponent_padDigits layout.exponentDigits lead
    rw [← lead_eq] at power
    have written := isNumeral_scientific some all value power
    have point : ∀ fraction, (if fraction.isEmpty then "" else "." ++ String.ofList fraction).toList =
        if fraction.isEmpty then [] else '.' :: fraction := by
      intro fraction
      split <;> simp
    rwa [String.append_assoc, String.append_assoc, String.toList_append, String.toList_append,
      String.toList_ofList, point, ← lead_eq]

/-! ## The text of a magnitude -/

/-- The text of a double without its sign. -/
def NumberLayout.unsigned (layout : NumberLayout) : Binary64 → List Char
  | .nan => layout.notANumber.toList
  | .infinite _ => layout.infinity.toList
  | .finite _ rank _ =>
      (if rank == 0 then "0.0" else layout.writeDecimal (shortest rank)).toList

def isNegative : Binary64 → Bool
  | .nan => false
  | .infinite negative => negative
  | .finite negative _ _ => negative

/-- The text of a magnitude is a numeral of a decimal that rounds to it. -/
theorem isNumeral_unsigned (layout : NumberLayout) (negative : Bool) (rank : Nat)
    (inRange : rank < 2047 * Nat.pow 2 52) :
    ∃ d, IsNumeral d (layout.unsigned (.finite negative rank inRange)) ∧
      RoundsTo rank (d.value * (2 * unitsPerOne)) := by
  simp only [NumberLayout.unsigned]
  rcases Nat.eq_zero_or_pos rank with rfl | positive
  · have written : IsNumeral ⟨0, -1⟩ (['0'] ++ '.' :: ['0']) :=
      .point (List.cons_ne_nil _ _) (allDigits_zeros 1) (allDigits_zeros 1) rfl rfl
    have value : Decimal.value ⟨0, -1⟩ * (2 * unitsPerOne) = 0 := by
      simp only [Decimal.value, Nat.cast_zero, zero_mul]
    exact ⟨_, by simpa using written, value ▸ roundsTo_zero⟩
  · obtain ⟨d, written, value⟩ := isNumeral_writeDecimal layout (shortest rank)
    refine ⟨d, ?_, value ▸ roundsTo_shortest positive⟩
    rwa [if_neg (by simpa using positive.ne')]

end Tunables.Binary64

namespace Tunables.Json

open Binary64 Text

theorem toList_write (x : Binary64) :
    (numberLayout.write x).toList =
      (if x.isNegative then ['-'] else []) ++ numberLayout.unsigned x := by
  cases x with
  | nan => rfl
  | infinite negative => cases negative <;> rfl
  | finite negative rank inRange =>
      rw [NumberLayout.write, String.toList_append]
      cases negative <;> rfl

/-- The text of a double without its sign starts with a digit or with a letter. -/
theorem exists_unsigned_eq_cons (x : Binary64) :
    ∃ c rest, numberLayout.unsigned x = c :: rest ∧ (isPlainDigit c = true ∨ c = 'N' ∨ c = 'I') := by
  cases x with
  | nan => exact ⟨_, _, rfl, .inr (.inl rfl)⟩
  | infinite negative => exact ⟨_, _, rfl, .inr (.inr rfl)⟩
  | finite negative rank inRange =>
      obtain ⟨d, written, _⟩ := isNumeral_unsigned numberLayout negative rank inRange
      obtain ⟨c, rest, shape, digit⟩ := written.eq_cons
      exact ⟨c, rest, shape, .inl digit⟩

theorem takeSign_write (x : Binary64) :
    Text.takeSign (numberLayout.write x).toList = (x.isNegative, numberLayout.unsigned x) := by
  obtain ⟨c, rest, shape, start⟩ := exists_unsigned_eq_cons x
  rw [toList_write, shape]
  cases x.isNegative with
  | true => rfl
  | false =>
      apply takeSign_of_ne
      · rintro rfl
        simp [isPlainDigit] at start
      · rintro rfl
        simp [isPlainDigit] at start

theorem unsigned_finite_ne {negative : Bool} {rank : Nat} {inRange : rank < 2047 * Nat.pow 2 52}
    {c : Char} {rest : List Char} (letter : isPlainDigit c = false) :
    numberLayout.unsigned (.finite negative rank inRange) ≠ c :: rest := by
  obtain ⟨d, written, _⟩ := isNumeral_unsigned numberLayout negative rank inRange
  obtain ⟨first, others, shape, digit⟩ := written.eq_cons
  intro same
  have heads : first = c := (List.cons.inj (shape.symm.trans same)).1
  exact Bool.false_ne_true (letter.symm.trans (heads ▸ digit))

theorem eq_of_unsigned_eq {x y : Binary64} (signs : x.isNegative = y.isNegative)
    (texts : numberLayout.unsigned x = numberLayout.unsigned y) : x = y := by
  cases x with
  | nan =>
      cases y with
      | nan => rfl
      | infinite negative => cases texts
      | finite negative rank inRange => exact absurd texts.symm (unsigned_finite_ne rfl)
  | infinite negative =>
      cases y with
      | nan => cases texts
      | infinite other => exact congrArg infinite signs
      | finite other rank inRange => exact absurd texts.symm (unsigned_finite_ne rfl)
  | finite negative rank inRange =>
      cases y with
      | nan => exact absurd texts (unsigned_finite_ne rfl)
      | infinite other => exact absurd texts (unsigned_finite_ne rfl)
      | finite other otherRank otherInRange =>
          obtain ⟨d, written, rounds⟩ := isNumeral_unsigned numberLayout negative rank inRange
          obtain ⟨e, again, roundsAgain⟩ :=
            isNumeral_unsigned numberLayout other otherRank otherInRange
          have decimals : d = e := IsNumeral.unique written (texts ▸ again)
          subst decimals
          have ranks : rank = otherRank := rounds.unique roundsAgain
          subst ranks
          exact congrArg (finite · rank inRange) signs

/-- Different doubles have different texts. -/
theorem numberLayout_write_injective {x y : Binary64}
    (texts : (numberLayout.write x).toList = (numberLayout.write y).toList) : x = y := by
  have parts := congrArg Text.takeSign texts
  rw [takeSign_write, takeSign_write] at parts
  exact eq_of_unsigned_eq (Prod.mk.inj parts).1 (Prod.mk.inj parts).2

end Tunables.Json
