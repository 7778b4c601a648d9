import Tunables.Proofs.JsonText
import Tunables.Proofs.Nearest

/-!
# Bounds in two spellings

A bound can be a number or the text of a number.  A whole number comes to the same in both
spellings, except that one from the overflow limit on is refused as a number, while its
text gives an infinity.
-/

namespace Tunables
namespace Text

variable {text digits : List Char} {c : Char} {n : Int}

theorem dropUnderscores?_of_not_mem {afterDigit : Bool} (absent : '_' ∉ text) :
    dropUnderscores? afterDigit text = some text := by
  induction text generalizing afterDigit with
  | nil => rfl
  | cons c rest ih =>
      simp only [List.mem_cons, not_or] at absent
      simp [dropUnderscores?, Ne.symm absent.1, ih absent.2]

theorem trimWhere_of_forall_not {inClass : Char → Bool}
    (outside : ∀ c ∈ text, inClass c = false) : trimWhere inClass text = text := by
  have keeps : ∀ {text : List Char}, (∀ c ∈ text, inClass c = false) →
      text.dropWhile inClass = text := by
    intro text outside
    cases text with
    | nil => rfl
    | cons c rest => simp [outside c List.mem_cons_self]
  rw [trimWhere, keeps outside, keeps (by simpa using outside), List.reverse_reverse]

theorem mem_intChars (member : c ∈ Json.intChars n) :
    c = '-' ∨ isPlainDigit c = true := by
  rcases List.mem_append.mp member with sign | digit
  · split at sign
    · exact .inl (List.mem_singleton.mp sign)
    · cases sign
  · exact .inr (allDigits_toDigits _ c digit)

theorem isPlainDigit_iff : isPlainDigit c = true ↔ 48 ≤ c.toNat ∧ c.toNat ≤ 57 := by
  simp [isPlainDigit, Char.le_def, UInt32.le_iff_toNat_le]

theorem toNat_of_mem_intChars (member : c ∈ Json.intChars n) :
    c.toNat = 45 ∨ 48 ≤ c.toNat ∧ c.toNat ≤ 57 := by
  rcases mem_intChars member with rfl | digit
  · exact .inl rfl
  · exact .inr (isPlainDigit_iff.mp digit)

theorem toList_toString_int (n : Int) : (toString n).toList = Json.intChars n := by
  cases n with
  | ofNat m =>
    rw [Json.intChars, if_neg (by simp)]
    exact Nat.toList_repr
  | negSucc m =>
    rw [Json.intChars, if_pos (Int.negSucc_lt_zero m)]
    change ("-" ++ toString (m + 1)).toList = _
    rw [String.toList_append, Nat.toString_eq_repr, Nat.toList_repr]
    rfl

theorem isPlainSpace_of_mem_intChars (member : c ∈ Json.intChars n) : isPlainSpace c = false := by
  have code := toNat_of_mem_intChars member
  have notSpace : c ≠ ' ' := by
    rintro rfl
    exact absurd code (by decide)
  simp [isPlainSpace, notSpace]
  omega

theorem isBlank_of_mem_intChars (member : c ∈ Json.intChars n) : isBlank c = false := by
  have code := toNat_of_mem_intChars member
  simp [isBlank, blankRanges, Ranges.contains]
  omega

theorem plainCounterpart_of_mem_intChars (member : c ∈ Json.intChars n) :
    plainCounterpart c = c := by
  have code := toNat_of_mem_intChars member
  rw [plainCounterpart, if_pos (by omega)]

theorem intChars_ne_nil (n : Int) : Json.intChars n ≠ [] :=
  List.append_ne_nil_of_right_ne_nil _ Nat.toDigits_ne_nil

theorem allBlank_toString (n : Int) : allBlank (toString n) = false := by
  obtain ⟨c, member⟩ := List.exists_mem_of_ne_nil _ (intChars_ne_nil n)
  rw [allBlank, toList_ofString, toList_toString_int, List.all_eq_false]
  refine ⟨.char c, List.mem_map_of_mem member, ?_⟩
  simp [CodePoint.isIn, CodePoint.char?, isBlank_of_mem_intChars member]

/-- The words for special numbers have a letter, so they are no digits. -/
theorem ofList_toLower_ne (all : AllDigits digits) {word : String} (letter : 'n' ∈ word.toList) :
    String.ofList (digits.map Char.toLower) ≠ word := by
  rintro rfl
  rw [String.toList_ofList] at letter
  obtain ⟨c, member, lower⟩ := List.mem_map.mp letter
  have code := isPlainDigit_iff.mp (all c member)
  have same : c.toLower = c := by
    refine dif_neg ?_
    simp [UInt32.le_iff_toNat_le]
    omega
  rw [← same, lower] at code
  exact absurd code (by decide)

theorem signedValue?_intChars (n : Int) :
    signedValue? (Json.intChars n) = some (.ofDecimal (decide (n < 0)) n.natAbs 0) := by
  have all := allDigits_toDigits n.natAbs
  unfold signedValue?
  rw [Json.takeSign_intChars]
  dsimp only
  split
  · next word => exact absurd word (ofList_toLower_ne all (by decide))
  · next word => exact absurd word (ofList_toLower_ne all (by decide))
  · next word => exact absurd word (ofList_toLower_ne all (by decide))
  · rw [magnitudeValue?, takeDigits_of_allDigits all]
    simp [takeFraction, exponentValue?, Nat.toDigits_ne_nil, plainDigitsValue_toDigits]

/-- A whole number reads back from its text as the double nearest to it. -/
theorem readNumeral?_toString (n : Int) :
    readNumeral? (toString n) = some (.ofQuotient (decide (n < 0)) n.natAbs 1) := by
  have counterparts : (Json.intChars n).map plainCounterpart = Json.intChars n := by
    rw [List.map_congr_left fun c => plainCounterpart_of_mem_intChars, List.map_id']
  have underscore : '_' ∉ Json.intChars n := by
    intro member
    exact absurd (toNat_of_mem_intChars member) (by decide)
  rw [readNumeral?, chars?_ofString, Option.bind_some, toList_toString_int, counterparts,
    trimWhere_of_forall_not fun c => isPlainSpace_of_mem_intChars, numeralValue?,
    dropUnderscores?_of_not_mem underscore, Option.bind_some, signedValue?_intChars,
    Binary64.ofDecimal_whole]

end Text

namespace Bound

open Binary64

theorem ofJson_toString (n : Int) :
    ofJson (.string (toString n)) = .ok (some (ofQuotient (decide (n < 0)) n.natAbs 1)) := by
  rw [ofJson, ofText, Text.allBlank_toString, Text.readNumeral?_toString]
  rfl

/-- A whole number as a bound comes to the same as its text, the double nearest to it, up to
the overflow limit.  From there on the number is refused, and the text gives an infinity. -/
theorem ofJson_int_and_text (n : Int) :
    ∃ bound, ofJson (.string (toString n)) = .ok (some bound) ∧
      (n.natAbs < overflowLimit →
        ofJson (.int n) = .ok (some bound) ∧
          ∃ rank inRange, bound = .finite (decide (n < 0)) rank inRange ∧
            RoundsTo rank (n.natAbs * (2 * unitsPerOne))) ∧
      (overflowLimit ≤ n.natAbs →
        ofJson (.int n) = .error .tooLarge ∧ bound = .infinite (decide (n < 0))) := by
  refine ⟨_, ofJson_toString n, ?_, ?_⟩
  · intro small
    obtain ⟨rank, inRange, rounds, nearest⟩ := exists_ofQuotient_eq_finite small
    refine ⟨?_, rank, inRange, nearest, rounds⟩
    rw [ofJson, ofInt, ofInt?, nearest]
    rfl
  · intro large
    exact ⟨ofInt_eq_error_iff.mpr large, ofQuotient_eq_infinite large⟩

/-- A one with 310 zeros is refused as a number and an infinity as a text. -/
theorem ofJson_hugeInt_ne_text :
    ofJson (.int (10 ^ 310)) = .error .tooLarge ∧
      ofJson (.string (toString (10 ^ 310 : Int))) = .ok (some (.infinite false)) := by
  have large : overflowLimit ≤ (10 ^ 310 : Int).natAbs := by decide +kernel
  have positive : decide ((10 ^ 310 : Int) < 0) = false := by decide +kernel
  refine ⟨ofInt_eq_error_iff.mpr large, ?_⟩
  rw [ofJson_toString, ofQuotient_eq_infinite large, positive]

end Bound
end Tunables
