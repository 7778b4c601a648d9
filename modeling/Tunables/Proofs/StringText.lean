import Mathlib.Algebra.Group.Nat.Defs
import Tunables.Json.Reader
import Tunables.Json.Writer
import Tunables.Proofs.SurrogatePairs

/-!
# Strings read back

The reader takes the code points of a written string up to its closing quote, whatever
stands behind the quote.  It gives the string back with its surrogate pairs joined: an
escape of a high surrogate in front of one of a low surrogate is read as the character that
both encode.  Up to this the text of a string is found again at the front of any text.
-/

namespace Tunables.Text

variable {width n : Nat}

theorem length_hexDigits (width n : Nat) : (hexDigits width n).length = width := by
  induction width generalizing n with
  | zero => rfl
  | succ width induction => rw [hexDigits, List.length_append, induction]; rfl

theorem hexValue?_hexDigit : ∀ digit < 16, hexValue? (hexDigit digit) = some digit := by
  decide

theorem readHexAfter_append_singleton (value : Nat) (digits : List Char) (c : Char) :
    readHexAfter value (digits ++ [c]) =
      (readHexAfter value digits).bind fun front => (hexValue? c).map (16 * front + ·) := by
  induction digits generalizing value with
  | nil =>
      simp only [List.nil_append, readHexAfter, Option.bind_some]
      cases hexValue? c <;> rfl
  | cons first rest induction =>
      simp only [List.cons_append, readHexAfter]
      cases hexValue? first with
      | none => rfl
      | some digit => exact induction _

theorem readHex_hexDigits (width n : Nat) :
    readHex (hexDigits width n) = some (n % 16 ^ width) := by
  induction width generalizing n with
  | zero => simp [hexDigits, readHex, readHexAfter, Nat.mod_one]
  | succ width induction =>
      have front : readHexAfter 0 (hexDigits width (n / 16)) = some (n / 16 % 16 ^ width) :=
        induction (n / 16)
      rw [hexDigits, readHex, readHexAfter_append_singleton, front, Option.bind_some,
        hexValue?_hexDigit _ (Nat.mod_lt _ (by decide)), Option.map_some, Nat.pow_succ',
        Nat.mod_mul, Nat.add_comm]

end Tunables.Text

namespace Tunables.Json

open Text

variable {unit : Nat} {rest : List CodePoint} {c : CodePoint}

/-! ## Code units -/

theorem codeUnit?_hexDigits (inPlane : unit < 0x10000) (follows : rest ≠ []) :
    codeUnit? ((hexDigits 4 unit).map .char ++ rest) = some unit := by
  obtain ⟨next, others, rfl⟩ := List.exists_cons_of_ne_nil follows
  have value := readHex_hexDigits 4 unit
  have short : unit < 16 ^ 4 := inPlane
  rw [Nat.mod_eq_of_lt short] at value
  exact value

theorem drop_hexDigits (unit : Nat) (rest : List CodePoint) :
    ((hexDigits 4 unit).map CodePoint.char ++ rest).drop 4 = rest :=
  rfl

theorem isHighSurrogate_eq_false (outside : unit < 0xD800 ∨ 0xDBFF < unit) :
    isHighSurrogate unit = false := by
  simp only [isHighSurrogate, Bool.and_eq_false_iff, decide_eq_false_iff_not]
  omega

theorem isLowSurrogate_eq_false (outside : unit < 0xDC00 ∨ 0xDFFF < unit) :
    isLowSurrogate unit = false := by
  simp only [isLowSurrogate, Bool.and_eq_false_iff, decide_eq_false_iff_not]
  omega

/-- No escape of a low surrogate stands in front. -/
def StartsApart (text : List CodePoint) : Prop :=
  ∀ second, text = .char '\\' :: .char 'u' :: second →
    ∃ unit, codeUnit? second = some unit ∧ isLowSurrogate unit = false

theorem readCodePoint_unit (inPlane : unit < 0x10000) (follows : rest ≠ [])
    (apart : isHighSurrogate unit = true → StartsApart rest) :
    readCodePoint ((hexDigits 4 unit).map .char ++ rest) = .ok (.ofNat unit, 4) := by
  rw [readCodePoint, codeUnit?_hexDigits inPlane follows, drop_hexDigits]
  dsimp only
  split
  · next second =>
      cases isHigh : isHighSurrogate unit with
      | false => rfl
      | true =>
          obtain ⟨other, found, notLow⟩ := apart isHigh second rfl
          simp [found, notLow]
  · rfl

theorem readCodePoint_pair (high low : Fin 0x400) (follows : rest ≠ []) :
    readCodePoint ((hexDigits 4 (0xD800 + high)).map .char ++
      .char '\\' :: .char 'u' :: ((hexDigits 4 (0xDC00 + low)).map .char ++ rest)) =
        .ok (.char (CodePoint.ofPair high low), 10) := by
  have isHigh : isHighSurrogate (0xD800 + high) = true := by
    simp only [isHighSurrogate, Bool.and_eq_true, decide_eq_true_eq]
    omega
  have isLow : isLowSurrogate (0xDC00 + low) = true := by
    simp only [isLowSurrogate, Bool.and_eq_true, decide_eq_true_eq]
    omega
  have joined : joinSurrogates (0xD800 + high) (0xDC00 + low) =
      (CodePoint.ofPair high low).toNat := by
    have code := CodePoint.toNat_ofPair high low
    unfold joinSurrogates
    omega
  have image : CodePoint.ofNat (joinSurrogates (0xD800 + high) (0xDC00 + low)) =
      .char (CodePoint.ofPair high low) := by
    rw [joined]
    exact CodePoint.ofNat_toNat (.char _)
  have long : 4 < ((hexDigits 4 (0xDC00 + low)).map CodePoint.char ++ rest).length := by
    have some := List.length_pos_iff.mpr follows
    rw [List.length_append, List.length_map, length_hexDigits]
    omega
  rw [readCodePoint, codeUnit?_hexDigits (by omega) (List.cons_ne_nil _ _), drop_hexDigits]
  simp only [isHigh, long, codeUnit?_hexDigits (show 0xDC00 + low.val < 0x10000 by omega) follows,
    isLow, image, decide_true, Bool.and_self, if_true]

/-! ## Escapes -/

theorem simpleEscape?_of_shortEscape? {c letter : Char} (short : shortEscape? c = some letter) :
    simpleEscape? letter = some c ∧ letter ≠ 'u' := by
  unfold shortEscape? at short
  split at short <;> cases short <;> decide

theorem readEscape_letter {c letter : Char} (image : simpleEscape? letter = some c)
    (notUnit : letter ≠ 'u') : readEscape (.char letter :: rest) = .ok (.char c, 1) := by
  rw [readEscape.eq_def]
  split
  · contradiction
  · next shape => exact absurd (CodePoint.char.inj (List.cons.inj shape).1) notUnit
  · next shape =>
      rw [← (List.cons.inj shape).1]
      simp [CodePoint.char?, image]

theorem readEscape_unit {used : Nat} (image : readCodePoint rest = .ok (c, used)) :
    readEscape (.char 'u' :: rest) = .ok (c, used + 1) := by
  rw [readEscape, image]
  rfl

theorem readStringBody_escape {opening used : Nat} {text : List CodePoint} (some : text ≠ [])
    (image : readEscape text = .ok (c, used)) (after : text.drop used = rest) :
    readStringBody opening (.char '\\' :: text) =
      (readStringBody opening rest).map
        fun (codePoints, remaining) => (c :: codePoints, remaining) := by
  rw [readStringBody, image]
  simp [some, after]

/-- A code unit that is no half of a pair is read back from its escape. -/
theorem readStringBody_codeUnitEscape (opening : Nat) (inPlane : unit < 0x10000)
    (follows : rest ≠ []) (apart : isHighSurrogate unit = true → StartsApart rest) :
    readStringBody opening ((codeUnitEscape unit).map .char ++ rest) =
      (readStringBody opening rest).map
        fun (codePoints, remaining) => (.ofNat unit :: codePoints, remaining) := by
  rw [codeUnitEscape, List.map_cons, List.map_cons, List.cons_append, List.cons_append]
  exact readStringBody_escape (List.cons_ne_nil _ _)
    (readEscape_unit (readCodePoint_unit inPlane follows apart)) rfl

/-- A pair is read from the escapes of its halves. -/
theorem readStringBody_pair (opening : Nat) (high low : Fin 0x400) (follows : rest ≠ []) :
    readStringBody opening ((codeUnitEscape (0xD800 + high)).map .char ++
        ((codeUnitEscape (0xDC00 + low)).map .char ++ rest)) =
      (readStringBody opening rest).map
        fun (codePoints, remaining) =>
          (.char (CodePoint.ofPair high low) :: codePoints, remaining) := by
  rw [codeUnitEscape, codeUnitEscape, List.map_cons, List.map_cons, List.map_cons, List.map_cons,
    List.cons_append, List.cons_append, List.cons_append, List.cons_append]
  exact readStringBody_escape (List.cons_ne_nil _ _)
    (readEscape_unit (readCodePoint_pair high low follows)) rfl

/-- Halves of the code of a character beyond the basic plane. -/
theorem exists_pair_of_beyond {c : Char} (beyond : 0x10000 ≤ c.toNat) :
    ∃ high low : Fin 0x400, c = CodePoint.ofPair high low ∧
      (c.toNat - 0x10000) / 0x400 = high ∧ (c.toNat - 0x10000) % 0x400 = low := by
  have below : c.toNat < 0x110000 := CodePoint.toNat_char_lt c
  refine ⟨⟨(c.toNat - 0x10000) / 0x400, by omega⟩, ⟨(c.toNat - 0x10000) % 0x400, by omega⟩,
    ?_, rfl, rfl⟩
  rw [← Char.toNat_inj, CodePoint.toNat_ofPair]
  dsimp only
  omega

theorem isHighSurrogate_toNat_char (c : Char) : isHighSurrogate c.toNat = false := by
  have outside := CodePoint.toNat_char_lt_or_lt c
  exact isHighSurrogate_eq_false (by omega)

/-- A character is read back from its escape. -/
theorem readStringBody_escapedChar (opening : Nat) (c : Char) (follows : rest ≠ []) :
    readStringBody opening ((escapedChar c).map .char ++ rest) =
      (readStringBody opening rest).map
        fun (codePoints, remaining) => (.char c :: codePoints, remaining) := by
  unfold escapedChar
  split
  · next letter short =>
      obtain ⟨image, notUnit⟩ := simpleEscape?_of_shortEscape? short
      rw [List.map_cons, List.map_singleton, List.cons_append, List.singleton_append]
      exact readStringBody_escape (List.cons_ne_nil _ rest) (readEscape_letter image notUnit) rfl
  · next long =>
      split
      · next printable =>
          -- The reader stops at quotes, backslashes and control characters only.
          have quote : c ≠ '"' := by
            rintro rfl
            cases long
          have backslash : c ≠ '\\' := by
            rintro rfl
            cases long
          have graphic : ¬ (CodePoint.char c).toNat < 0x20 := by
            simp only [Bool.and_eq_true, decide_eq_true_eq, Char.le_def,
              UInt32.le_iff_toNat_le] at printable
            exact Nat.not_lt.mpr printable.1
          rw [List.map_singleton, List.singleton_append, readStringBody]
          simp [quote, backslash, graphic]
      · split
        · next inPlane =>
            have single := isHighSurrogate_toNat_char c
            rw [readStringBody_codeUnitEscape opening inPlane follows (by simp [single])]
            rw [show CodePoint.ofNat c.toNat = .char c from CodePoint.ofNat_toNat (.char c)]
        · next beyond =>
            obtain ⟨high, low, rfl, highHalf, lowHalf⟩ :=
              exists_pair_of_beyond (Nat.not_lt.mp beyond)
            rw [highHalf, lowHalf, List.map_append, List.append_assoc]
            exact readStringBody_pair opening high low follows

/-! ## The code points of a string -/

theorem startsApart_codeUnitEscape (inPlane : unit < 0x10000)
    (notLow : isLowSurrogate unit = false) (follows : rest ≠ []) :
    StartsApart ((codeUnitEscape unit).map .char ++ rest) := by
  intro second shape
  obtain ⟨-, afterBackslash⟩ := List.cons.inj shape
  obtain ⟨-, rfl⟩ := List.cons.inj afterBackslash
  exact ⟨unit, codeUnit?_hexDigits inPlane follows, notLow⟩

theorem startsApart_escapedChar (c : Char) (follows : rest ≠ []) :
    StartsApart ((escapedChar c).map .char ++ rest) := by
  have outside := CodePoint.toNat_char_lt_or_lt c
  unfold escapedChar
  split
  · next letter short =>
      intro second shape
      obtain ⟨-, afterBackslash⟩ := List.cons.inj shape
      exact absurd (CodePoint.char.inj (List.cons.inj afterBackslash).1)
        (simpleEscape?_of_shortEscape? short).2
  · next long =>
      split
      · intro second shape
        obtain rfl : c = '\\' := CodePoint.char.inj (List.cons.inj shape).1
        cases long
      · split
        · next inPlane =>
            exact startsApart_codeUnitEscape inPlane (isLowSurrogate_eq_false (by omega)) follows
        · next beyond =>
            have below : c.toNat < 0x110000 := CodePoint.toNat_char_lt c
            rw [List.map_append, List.append_assoc]
            exact startsApart_codeUnitEscape (by omega) (isLowSurrogate_eq_false (by omega))
              (List.cons_ne_nil _ _)

/-- Where the next code point is no low surrogate, no escape of one comes next. -/
theorem startsApart_flatMap {text : List CodePoint}
    (alone : ∀ low others, text ≠ .low low :: others) :
    StartsApart ((text.flatMap escapedPoint).map .char ++ .char '"' :: rest) := by
  cases text with
  | nil =>
      intro second shape
      cases shape
  | cons next others =>
      have follows : (others.flatMap escapedPoint).map .char ++ .char '"' :: rest ≠ [] :=
        List.append_ne_nil_of_right_ne_nil _ (List.cons_ne_nil _ _)
      rw [List.flatMap_cons, List.map_append, List.append_assoc]
      cases next with
      | char c => exact startsApart_escapedChar c follows
      | high index =>
          have inPlane : 0xD800 + index.val < 0x10000 := by omega
          have notLow : isLowSurrogate (0xD800 + index.val) = false :=
            isLowSurrogate_eq_false (by omega)
          exact startsApart_codeUnitEscape inPlane notLow follows
      | low index => exact absurd rfl (alone index others)

/-- A string is read back up to its closing quote, with its surrogate pairs joined. -/
theorem readStringBody_flatMap (opening : Nat) (text rest : List CodePoint) :
    readStringBody opening ((text.flatMap escapedPoint).map .char ++ .char '"' :: rest) =
      .ok (CodePoint.joinPairs text, rest) := by
  have follows (others : List CodePoint) :
      (others.flatMap escapedPoint).map .char ++ .char '"' :: rest ≠ [] :=
    List.append_ne_nil_of_right_ne_nil _ (List.cons_ne_nil _ _)
  fun_induction CodePoint.joinPairs text with
  | case1 high low others ih =>
      rw [List.flatMap_cons, List.flatMap_cons, List.map_append, List.map_append,
        List.append_assoc, List.append_assoc]
      refine (readStringBody_pair opening high low (follows others)).trans ?_
      rw [ih]
      rfl
  | case2 c others alone ih =>
      rw [List.flatMap_cons, List.map_append, List.append_assoc]
      cases c with
      | char c =>
          rw [escapedPoint, readStringBody_escapedChar opening c (follows others), ih]
          rfl
      | high index =>
          have inPlane : 0xD800 + index.val < 0x10000 := by omega
          have apart : StartsApart ((others.flatMap escapedPoint).map .char ++ .char '"' :: rest) :=
            startsApart_flatMap fun low after shape => alone index low after rfl shape
          refine (readStringBody_codeUnitEscape opening inPlane (follows others)
            fun _ => apart).trans ?_
          rw [ih]
          exact congrArg (fun point => Except.ok (point :: _, rest))
            (CodePoint.ofNat_toNat (.high index))
      | low index =>
          have inPlane : 0xDC00 + index.val < 0x10000 := by omega
          have notHigh : isHighSurrogate (0xDC00 + index) = false :=
            isHighSurrogate_eq_false (by omega)
          refine (readStringBody_codeUnitEscape opening inPlane (follows others)
            (by simp [notHigh])).trans ?_
          rw [ih]
          exact congrArg (fun point => Except.ok (point :: _, rest))
            (CodePoint.ofNat_toNat (.low index))
  | case3 =>
      rw [List.flatMap_nil, List.map_nil, List.nil_append, readStringBody]
      rfl

theorem map_stringChars_append (text : Text) (rest : List CodePoint) :
    (stringChars text).map .char ++ rest =
      .char '"' :: ((text.toList.flatMap escapedPoint).map .char ++ .char '"' :: rest) := by
  simp [stringChars]

theorem readString_flatMap (text : Text) (rest : List CodePoint) :
    readString ((text.toList.flatMap escapedPoint).map .char ++ .char '"' :: rest) =
      .ok (text.joined, rest) := by
  rw [readString, readStringBody_flatMap]
  rfl

/-! ## Texts of strings -/

theorem shortEscape?_of_beyond {c : Char} (beyond : 0x10000 ≤ c.toNat) :
    shortEscape? c = none := by
  unfold shortEscape?
  split <;> first | exact absurd beyond (by decide) | rfl

theorem escapedChar_of_beyond {c : Char} (beyond : 0x10000 ≤ c.toNat) :
    escapedChar c = codeUnitEscape (0xD800 + (c.toNat - 0x10000) / 0x400) ++
      codeUnitEscape (0xDC00 + (c.toNat - 0x10000) % 0x400) := by
  have notGraphic : (' ' ≤ c && c ≤ '~') = false := by
    simp only [Bool.and_eq_false_iff, decide_eq_false_iff_not, Char.le_def,
      UInt32.le_iff_toNat_le]
    refine .inr fun graphic => ?_
    have small : c.toNat ≤ 126 := graphic
    omega
  rw [escapedChar, shortEscape?_of_beyond beyond]
  dsimp only
  rw [notGraphic, if_neg Bool.false_ne_true, if_neg (Nat.not_lt.mpr beyond)]

/-- A pair is written like the character that it encodes. -/
theorem escapedChar_ofPair (high low : Fin 0x400) :
    escapedChar (CodePoint.ofPair high low) =
      codeUnitEscape (0xD800 + high) ++ codeUnitEscape (0xDC00 + low) := by
  have code := CodePoint.toNat_ofPair high low
  have highHalf : ((CodePoint.ofPair high low).toNat - 0x10000) / 0x400 = high := by omega
  have lowHalf : ((CodePoint.ofPair high low).toNat - 0x10000) % 0x400 = low := by omega
  rw [escapedChar_of_beyond (by omega), highHalf, lowHalf]

theorem flatMap_escapedPoint_joinPairs (text : List CodePoint) :
    (CodePoint.joinPairs text).flatMap escapedPoint = text.flatMap escapedPoint := by
  fun_induction CodePoint.joinPairs text with
  | case1 high low rest ih =>
      rw [List.flatMap_cons, List.flatMap_cons, List.flatMap_cons, ih, ← List.append_assoc]
      exact congrArg (· ++ _) (escapedChar_ofPair high low)
  | case2 c rest _ ih => rw [List.flatMap_cons, List.flatMap_cons, ih]
  | case3 => rfl

theorem stringChars_joined (text : Text) : stringChars text.joined = stringChars text := by
  rw [stringChars, stringChars, Text.joined, flatMap_escapedPoint_joinPairs]

/-- A text starts with the text of one string at most, up to its surrogate pairs. -/
theorem stringChars_append_inj {left right : Text} {behind others : List Char}
    (texts : stringChars left ++ behind = stringChars right ++ others) :
    left.joined = right.joined ∧ behind = others := by
  have readings : ∀ (text : Text) (after : List Char),
      readString ((stringChars text ++ after).map .char).tail =
        .ok (text.joined, after.map .char) := by
    intro text after
    rw [List.map_append, map_stringChars_append]
    exact readString_flatMap text _
  have same := Except.ok.inj ((readings left behind).symm.trans (texts ▸ readings right others))
  obtain ⟨strings, remaining⟩ := Prod.mk.inj same
  exact ⟨strings, map_char_inj.mp remaining⟩

end Tunables.Json
