import Mathlib.Data.List.Infix
import Tunables.Text

/-!
# Surrogate pairs

A high surrogate directly in front of a low one is not the character that the two encode,
but where code units are written one by one both look the same.  A text is joined by
putting the character in place of each such pair, and texts without a pair stay as they are.
-/

namespace Tunables
namespace CodePoint

variable {c : CodePoint} {high low : Fin 0x400} {text rest : List CodePoint}

theorem ofNat_toNat (c : CodePoint) : ofNat c.toNat = c := by
  cases c with
  | char c =>
      have outside := toNat_char_lt_or_lt c
      change ofNat c.toNat = _
      rw [ofNat, if_neg (by omega), if_neg (by omega), Char.ofNat_toNat]
  | high index =>
      change ofNat (0xD800 + index) = _
      rw [ofNat, if_pos (by omega)]
      exact congrArg high (Fin.ext (by rw [Fin.val_ofNat]; omega))
  | low index =>
      change ofNat (0xDC00 + index) = _
      rw [ofNat, if_neg (by omega), if_pos (by omega)]
      exact congrArg low (Fin.ext (by rw [Fin.val_ofNat]; omega))

theorem toNat_char_lt (c : Char) : c.toNat < 0x110000 := by
  rcases c.valid with small | ⟨-, large⟩
  · exact Nat.lt_trans small (by decide)
  · exact large

theorem toNat_ofPair (high low : Fin 0x400) :
    (ofPair high low).toNat = 0x10000 + 0x400 * high + low := by
  have highBound := high.isLt
  have lowBound := low.isLt
  have valid : (0x10000 + 0x400 * high.val + low.val).isValidChar := by
    unfold Nat.isValidChar
    omega
  rw [ofPair, Char.ofNat, dif_pos valid]
  rfl

/-- Code points with the character in place of each pair of surrogates. -/
def joinPairs : List CodePoint → List CodePoint
  | .high high :: .low low :: rest => .char (ofPair high low) :: joinPairs rest
  | c :: rest => c :: joinPairs rest
  | [] => []

/-- A high surrogate stands directly in front of a low one. -/
def HasPair (text : List CodePoint) : Prop :=
  ∃ high low, [.high high, .low low] <:+: text

theorem hasPair_pair : HasPair (.high high :: .low low :: rest) :=
  ⟨high, low, (List.prefix_append _ rest).isInfix⟩

theorem HasPair.cons (later : HasPair rest) : HasPair (c :: rest) := by
  obtain ⟨high, low, inRest⟩ := later
  exact ⟨high, low, List.infix_cons inRest⟩

theorem joinPairs_of_not_hasPair (single : ¬ HasPair text) : joinPairs text = text := by
  fun_induction joinPairs text with
  | case1 high low rest ih => exact absurd hasPair_pair single
  | case2 c rest _ ih => rw [ih fun later => single later.cons]
  | case3 => rfl

theorem head?_joinPairs_low (first : (joinPairs text).head? = some (.low low)) :
    ∃ rest, text = .low low :: rest := by
  fun_induction joinPairs text with
  | case1 => cases first
  | case2 c rest _ ih =>
      cases first
      exact ⟨rest, rfl⟩
  | case3 => cases first

theorem not_hasPair_joinPairs (text : List CodePoint) : ¬ HasPair (joinPairs text) := by
  fun_induction joinPairs text with
  | case1 high low rest ih =>
      rintro ⟨h, l, inside⟩
      rcases List.infix_cons_iff.mp inside with front | later
      · cases (List.cons_prefix_cons.mp front).1
      · exact ih ⟨h, l, later⟩
  | case2 c rest alone ih =>
      rintro ⟨h, l, inside⟩
      rcases List.infix_cons_iff.mp inside with front | later
      · -- What stands behind the high surrogate was a low one already.
        obtain ⟨rfl, behind⟩ := List.cons_prefix_cons.mp front
        obtain ⟨others, shape⟩ := behind
        have first : (joinPairs rest).head? = some (.low l) := congrArg List.head? shape.symm
        obtain ⟨after, rfl⟩ := head?_joinPairs_low first
        exact alone h l after rfl rfl
      · exact ih ⟨h, l, later⟩
  | case3 =>
      rintro ⟨h, l, inside⟩
      cases List.infix_nil.mp inside

theorem joinPairs_eq_self_iff : joinPairs text = text ↔ ¬ HasPair text :=
  ⟨fun same => same ▸ not_hasPair_joinPairs text, joinPairs_of_not_hasPair⟩

theorem not_hasPair_map_char (characters : List Char) : ¬ HasPair (characters.map .char) := by
  rintro ⟨high, low, inside⟩
  have member : .high high ∈ characters.map CodePoint.char := inside.subset List.mem_cons_self
  obtain ⟨c, -, same⟩ := List.mem_map.mp member
  cases same

end CodePoint

namespace Text

/-- A text with the character in place of each pair of surrogates. -/
def joined (text : Text) : Text :=
  .ofList (CodePoint.joinPairs text.toList)

/-- In a text a high surrogate stands directly in front of a low one. -/
def HasPair (text : Text) : Prop :=
  CodePoint.HasPair text.toList

theorem joined_eq_self_iff {text : Text} : text.joined = text ↔ ¬ text.HasPair := by
  rw [← toList_inj]
  exact CodePoint.joinPairs_eq_self_iff

instance (text : Text) : Decidable text.HasPair :=
  decidable_of_iff (¬ text.joined = text) (by rw [joined_eq_self_iff, not_not])

/-- A text without surrogates stays as it is. -/
@[simp]
theorem joined_ofString (characters : String) : (ofString characters).joined = characters :=
  joined_eq_self_iff.mpr (CodePoint.not_hasPair_map_char _)

/-- The two surrogates that encode the first character beyond the basic plane. -/
def firstPair : Text :=
  .ofList [.ofNat 0xD800, .ofNat 0xDC00]

/-- The first character beyond the basic plane. -/
def firstCharacter : Text :=
  .ofList [.ofNat 0x10000]

theorem firstPair_ne_firstCharacter : firstPair ≠ firstCharacter := by
  decide

end Text
end Tunables
