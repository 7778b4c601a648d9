import Mathlib.Data.List.Infix
import Tunables.Proofs.Lookup

/-!
# Free text

A free text is found where its lower case stands in the lower case of a searched text.
Lower case goes character by character, but a capital sigma becomes another letter at
the end of a word.  So a part of a text has the same lower case alone as in its place
exactly if each of its capital sigmas ends a word in both cases or in none.
-/

namespace Tunables

/-! ## Lower case of a part -/

namespace Text

variable {c : CodePoint} {before rest after text : List CodePoint}

def capitalSigma : CodePoint := .char '\u03A3'

/-- Whether a letter between two pieces of text ends a word; the piece in front of it
has its nearest character first. -/
def endsWord (before rest : List CodePoint) : Bool :=
  startsCased before && !startsCased rest

/-- The lower case of a character between two pieces of text, as in a whole text. -/
def lowerBetween (before : List CodePoint) (c : CodePoint) (rest : List CodePoint) :
    List CodePoint :=
  if c.toNat == 0x3A3 then
    [.char (Char.ofNat (if endsWord before rest then 0x3C2 else 0x3C3))]
  else mapPoint lowerChar c

/-- The lower case of a text with more text behind it. -/
def lowerWithin (before : List CodePoint) : (text after : List CodePoint) → List CodePoint
  | [], _ => []
  | c :: rest, after =>
      lowerBetween before c (rest ++ after) ++ lowerWithin (c :: before) rest after

theorem lowerAfter_append (before text after : List CodePoint) :
    lowerAfter before (text ++ after) =
      lowerWithin before text after ++ lowerAfter (text.reverse ++ before) after := by
  induction text generalizing before with
  | nil => rfl
  | cons c rest induction =>
      rw [List.cons_append, lowerAfter, induction, lowerWithin, List.append_assoc,
        List.reverse_cons, List.append_assoc]
      rfl

theorem lowerWithin_nil (before text : List CodePoint) :
    lowerWithin before text [] = lowerAfter before text := by
  have whole := lowerAfter_append before text []
  rw [List.append_nil, lowerAfter, List.append_nil] at whole
  exact whole.symm

theorem length_lowerBetween (c : CodePoint) (before rest others after : List CodePoint) :
    (lowerBetween before c rest).length = (lowerBetween others c after).length := by
  unfold lowerBetween
  split <;> rfl

/-- Only the image of a capital sigma depends on what stands around it. -/
theorem lowerBetween_eq_iff {others : List CodePoint} :
    lowerBetween before c rest = lowerBetween others c after ↔
      (c = capitalSigma → endsWord before rest = endsWord others after) := by
  unfold lowerBetween
  by_cases sigma : c = capitalSigma
  · subst sigma
    have code : (capitalSigma.toNat == 0x3A3) = true := rfl
    rw [if_pos code, if_pos code]
    cases endsWord before rest <;> cases endsWord others after <;> decide
  · have code : ¬ (c.toNat == 0x3A3) = true := by
      rw [beq_iff_eq]
      exact fun same => sigma (CodePoint.toNat_inj same)
    rw [if_neg code, if_neg code]
    exact iff_of_true rfl fun same => absurd same sigma

/-- The lower case of a text is the same between two other texts and behind the first
characters `passed` alone, exactly if its sigmas end words in both cases or in none. -/
theorem lowerWithin_eq_iff (passed before text after : List CodePoint) :
    lowerWithin (passed ++ before) text after = lowerWithin passed text [] ↔
      ∀ left right, text = left ++ capitalSigma :: right →
        endsWord (left.reverse ++ (passed ++ before)) (right ++ after) =
          endsWord (left.reverse ++ passed) right := by
  -- A character that is passed stands in front of the rest on both sides.
  induction text generalizing passed with
  | nil => exact iff_of_true rfl fun left right place => absurd place (by simp)
  | cons c rest induction =>
      have parts : lowerWithin (passed ++ before) (c :: rest) after =
          lowerWithin passed (c :: rest) [] ↔
          lowerBetween (passed ++ before) c (rest ++ after) = lowerBetween passed c (rest ++ []) ∧
            lowerWithin (c :: passed ++ before) rest after = lowerWithin (c :: passed) rest [] :=
        ⟨fun same => List.append_inj same (length_lowerBetween c _ _ _ _),
          fun ⟨first, later⟩ => congrArg₂ (· ++ ·) first later⟩
      rw [parts, lowerBetween_eq_iff, induction, List.append_nil]
      constructor
      · rintro ⟨here, later⟩ left right place
        cases left with
        | nil =>
            obtain ⟨rfl, rfl⟩ := List.cons.inj place
            exact here rfl
        | cons first left =>
            obtain ⟨rfl, inRest⟩ := List.cons.inj place
            simpa using later left right inRest
      · intro stay
        constructor
        · intro sigma
          exact stay [] rest (by rw [sigma]; rfl)
        · intro left right inRest
          simpa using stay (c :: left) right (by rw [inRest]; rfl)

/-- The capital sigmas of a text keep their lower case between two other texts: each ends a
word there exactly if it does in the text alone. -/
def SigmasStay (before text after : List CodePoint) : Prop :=
  ∀ left right, text = left ++ capitalSigma :: right →
    endsWord (left.reverse ++ before.reverse) (right ++ after) = endsWord left.reverse right

theorem sigmasStay_of_not_mem (absent : capitalSigma ∉ text) : SigmasStay before text after := by
  intro left right place
  exact absurd (by simp [place]) absent

/-- In the lower case of a whole text the lower case of a part stands in its place exactly
if the sigmas of the part stay. -/
theorem lowerWithin_eq_lowerAfter_iff :
    lowerWithin before.reverse text after = lowerAfter [] text ↔ SigmasStay before text after := by
  have alone := lowerWithin_eq_iff [] before.reverse text after
  unfold SigmasStay
  simpa only [List.nil_append, List.append_nil, lowerWithin_nil] using alone

instance : Decidable (SigmasStay before text after) :=
  decidable_of_iff _ lowerWithin_eq_lowerAfter_iff

theorem isInfix_lower_of_sigmasStay {part field : Text}
    (place : field.toList = before ++ part.toList ++ after)
    (stay : SigmasStay before part.toList after) :
    (lower part).toList <:+: (lower field).toList := by
  rw [lower, lower, place, List.append_assoc,
    lowerAfter_append, lowerAfter_append, List.append_nil, lowerWithin_eq_lowerAfter_iff.mpr stay,
    ← List.append_assoc]
  exact List.infix_append _ _ _

end Text

/-! ## Searching for a free text -/

theorem occursIn_iff {part text : List CodePoint} : occursIn part text = true ↔ part <:+: text := by
  induction text with
  | nil => rw [occursIn, List.isEmpty_iff, List.infix_nil]
  | cons c rest induction =>
      rw [occursIn, Bool.or_eq_true, List.isPrefixOf_iff_prefix, induction, List.infix_cons_iff]

theorem Parameter.matchesFullText_iff {p : Parameter} {wanted : Text} :
    p.matchesFullText (some wanted) = true ↔
      ∃ field ∈ p.searchedTexts, wanted.toList <:+: (Text.lower field).toList := by
  simp only [matchesFullText, List.any_eq_true, occursIn_iff]

namespace Catalog

variable {text : Text}

theorem ofFilters_fullText (notBlank : Text.allBlank text = false) :
    Query.ofFilters [("full_text", .string text)] =
      .ok { Query.all with fullText := some text } := by
  rw [Query.ofFilters_eq_ok_iff, ← Query.asked_eq_some notBlank]
  exact ⟨rfl, rfl⟩

theorem mem_search_fullText (c : Catalog) (text : Text) {p : Parameter} :
    p ∈ c.search { Query.all with fullText := some text } ↔
      p ∈ c.parameters ∧
        ∃ field ∈ p.searchedTexts, (Text.lower text).toList <:+: (Text.lower field).toList := by
  rw [mem_search, ← Parameter.matchesFullText_iff]
  simp [Parameter.satisfies, Query.all]

/-- A free text that is not blank finds the parameters with its lower case in the lower
case of a searched text.  So it finds every parameter in whose searched texts it stands as
it is, provided that its capital sigmas, if it has any, end words in that place exactly if
they do in the free text alone. -/
theorem search_fullText_finds (c : Catalog) (text : Text)
    (notBlank : Text.allBlank text = false) :
    ∃ query, Query.ofFilters [("full_text", .string text)] = .ok query ∧
      ∀ p ∈ c.parameters,
        (p ∈ c.search query ↔
          ∃ field ∈ p.searchedTexts, (Text.lower text).toList <:+: (Text.lower field).toList) ∧
        ∀ field ∈ p.searchedTexts, ∀ before after,
          field.toList = before ++ text.toList ++ after →
          (Text.capitalSigma ∈ text.toList → Text.SigmasStay before text.toList after) →
          p ∈ c.search query := by
  refine ⟨_, ofFilters_fullText notBlank, ?_⟩
  intro p member
  have found := (c.mem_search_fullText text).trans (and_iff_right member)
  refine ⟨found, ?_⟩
  intro field searched before after place sigmas
  have stay : Text.SigmasStay before text.toList after := by
    by_cases sigma : Text.capitalSigma ∈ text.toList
    · exact sigmas sigma
    · exact Text.sigmasStay_of_not_mem sigma
  exact found.mpr ⟨field, searched, Text.isInfix_lower_of_sigmasStay place stay⟩

/-- A catalog of one parameter of which only the name is known. -/
def ofName (name : Text) : Catalog :=
  ⟨[.named name], List.pairwise_singleton _ _⟩

/-- The sigma of this free text ends no word, neither alone nor in the name. -/
theorem search_fullText_finds_insideWord :
    Text.allBlank "ΩΣΦ" = false ∧
      ∃ query, Query.ofFilters [("full_text", .string "ΩΣΦ")] = .ok query ∧
        .named "ΦΩΣΦΟΡΟΣ" ∈ (ofName "ΦΩΣΦΟΡΟΣ").search query := by
  have notBlank : Text.allBlank "ΩΣΦ" = false := by decide +kernel
  obtain ⟨query, read, finds⟩ := search_fullText_finds (ofName "ΦΩΣΦΟΡΟΣ") "ΩΣΦ" notBlank
  obtain ⟨-, literally⟩ := finds (.named "ΦΩΣΦΟΡΟΣ") (List.mem_singleton_self _)
  have place : ("ΦΩΣΦΟΡΟΣ" : Text).toList =
      ("Φ" : Text).toList ++ ("ΩΣΦ" : Text).toList ++ ("ΟΡΟΣ" : Text).toList := by
    decide +kernel
  have stay :
      Text.SigmasStay ("Φ" : Text).toList ("ΩΣΦ" : Text).toList ("ΟΡΟΣ" : Text).toList := by
    decide +kernel
  exact ⟨notBlank, query, read, literally _ List.mem_cons_self _ _ place fun _ => stay⟩

/-- A free text that finds nothing although a name begins with it: its sigma ends a word,
the one in the name does not. -/
theorem search_fullText_misses :
    ("ΦΩΣΦΟΡΟΣ" : Text).toList = [] ++ ("ΦΩΣ" : Text).toList ++ ("ΦΟΡΟΣ" : Text).toList ∧
      Text.allBlank "ΦΩΣ" = false ∧
      ¬ Text.SigmasStay [] ("ΦΩΣ" : Text).toList ("ΦΟΡΟΣ" : Text).toList ∧
      ∃ query, Query.ofFilters [("full_text", .string "ΦΩΣ")] = .ok query ∧
        (ofName "ΦΩΣΦΟΡΟΣ").search query = [] := by
  have notBlank : Text.allBlank "ΦΩΣ" = false := by decide +kernel
  refine ⟨by decide +kernel, notBlank, by decide +kernel, _, ofFilters_fullText notBlank, ?_⟩
  decide +kernel

end Catalog

end Tunables
