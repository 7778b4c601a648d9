import Mathlib.Data.List.Forall2
import Tunables.Search

/-!
# What a pattern matches

A pattern matches a name exactly if the name can be cut into consecutive parts, one
for each piece, such that every piece takes its part.  A pattern of ordinary
characters matches itself only, so it does not matter that such a one is compared as
it is.
-/

namespace Tunables

namespace Glob

variable {piece : GlobPiece} {pieces : List GlobPiece} {c : CodePoint}
  {name part pattern : List CodePoint}

/-! ## Cutting a name -/

/-- What a piece of a pattern can take of a name. -/
inductive Covers : GlobPiece → List CodePoint → Prop where
  | star (part : List CodePoint) : Covers .star part
  | single {piece : GlobPiece} {c : CodePoint} : takes piece c = true → Covers piece [c]

/-- A name can be cut into consecutive parts, one for each piece. -/
def IsCutBy (pieces : List GlobPiece) (name : List CodePoint) : Prop :=
  ∃ parts, List.Forall₂ Covers pieces parts ∧ parts.flatten = name

theorem covers_star : Covers .star part :=
  .star part

theorem covers_iff (notStar : piece ≠ .star) :
    Covers piece part ↔ ∃ c, takes piece c = true ∧ part = [c] := by
  constructor
  · intro covers
    cases covers with
    | star part => exact absurd rfl notStar
    | single taken => exact ⟨_, taken, rfl⟩
  · rintro ⟨c, taken, rfl⟩
    exact .single taken

theorem isCutBy_nil : IsCutBy [] name ↔ name = [] := by
  constructor
  · rintro ⟨parts, covers, rfl⟩
    cases covers
    rfl
  · rintro rfl
    exact ⟨[], .nil, rfl⟩

theorem isCutBy_cons :
    IsCutBy (piece :: pieces) name ↔
      ∃ part rest, Covers piece part ∧ IsCutBy pieces rest ∧ part ++ rest = name := by
  constructor
  · rintro ⟨parts, covers, rfl⟩
    cases covers with
    | cons first later => exact ⟨_, _, first, ⟨_, later, rfl⟩, rfl⟩
  · rintro ⟨part, rest, first, ⟨parts, later, rfl⟩, rfl⟩
    exact ⟨part :: parts, .cons first later, rfl⟩

/-! ## Matching piece by piece -/

/-- What is known of the shorter suffixes of a name is what is known of the name
without its first character. -/
theorem suffixMatches_cons (c : CodePoint) (name : List CodePoint) (pieces : List GlobPiece) :
    suffixMatches (c :: name) pieces =
      matchesPieces pieces (c :: name) :: suffixMatches name pieces := by
  induction pieces with
  | nil => rfl
  | cons piece rest ih => rw [matchesPieces, suffixMatches, ih, extendMatches]; rfl

theorem suffixMatches_nil (pieces : List GlobPiece) :
    suffixMatches [] pieces = [matchesPieces pieces []] := by
  induction pieces with
  | nil => rfl
  | cons piece rest ih => rw [matchesPieces, suffixMatches, ih, extendMatches]; rfl

theorem matchesPieces_nil : matchesPieces [] name = name.isEmpty := by
  cases name with
  | nil => rfl
  | cons c name => rfl

theorem matchesPieces_cons_nil :
    matchesPieces (piece :: pieces) [] = (piece == .star && matchesPieces pieces []) := by
  rw [matchesPieces, suffixMatches, suffixMatches_nil]
  rfl

/-- A star takes no character, or the first one and perhaps more. -/
theorem matchesPieces_star_cons :
    matchesPieces (.star :: pieces) (c :: name) =
      (matchesPieces pieces (c :: name) || matchesPieces (.star :: pieces) name) := by
  rw [matchesPieces, suffixMatches, suffixMatches_cons, extendMatches]
  rfl

theorem matchesPieces_cons_cons (notStar : piece ≠ .star) :
    matchesPieces (piece :: pieces) (c :: name) =
      (takes piece c && matchesPieces pieces name) := by
  rw [matchesPieces, suffixMatches, suffixMatches_cons, extendMatches, if_neg notStar]
  rfl

theorem matchesPieces_star_iff :
    matchesPieces (.star :: pieces) name = true ↔
      ∃ part rest, matchesPieces pieces rest = true ∧ part ++ rest = name := by
  induction name with
  | nil =>
      rw [matchesPieces_cons_nil, Bool.and_eq_true, and_iff_right (beq_self_eq_true _)]
      constructor
      · intro matched
        exact ⟨[], [], matched, rfl⟩
      · rintro ⟨part, rest, matched, whole⟩
        obtain ⟨-, rfl⟩ := List.append_eq_nil_iff.mp whole
        exact matched
  | cons c name ih =>
      rw [matchesPieces_star_cons, Bool.or_eq_true, ih]
      constructor
      · rintro (matched | ⟨part, rest, matched, rfl⟩)
        · exact ⟨[], c :: name, matched, rfl⟩
        · exact ⟨c :: part, rest, matched, rfl⟩
      · rintro ⟨part, rest, matched, whole⟩
        cases part with
        | nil =>
            left
            rwa [← show rest = c :: name from whole]
        | cons first part =>
            obtain ⟨-, later⟩ := List.cons.inj whole
            exact .inr ⟨part, rest, matched, later⟩

/-- The table of suffixes finds a cut wherever there is one. -/
theorem matchesPieces_iff : matchesPieces pieces name = true ↔ IsCutBy pieces name := by
  induction pieces generalizing name with
  | nil => rw [matchesPieces_nil, List.isEmpty_iff, isCutBy_nil]
  | cons piece pieces ih =>
      rw [isCutBy_cons]
      by_cases isStar : piece = .star
      · subst isStar
        simp only [matchesPieces_star_iff, ih, covers_star, true_and]
      · simp only [covers_iff isStar, ← ih]
        cases name with
        | nil => simp [matchesPieces_cons_nil, isStar]
        | cons c name =>
            rw [matchesPieces_cons_cons isStar, Bool.and_eq_true]
            constructor
            · rintro ⟨taken, matched⟩
              exact ⟨[c], name, ⟨c, taken, rfl⟩, matched, rfl⟩
            · rintro ⟨_, rest, ⟨first, taken, rfl⟩, matched, whole⟩
              obtain ⟨rfl, rfl⟩ := List.cons.inj whole
              exact ⟨taken, matched⟩

/-! ## Patterns without brackets -/

/-- The parts of a name that a character of a pattern can span where there are no
brackets: a star any part, a question mark one character, and every other character
itself. -/
inductive Spans : CodePoint → List CodePoint → Prop where
  | star (part : List CodePoint) : Spans (.char '*') part
  | anyChar (c : CodePoint) : Spans (.char '?') [c]
  | literal {c : CodePoint} : c ≠ .char '*' → c ≠ .char '?' → Spans c [c]

/-- The piece that a character stands for where there are no brackets. -/
def pieceOf (c : CodePoint) : GlobPiece :=
  if c = .char '*' then .star else if c = .char '?' then .anyChar else .literal c

theorem pieces_eq_map (noBracket : CodePoint.char '[' ∉ pattern) :
    Glob.pieces pattern = pattern.map pieceOf := by
  induction pattern with
  | nil => rw [Glob.pieces, List.map_nil]
  | cons c pattern ih =>
      obtain ⟨other, later⟩ := not_or.mp (List.mem_cons.not.mp noBracket)
      have ordinary : ¬ c = .char '[' := fun same => other same.symm
      rw [Glob.pieces, if_neg ordinary, ih later, List.map_cons, pieceOf]
      split
      · rfl
      · split
        · rfl
        · rfl

theorem covers_pieceOf_iff : Covers (pieceOf c) part ↔ Spans c part := by
  by_cases isStar : c = .char '*'
  · subst isStar
    exact iff_of_true covers_star (.star part)
  · by_cases isMark : c = .char '?'
    · subst isMark
      have notStar : pieceOf (.char '?') ≠ .star := by decide
      rw [covers_iff notStar]
      constructor
      · rintro ⟨other, -, rfl⟩
        exact .anyChar other
      · intro spans
        cases spans with
        | anyChar other => exact ⟨other, rfl, rfl⟩
        | literal _ noMark => exact absurd rfl noMark
    · have itself : pieceOf c = .literal c := by rw [pieceOf, if_neg isStar, if_neg isMark]
      have notStar : pieceOf c ≠ .star := by rw [itself]; exact nofun
      rw [covers_iff notStar, itself]
      constructor
      · rintro ⟨other, taken, rfl⟩
        obtain rfl : c = other := beq_iff_eq.mp taken
        exact .literal isStar isMark
      · intro spans
        cases spans with
        | star _ => exact absurd rfl isStar
        | anyChar _ => exact absurd rfl isMark
        | literal _ _ => exact ⟨c, beq_self_eq_true c, rfl⟩

theorem isCutBy_pieces_iff (noBracket : CodePoint.char '[' ∉ pattern) :
    IsCutBy (Glob.pieces pattern) name ↔
      ∃ parts, List.Forall₂ Spans pattern parts ∧ parts.flatten = name := by
  simp only [IsCutBy, pieces_eq_map noBracket, List.forall₂_map_left_iff, covers_pieceOf_iff]

theorem spans_iff_of_plain (noStar : c ≠ .char '*') (noMark : c ≠ .char '?') :
    Spans c part ↔ part = [c] := by
  constructor
  · intro spans
    cases spans with
    | star _ => exact absurd rfl noStar
    | anyChar _ => exact absurd rfl noMark
    | literal _ _ => rfl
  · rintro rfl
    exact .literal noStar noMark

/-- Ordinary characters span themselves one by one. -/
theorem exists_parts_iff_of_plain (noStar : CodePoint.char '*' ∉ pattern)
    (noMark : CodePoint.char '?' ∉ pattern) :
    (∃ parts, List.Forall₂ Spans pattern parts ∧ parts.flatten = name) ↔ name = pattern := by
  induction pattern generalizing name with
  | nil => simp [eq_comm]
  | cons c pattern ih =>
      obtain ⟨isNoStar, noLaterStar⟩ := not_or.mp (List.mem_cons.not.mp noStar)
      obtain ⟨isNoMark, noLaterMark⟩ := not_or.mp (List.mem_cons.not.mp noMark)
      have itself {part : List CodePoint} : Spans c part ↔ part = [c] :=
        spans_iff_of_plain (fun same => isNoStar same.symm) fun same => isNoMark same.symm
      constructor
      · rintro ⟨parts, spans, rfl⟩
        cases spans with
        | cons first later =>
            rw [List.flatten_cons, itself.mp first, (ih noLaterStar noLaterMark).mp ⟨_, later, rfl⟩]
            rfl
      · rintro rfl
        obtain ⟨parts, later, whole⟩ := (ih noLaterStar noLaterMark).mpr rfl
        exact ⟨[c] :: parts, .cons (itself.mpr rfl) later, congrArg (c :: ·) whole⟩

end Glob

theorem matchesPattern_iff {pattern name : Text} :
    matchesPattern pattern name = true ↔
      Glob.IsCutBy (Glob.pieces pattern.toList) name.toList :=
  Glob.matchesPieces_iff

theorem isPattern_eq_false_iff {pattern : Text} :
    isPattern pattern = false ↔
      CodePoint.char '*' ∉ pattern.toList ∧ CodePoint.char '?' ∉ pattern.toList ∧
        CodePoint.char '[' ∉ pattern.toList := by
  simp only [isPattern, List.any_eq_false, Bool.or_eq_true, beq_iff_eq, not_or]
  constructor
  · intro plain
    exact ⟨fun star => (plain _ star).1.1 rfl, fun mark => (plain _ mark).1.2 rfl,
      fun bracket => (plain _ bracket).2 rfl⟩
  · rintro ⟨noStar, noMark, noBracket⟩ c member
    exact ⟨⟨ne_of_mem_of_not_mem member noStar, ne_of_mem_of_not_mem member noMark⟩,
      ne_of_mem_of_not_mem member noBracket⟩

/-- A pattern of ordinary characters matches itself only. -/
theorem matchesPattern_of_plain {pattern name : Text} (plain : isPattern pattern = false) :
    matchesPattern pattern name = (name == pattern) := by
  obtain ⟨noStar, noMark, noBracket⟩ := isPattern_eq_false_iff.mp plain
  rw [Bool.eq_iff_iff, beq_iff_eq, matchesPattern_iff, Glob.isCutBy_pieces_iff noBracket,
    Glob.exists_parts_iff_of_plain noStar noMark, Text.toList_inj]

/-- Comparing a pattern of ordinary characters as it is changes nothing. -/
theorem Parameter.matchesName_eq_matchesPattern (p : Parameter) (pattern : Text) :
    p.matchesName (some pattern) = matchesPattern pattern p.name := by
  rw [matchesName]
  split
  · rfl
  · next plain => rw [matchesPattern_of_plain (Bool.eq_false_iff.mpr plain)]

/-- A pattern without brackets matches a name exactly if the name can be cut into
consecutive parts, one for each character of the pattern, such that every character spans
its part.  A pattern of ordinary characters matches the name that it spells and no other,
and whether it is compared or matched piece by piece makes no difference. -/
theorem Parameter.matchesName_iff_spans (p : Parameter) (pattern : Text)
    (noBracket : CodePoint.char '[' ∉ pattern.toList) :
    (p.matchesName (some pattern) = true ↔
      ∃ parts, List.Forall₂ Glob.Spans pattern.toList parts ∧ parts.flatten = p.name.toList) ∧
    (CodePoint.char '*' ∉ pattern.toList → CodePoint.char '?' ∉ pattern.toList →
      (p.matchesName (some pattern) = true ↔ p.name = pattern)) ∧
    p.matchesName (some pattern) = matchesPattern pattern p.name := by
  have cut : p.matchesName (some pattern) = true ↔
      ∃ parts, List.Forall₂ Glob.Spans pattern.toList parts ∧ parts.flatten = p.name.toList := by
    rw [p.matchesName_eq_matchesPattern, matchesPattern_iff, Glob.isCutBy_pieces_iff noBracket]
  refine ⟨cut, ?_, p.matchesName_eq_matchesPattern pattern⟩
  intro noStar noMark
  rw [cut, Glob.exists_parts_iff_of_plain noStar noMark, Text.toList_inj]

/-- The first star has to pass over one `_m` to leave another one to the rest. -/
theorem Parameter.matchesName_iff_spans_severalStars :
    CodePoint.char '[' ∉ ("*_m?x*." : Text).toList ∧
      ∃ parts, List.Forall₂ Glob.Spans ("*_m?x*." : Text).toList parts ∧
        parts.flatten = ("osd_min_max\n.d." : Text).toList := by
  have noBracket : CodePoint.char '[' ∉ ("*_m?x*." : Text).toList := by decide
  have cut := (matchesName_iff_spans (.named "osd_min_max\n.d.") "*_m?x*." noBracket).1
  exact ⟨noBracket, cut.mp (by decide +kernel)⟩

end Tunables
