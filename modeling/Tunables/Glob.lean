import Tunables.Text

/-!
# Name patterns

A pattern is a sequence of pieces: a star takes any characters, a question mark
takes one, brackets take one character of a class, and every other character
takes itself.  A character is any code point here.  A name matches when it can be cut
into parts, one for each piece.
-/

namespace Tunables

/-- A class of characters: the characters in some ranges, or those in none. -/
structure CharClass where
  negated : Bool
  ranges : List (CodePoint × CodePoint)
  deriving DecidableEq, Repr

/-- Whether a character belongs to a class. -/
def CharClass.contains (cls : CharClass) (c : CodePoint) : Bool :=
  (cls.ranges.any fun range => range.1 ≤ c && c ≤ range.2) != cls.negated

/-- A piece of a pattern. -/
inductive GlobPiece where
  | star
  | anyChar
  | oneOf (cls : CharClass)
  | literal (c : CodePoint)
  deriving DecidableEq, Repr

namespace Glob

/-- Splits off what can stand in front of brackets' content without ending it:
an exclamation mark and then a closing bracket. -/
def takeBracketLead : List CodePoint → List CodePoint × List CodePoint
  | .char '!' :: .char ']' :: rest => ([.char '!', .char ']'], rest)
  | .char '!' :: rest => ([.char '!'], rest)
  | .char ']' :: rest => ([.char ']'], rest)
  | rest => ([], rest)

/-- Splits the content of brackets from what follows them; nothing when the
brackets are not closed. -/
def splitBrackets (text : List CodePoint) : Option (List CodePoint × List CodePoint) :=
  let (lead, rest) := takeBracketLead text
  match rest.dropWhile (· != .char ']') with
  | [] => none
  | _ :: after => some (lead ++ rest.takeWhile (· != .char ']'), after)

/-- Cuts the content of brackets at the hyphens that make ranges.  The first
`skip` characters cannot be such a hyphen. -/
def chunks (skip : Nat) (text : List CodePoint) : List (List CodePoint) :=
  if (text.drop skip).contains (.char '-') then
    (text.take skip ++ (text.drop skip).takeWhile (· != .char '-')) ::
      chunks 2 (((text.drop skip).dropWhile (· != .char '-')).drop 1)
  else [text]
termination_by text.length
decreasing_by
  rename_i hyphen
  have shorter : ((text.drop skip).dropWhile (· != .char '-')).length ≤ text.length :=
    Nat.le_trans (List.dropWhile_sublist _).length_le
      (by simp only [List.length_drop]; omega)
  have nonempty : 0 < text.length := by
    cases text with
    | nil => simp at hyphen
    | cons _ _ => simp
  simp only [List.length_drop]
  omega

/-- A hyphen at the end of the content is an ordinary character. -/
def closeChunks : List (List CodePoint) → List (List CodePoint)
  | [] => []
  | [chunk] => [chunk]
  | [chunk, []] => [chunk ++ [.char '-']]
  | chunk :: next :: rest => chunk :: closeChunks (next :: rest)

/-- Joins two neighbouring chunks when the range between them is empty; both
ends of the range vanish. -/
def joinEmptyRange (chunk : List CodePoint) : List (List CodePoint) → List (List CodePoint)
  | [] => [chunk]
  | next :: rest =>
      match chunk.getLast?, next.head? with
      | some low, some high =>
          if high < low then (chunk.dropLast ++ next.drop 1) :: rest
          else chunk :: next :: rest
      | _, _ => chunk :: next :: rest

/-- The ranges that chunks stand for: one between each two neighbours, and a
range of its own for every other character. -/
def rangesOf : List (List CodePoint) → List (CodePoint × CodePoint)
  | [] => []
  | [chunk] => chunk.map fun c => (c, c)
  | chunk :: next :: rest =>
      match chunk.getLast?, next with
      | some low, high :: others =>
          (chunk.dropLast.map fun c => (c, c)) ++ (low, high) :: rangesOf (others :: rest)
      | _, _ => (.char '-', .char '-') :: rangesOf (next :: rest)
termination_by list => list.length

/-- The class that the content of brackets stands for. -/
def classOf (content : List CodePoint) : CharClass :=
  let skip := if content.head? == some (.char '!') then 2 else 1
  match (closeChunks (chunks skip content)).foldr joinEmptyRange [] with
  | (.char '!' :: chunk) :: rest => ⟨true, rangesOf (chunk :: rest)⟩
  | joined => ⟨false, rangesOf joined⟩

/-- What is left behind the lead of brackets is no longer than the whole. -/
theorem takeBracketLead_length_le (text : List CodePoint) :
    (takeBracketLead text).2.length ≤ text.length := by
  fun_cases takeBracketLead text with
  | case1 rest => exact Nat.le_add_right rest.length 2
  | case2 rest => exact Nat.le_succ rest.length
  | case3 rest => exact Nat.le_succ rest.length
  | case4 => exact Nat.le_refl _

/-- The text after brackets is shorter than the text they were found in. -/
theorem splitBrackets_shorter {text content after : List CodePoint}
    (split : splitBrackets text = some (content, after)) :
    after.length < text.length + 1 := by
  unfold splitBrackets at split
  have lead := takeBracketLead_length_le text
  have dropped : ((takeBracketLead text).2.dropWhile (· != .char ']')).length ≤
      (takeBracketLead text).2.length := (List.dropWhile_sublist _).length_le
  cases found : (takeBracketLead text).2.dropWhile (· != .char ']') with
  | nil => simp [found] at split
  | cons c rest =>
      simp only [found, Option.some.injEq, Prod.mk.injEq] at split
      rw [found, List.length_cons] at dropped
      rw [← split.2]
      omega

/-- The pieces of a pattern.  An opening bracket without its closing one is an
ordinary character. -/
def pieces : List CodePoint → List GlobPiece
  | [] => []
  | c :: rest =>
      if c = .char '*' then .star :: pieces rest
      else if c = .char '?' then .anyChar :: pieces rest
      else if c = .char '[' then
        match _split : splitBrackets rest with
        | some (content, after) => .oneOf (classOf content) :: pieces after
        | none => .literal c :: pieces rest
      else .literal c :: pieces rest
termination_by text => text.length
decreasing_by
  · simp
  · simp
  · exact splitBrackets_shorter _split
  · simp
  · simp

/-- Whether a piece other than a star takes a character. -/
def takes : GlobPiece → CodePoint → Bool
  | .star, _ => false
  | .anyChar, _ => true
  | .oneOf cls, c => cls.contains c
  | .literal l, c => l == c

/-- Which suffixes of a name match, longest first, for a piece in front of
pieces whose matching suffixes are known. -/
def extendMatches (piece : GlobPiece) : List CodePoint → List Bool → List Bool
  | _, [] => []
  | [], known :: _ => [piece == .star && known]
  | c :: name, known :: later =>
      let rest := extendMatches piece name later
      let here :=
        if piece = .star then known || rest.headD false
        else takes piece c && later.headD false
      here :: rest

/-- Which suffixes of a name match pieces, longest first. -/
def suffixMatches (name : List CodePoint) : List GlobPiece → List Bool
  | [] => name.map (fun _ => false) ++ [true]
  | piece :: rest => extendMatches piece name (suffixMatches name rest)

def matchesPieces (parts : List GlobPiece) (name : List CodePoint) : Bool :=
  (suffixMatches name parts).headD false

end Glob

/-- Whether a text is a pattern rather than a plain name. -/
def isPattern (text : Text) : Bool :=
  text.toList.any fun c => c == .char '*' || c == .char '?' || c == .char '['

def matchesPattern (pattern name : Text) : Bool :=
  Glob.matchesPieces (Glob.pieces pattern.toList) name.toList

end Tunables
