import Tunables.Text
import Tunables.Text.Ranges

/-!
# Blank characters

The blanks are the separators of Unicode together with the control characters
that separate lines, fields and records.  Trimming and splitting work on them.
-/

namespace Tunables.Text

def blankRanges : Ranges := [
    (0x9, 0xD), (0x1C, 0x20), (0x85, 0x85), (0xA0, 0xA0), (0x1680, 0x1680),
    (0x2000, 0x200A), (0x2028, 0x2029), (0x202F, 0x202F), (0x205F, 0x205F), (0x3000, 0x3000)
  ]

def isBlank (c : Char) : Bool :=
  blankRanges.contains c.toNat

/-- The four separators of files, groups, records and units, which are blank
but are not white space in the narrower sense of Unicode. -/
def isInformationSeparator (c : Char) : Bool :=
  0x1C ≤ c.toNat && c.toNat ≤ 0x1F

/-- Whether a character is white space in the narrower sense of Unicode. -/
def isWhiteSpace (c : Char) : Bool :=
  isBlank c && !isInformationSeparator c

/-- Whether a character is one of the six blanks of plain ASCII text. -/
def isPlainSpace (c : Char) : Bool :=
  (9 ≤ c.toNat && c.toNat ≤ 13) || c == ' '

/-- Drops the members of a class at both ends. -/
def trimWhere {α : Type} (inClass : α → Bool) (row : List α) : List α :=
  ((row.dropWhile inClass).reverse.dropWhile inClass).reverse

/-- A text without the blanks at its two ends. -/
def trim (text : Text) : Text :=
  .ofList (trimWhere (CodePoint.isIn isBlank) text.toList)

/-- Whether a text consists of blanks only. -/
def allBlank (text : Text) : Bool :=
  text.toList.all (CodePoint.isIn isBlank)

/-- The longest pieces of a text that hold no blank, in order. -/
def words (text : Text) : List Text :=
  let (last, done) := text.toList.foldr
    (fun c (word, done) =>
      if c.isIn isBlank then
        ([], if word.isEmpty then done else .ofList word :: done)
      else (c :: word, done))
    ([], [])
  if last.isEmpty then done else .ofList last :: done

end Tunables.Text
