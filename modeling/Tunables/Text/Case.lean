import Tunables.Text
import Tunables.Text.CaseTable

/-!
# Lower and upper case

Every character is mapped on its own, except that a capital sigma becomes the
final small sigma at the end of a word.  Surrogates stay as they are.
-/

namespace Tunables.Text

/-- The image of a code point outside ASCII under a case mapping. -/
def mapCase (runs : List CaseRun) (expansions : List (Nat × List Nat)) (c : Char) : List Char :=
  match expansions.find? fun entry => entry.1 == c.toNat with
  | some entry => entry.2.map Char.ofNat
  | none =>
      match runs.find? fun run => run.contains c.toNat with
      | some run => [Char.ofNat (c.toNat + run.distance).toNat]
      | none => [c]

/-- A single character in lower case, whatever stands around it. -/
def lowerChar (c : Char) : List Char :=
  if c.toNat < 128 then [c.toLower] else mapCase lowerRuns lowerExpansions c

def upperChar (c : Char) : List Char :=
  if c.toNat < 128 then [c.toUpper] else mapCase upperRuns upperExpansions c

/-- The image of a code point under a mapping of characters. -/
def mapPoint (image : Char → List Char) : CodePoint → List CodePoint
  | .char c => (image c).map .char
  | surrogate => [surrogate]

/-- Whether the first code point that is not skipped has letter case. -/
def startsCased (text : List CodePoint) : Bool :=
  match text.dropWhile fun c => caseIgnorableRanges.contains c.toNat with
  | [] => false
  | c :: _ => casedRanges.contains c.toNat

/-- Lower case of a text; `before` holds the code points already passed, the
nearest first. -/
def lowerAfter (before : List CodePoint) : List CodePoint → List CodePoint
  | [] => []
  | c :: rest =>
      let image :=
        if c.toNat == 0x3A3 then
          [.char (Char.ofNat (if startsCased before && !startsCased rest then 0x3C2 else 0x3C3))]
        else mapPoint lowerChar c
      image ++ lowerAfter (c :: before) rest

def lower (text : Text) : Text :=
  .ofList (lowerAfter [] text.toList)

def upper (text : Text) : Text :=
  .ofList (text.toList.flatMap (mapPoint upperChar))

end Tunables.Text
