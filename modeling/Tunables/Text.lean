import Tunables.CodePoint

/-!
# Texts

A text is a row of code points.  A string is a text without surrogates; where it stands for a
text, it is taken as one.  Texts are ordered by their code points.
-/

namespace Tunables

/-- A text. -/
structure Text where
  ofList ::
  toList : List CodePoint
  deriving Repr

namespace Text

/-- The text of a row of characters. -/
def ofChars (characters : List Char) : Text :=
  .ofList (characters.map .char)

def ofString (characters : String) : Text :=
  .ofChars characters.toList

instance : Coe String Text := ⟨ofString⟩

instance : Inhabited Text := ⟨.ofList []⟩

instance : Append Text := ⟨fun a b => .ofList (a.toList ++ b.toList)⟩

def isEmpty (text : Text) : Bool :=
  text.toList.isEmpty

/-- The characters of a text without surrogates. -/
def chars? (text : Text) : Option (List Char) :=
  text.toList.mapM CodePoint.char?

/-- The texts one after the other. -/
def join (texts : List Text) : Text :=
  .ofList (texts.flatMap toList)

/-- The texts with a separator between each two. -/
def intercalate (separator : Text) (texts : List Text) : Text :=
  .ofList (separator.toList.intercalate (texts.map toList))

theorem ext {a b : Text} (same : a.toList = b.toList) : a = b := by
  cases a
  exact congrArg ofList same

theorem toList_inj {a b : Text} : a.toList = b.toList ↔ a = b :=
  ⟨ext, congrArg toList⟩

instance : DecidableEq Text := fun a b =>
  decidable_of_iff (a.toList = b.toList) toList_inj

@[simp]
theorem toList_append (a b : Text) : (a ++ b).toList = a.toList ++ b.toList :=
  rfl

@[simp]
theorem toList_ofString (characters : String) :
    (ofString characters).toList = characters.toList.map .char :=
  rfl

@[simp]
theorem chars?_ofString (characters : String) :
    (ofString characters).chars? = some characters.toList := by
  have each : ∀ chars : List Char, (chars.map CodePoint.char).mapM CodePoint.char? = some chars := by
    intro chars
    induction chars with
    | nil => rfl
    | cons c rest ih => simp [ih, CodePoint.char?]
  exact each characters.toList

theorem map_char_inj {a b : List Char} : a.map CodePoint.char = b.map .char ↔ a = b :=
  List.map_inj_right fun _ _ same => CodePoint.char.inj same

@[simp]
theorem ofString_inj {a b : String} : ofString a = ofString b ↔ a = b := by
  rw [← toList_inj, toList_ofString, toList_ofString, map_char_inj, String.toList_inj]

@[simp]
theorem ofString_beq (a b : String) : (ofString a == ofString b) = (a == b) := by
  rw [Bool.eq_iff_iff, beq_iff_eq, beq_iff_eq, ofString_inj]

instance : LE Text := ⟨fun a b => a.toList ≤ b.toList⟩

instance : LT Text := ⟨fun a b => a.toList < b.toList⟩

instance (a b : Text) : Decidable (a ≤ b) :=
  inferInstanceAs (Decidable (a.toList ≤ b.toList))

instance (a b : Text) : Decidable (a < b) :=
  inferInstanceAs (Decidable (a.toList < b.toList))

instance : Std.IsLinearOrder Text where
  le_refl a := List.le_refl a.toList
  le_trans _ _ _ := List.le_trans
  le_antisymm _ _ first second := ext (List.le_antisymm first second)
  le_total a b := List.le_total a.toList b.toList

instance : Std.LawfulOrderLT Text where
  lt_iff a b := Std.LawfulOrderLT.lt_iff a.toList b.toList

end Text
end Tunables
