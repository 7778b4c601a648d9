import Mathlib
import Tunables.Text.Case

/-!
# Upper-case names in any case

Two texts in upper case can be the same in lower case and yet differ: the Kelvin sign is
an upper-case letter of its own, and its lower case is the letter k.  Against a name in
upper-case ASCII letters it is the only character that does so.
-/

namespace Tunables.Text

def kelvinSign : Char := '\u212A'

def kelvinForK (c : CodePoint) : CodePoint :=
  if c = .char 'K' then .char kelvinSign else c

/-- A name with the Kelvin sign in place of the letter K. -/
def withKelvinSign (name : Text) : Text :=
  .ofList (name.toList.map kelvinForK)

/-- A name without small letters, in ASCII, that has the letter K at most once. -/
structure IsCapitalName (name : Text) : Prop where
  ascii : ∀ c ∈ name.toList, c.toNat < 128
  capital : ∀ c ∈ name.toList, c.isIn Char.isLower = false
  atMostOneK : name.toList.count (.char 'K') ≤ 1

/-- The small letter of a capital in ASCII. -/
def smallLetter : CodePoint → CodePoint
  | .char c => .char c.toLower
  | surrogate => surrogate

/-! ## Images of the case mappings -/

/-- The images of a run stand outside ASCII. -/
def CaseRun.IsForeign (run : CaseRun) : Prop :=
  (128 ≤ run.first + run.distance ∧ run.last + run.distance < 0xD800) ∨
    (0xE000 ≤ run.first + run.distance ∧ run.last + run.distance < 0x110000)

instance (run : CaseRun) : Decidable run.IsForeign :=
  inferInstanceAs (Decidable (_ ∨ _))

section
variable {run : CaseRun} {codePoint : Nat}

theorem CaseRun.IsForeign.image (foreign : run.IsForeign)
    (inRun : run.contains codePoint = true) :
    128 ≤ (Char.ofNat (codePoint + run.distance).toNat).toNat := by
  simp only [CaseRun.contains, Bool.and_eq_true, decide_eq_true_eq] at inRun
  have valid : (codePoint + run.distance).toNat.isValidChar ∧
      128 ≤ (codePoint + run.distance).toNat := by
    unfold IsForeign at foreign
    unfold Nat.isValidChar
    omega
  rw [Char.ofNat, dif_pos valid.1]
  exact valid.2

theorem CaseRun.eq_first_of_contains (single : run.last = run.first)
    (inRun : run.contains codePoint = true) : codePoint = run.first := by
  simp only [CaseRun.contains, Bool.and_eq_true, decide_eq_true_eq] at inRun
  omega

end

theorem mapCase_cases (runs : List CaseRun) (expansions : List (Nat × List Nat)) (c : Char) :
    (∃ entry ∈ expansions, mapCase runs expansions c = entry.2.map Char.ofNat) ∨
    (∃ run ∈ runs, run.contains c.toNat = true ∧
      mapCase runs expansions c = [Char.ofNat (c.toNat + run.distance).toNat]) ∨
    mapCase runs expansions c = [c] := by
  unfold mapCase
  split
  · next entry found => exact .inl ⟨entry, List.mem_of_find?_eq_some found, rfl⟩
  · split
    · next run found =>
        exact .inr (.inl ⟨run, List.mem_of_find?_eq_some found,
          List.find?_some (p := fun run : CaseRun => run.contains c.toNat) found, rfl⟩)
    · exact .inr (.inr rfl)

/-- Upper case leads out of ASCII, or to characters that are no small letters. -/
theorem upper_images :
    (∀ run ∈ upperRuns, run.IsForeign ∨ (run.last = run.first ∧
      (Char.ofNat (run.first + run.distance).toNat).isLower = false)) ∧
    ∀ entry ∈ upperExpansions, ∀ codePoint ∈ entry.2,
      (Char.ofNat codePoint).isLower = false := by
  decide +kernel

/-- Lower case leads out of ASCII, except from the Kelvin sign. -/
theorem lower_images :
    (∀ run ∈ lowerRuns,
      run.IsForeign ∨ (run.last = run.first ∧ run.first = kelvinSign.toNat)) ∧
    ∀ entry ∈ lowerExpansions, ∃ codePoint ∈ entry.2, 128 ≤ (Char.ofNat codePoint).toNat := by
  decide +kernel

theorem lowerChar_kelvinSign : lowerChar kelvinSign = ['k'] := by
  decide +kernel

theorem toNat_toLower_of_ascii {c : Char} (ascii : c.toNat < 128) : c.toLower.toNat < 128 := by
  have all : ∀ n < 128, (Char.ofNat n).toLower.toNat < 128 := by decide +kernel
  rw [← Char.ofNat_toNat c]
  exact all c.toNat ascii

theorem isLower_eq_false_of_foreign {c : Char} (foreign : 128 ≤ c.toNat) :
    c.isLower = false := by
  have large : ¬ c.val ≤ 'z'.val := by
    intro small
    have bound : c.toNat ≤ 122 := small
    omega
  exact Bool.and_eq_false_iff.mpr (.inr (decide_eq_false large))

/-- No text has small letters of ASCII in upper case. -/
theorem isLower_of_mem_upperChar {c d : Char} (member : d ∈ upperChar c) :
    d.isLower = false := by
  unfold upperChar at member
  by_cases ascii : c.toNat < 128
  · rw [if_pos ascii, List.mem_singleton] at member
    rw [member]
    exact Char.isLower_toUpper_eq_false c
  · rw [if_neg ascii] at member
    rcases mapCase_cases upperRuns upperExpansions c with
      ⟨entry, inTable, image⟩ | ⟨run, inTable, inRun, image⟩ | image
    · rw [image, List.mem_map] at member
      obtain ⟨codePoint, inEntry, rfl⟩ := member
      exact upper_images.2 entry inTable codePoint inEntry
    · rw [image, List.mem_singleton] at member
      rw [member]
      rcases upper_images.1 run inTable with foreign | ⟨single, capital⟩
      · exact isLower_eq_false_of_foreign (foreign.image inRun)
      · rw [CaseRun.eq_first_of_contains single inRun]
        exact capital
    · rw [image, List.mem_singleton] at member
      rw [member]
      exact isLower_eq_false_of_foreign (Nat.le_of_not_lt ascii)

/-- What is in ASCII in lower case is in ASCII, or it is the Kelvin sign. -/
theorem ascii_or_kelvinSign {c : Char} (ascii : ∀ d ∈ lowerChar c, d.toNat < 128) :
    c.toNat < 128 ∨ c = kelvinSign := by
  by_cases already : c.toNat < 128
  · exact .inl already
  · right
    rw [lowerChar, if_neg already] at ascii
    rcases mapCase_cases lowerRuns lowerExpansions c with
      ⟨entry, inTable, image⟩ | ⟨run, inTable, inRun, image⟩ | image
    · obtain ⟨codePoint, inEntry, foreign⟩ := lower_images.2 entry inTable
      rw [image] at ascii
      exact absurd (ascii _ (List.mem_map_of_mem inEntry)) (Nat.not_lt.mpr foreign)
    · rcases lower_images.1 run inTable with foreign | ⟨single, kelvin⟩
      · rw [image] at ascii
        exact absurd (ascii _ List.mem_cons_self) (Nat.not_lt.mpr (foreign.image inRun))
      · exact Char.toNat_inj.mp ((CaseRun.eq_first_of_contains single inRun).trans kelvin)
    · rw [image] at ascii
      exact absurd (ascii c List.mem_cons_self) already

/-- No surrogate is in ASCII. -/
theorem exists_char_of_ascii {c : CodePoint} (ascii : c.toNat < 128) : ∃ d : Char, c = .char d := by
  cases c with
  | char d => exact ⟨d, rfl⟩
  | high index | low index =>
      simp only [CodePoint.toNat] at ascii
      omega

theorem mapPoint_lowerChar_of_ascii {c : CodePoint} (ascii : c.toNat < 128) :
    mapPoint lowerChar c = [smallLetter c] := by
  obtain ⟨d, rfl⟩ := exists_char_of_ascii ascii
  have plain : d.toNat < 128 := ascii
  rw [mapPoint, lowerChar, if_pos plain]
  rfl

theorem toNat_smallLetter_of_ascii {c : CodePoint} (ascii : c.toNat < 128) :
    (smallLetter c).toNat < 128 := by
  obtain ⟨d, rfl⟩ := exists_char_of_ascii ascii
  exact toNat_toLower_of_ascii ascii

theorem lowerAfter_of_ascii (before : List CodePoint) {text : List CodePoint}
    (ascii : ∀ c ∈ text, c.toNat < 128) : lowerAfter before text = text.map smallLetter := by
  induction text generalizing before with
  | nil => rfl
  | cons c rest ih =>
      obtain ⟨asciiHead, asciiRest⟩ := List.forall_mem_cons.mp ascii
      have noSigma : c.toNat ≠ 0x3A3 := by omega
      simp [lowerAfter, noSigma, mapPoint_lowerChar_of_ascii asciiHead, ih _ asciiRest]

theorem toList_lower_of_ascii {text : Text} (ascii : ∀ c ∈ text.toList, c.toNat < 128) :
    (lower text).toList = text.toList.map smallLetter :=
  lowerAfter_of_ascii [] ascii

/-! ## Spellings of a name -/

/-- A capital has the same lower case as a letter of a name. -/
def IsSpellingOf (c d : CodePoint) : Prop :=
  c = d ∨ (c = .char kelvinSign ∧ d = .char 'K')

theorem mapPoint_of_isSpellingOf {c d : CodePoint} (ascii : d.toNat < 128)
    (same : IsSpellingOf c d) : c.toNat ≠ 0x3A3 ∧ mapPoint lowerChar c = [smallLetter d] := by
  rcases same with rfl | ⟨rfl, rfl⟩
  · exact ⟨by omega, mapPoint_lowerChar_of_ascii ascii⟩
  · exact ⟨by decide, by rw [mapPoint, lowerChar_kelvinSign]; rfl⟩

/-- Only letters of ASCII and the Kelvin sign have their lower case in ASCII. -/
theorem point_ascii_or_kelvinSign {c : CodePoint}
    (ascii : ∀ d ∈ mapPoint lowerChar c, d.toNat < 128) :
    c.toNat < 128 ∨ c = .char kelvinSign := by
  cases c with
  | char c =>
      have image : ∀ d ∈ lowerChar c, d.toNat < 128 :=
        fun d member => ascii (.char d) (List.mem_map_of_mem member)
      exact (ascii_or_kelvinSign image).imp id (congrArg CodePoint.char)
  | high index | low index => exact .inl (ascii _ List.mem_cons_self)

theorem exists_mapPoint_eq {c : CodePoint} (ascii : ∀ d ∈ mapPoint lowerChar c, d.toNat < 128) :
    ∃ d, mapPoint lowerChar c = [d] := by
  rcases point_ascii_or_kelvinSign ascii with plain | rfl
  · exact ⟨_, mapPoint_lowerChar_of_ascii plain⟩
  · exact ⟨.char 'k', by rw [mapPoint, lowerChar_kelvinSign]; rfl⟩

theorem toUpper_toLower_of_capital {c : Char} (capital : c.isLower = false) :
    c.toLower.toUpper = c := by
  rw [Char.toUpper_toLower_eq_toUpper, Char.toUpper_eq_of_not_isLower]
  rw [capital]
  exact Bool.false_ne_true

/-- Different capitals have different small letters. -/
theorem eq_of_smallLetter_eq {c d : CodePoint} (capital : c.isIn Char.isLower = false)
    (named : d.isIn Char.isLower = false) (same : smallLetter c = smallLetter d) : c = d := by
  cases c with
  | char c =>
      cases d with
      | char d =>
          have small : c.toLower = d.toLower := CodePoint.char.inj same
          rw [← toUpper_toLower_of_capital capital, small, toUpper_toLower_of_capital named]
      | high index | low index => cases same
  | high index | low index =>
      cases d with
      | char d => cases same
      | high other | low other => exact same

theorem isSpellingOf_of_mapPoint {c d : CodePoint} (capital : c.isIn Char.isLower = false)
    (ascii : d.toNat < 128) (named : d.isIn Char.isLower = false)
    (same : mapPoint lowerChar c = [smallLetter d]) : IsSpellingOf c d := by
  have image : ∀ e ∈ mapPoint lowerChar c, e.toNat < 128 := by
    rw [same]
    exact List.forall_mem_singleton.mpr (toNat_smallLetter_of_ascii ascii)
  rcases point_ascii_or_kelvinSign image with plain | rfl
  · left
    rw [mapPoint_lowerChar_of_ascii plain, List.singleton_inj] at same
    exact eq_of_smallLetter_eq capital named same
  · right
    have small : smallLetter (.char 'K') = smallLetter d := by
      rw [mapPoint, lowerChar_kelvinSign] at same
      exact List.singleton_inj.mp same
    exact ⟨rfl, (eq_of_smallLetter_eq (by decide) named small).symm⟩

/-- In lower case a text is the same as a name in ASCII exactly when each of its capitals is
a spelling of the letter in its place. -/
theorem lowerAfter_eq_map_iff (before : List CodePoint) {text name : List CodePoint}
    (capitals : ∀ c ∈ text, c.isIn Char.isLower = false) (ascii : ∀ d ∈ name, d.toNat < 128)
    (named : ∀ d ∈ name, d.isIn Char.isLower = false) :
    lowerAfter before text = name.map smallLetter ↔ List.Forall₂ IsSpellingOf text name := by
  induction text generalizing before name with
  | nil => simp [lowerAfter, eq_comm]
  | cons c rest ih =>
      obtain ⟨capital, capitals⟩ := List.forall_mem_cons.mp capitals
      constructor
      · intro same
        have image {d : CodePoint} (member : d ∈ lowerAfter before (c :: rest)) :
            d.toNat < 128 := by
          rw [same, List.mem_map] at member
          obtain ⟨e, inName, rfl⟩ := member
          exact toNat_smallLetter_of_ascii (ascii e inName)
        -- A capital sigma is mapped by its surroundings, but never into ASCII.
        by_cases sigma : c.toNat = 0x3A3
        · have sigmaImage : ∀ final : Bool,
              ¬ (Char.ofNat (if final then 0x3C2 else 0x3C3)).toNat < 128 := by decide
          refine absurd (image (d := .char _) ?_)
            (sigmaImage (startsCased before && !startsCased rest))
          simp [lowerAfter, sigma]
        · have plain : lowerAfter before (c :: rest) =
              mapPoint lowerChar c ++ lowerAfter (c :: before) rest := by
            simp [lowerAfter, sigma]
          have all : ∀ e ∈ mapPoint lowerChar c, e.toNat < 128 := by
            intro e member
            exact image (plain ▸ List.mem_append_left _ member)
          obtain ⟨e, single⟩ := exists_mapPoint_eq all
          rw [plain, single] at same
          cases name with
          | nil => cases same
          | cons d others =>
              obtain ⟨asciiHead, asciiRest⟩ := List.forall_mem_cons.mp ascii
              obtain ⟨namedHead, namedRest⟩ := List.forall_mem_cons.mp named
              obtain ⟨head, later⟩ := List.cons.inj same
              rw [head] at single
              exact .cons (isSpellingOf_of_mapPoint capital asciiHead namedHead single)
                ((ih _ capitals asciiRest namedRest).mp later)
      · intro spelled
        cases spelled with
        | cons same later =>
          obtain ⟨asciiHead, asciiRest⟩ := List.forall_mem_cons.mp ascii
          obtain ⟨-, namedRest⟩ := List.forall_mem_cons.mp named
          obtain ⟨noSigma, image⟩ := mapPoint_of_isSpellingOf asciiHead same
          simp [lowerAfter, noSigma, image, (ih _ capitals asciiRest namedRest).mpr later]

theorem eq_of_forall₂_of_not_mem {text name : List CodePoint}
    (spelled : List.Forall₂ IsSpellingOf text name) (absent : CodePoint.char 'K' ∉ name) :
    text = name := by
  induction spelled with
  | nil => rfl
  | cons same later ih =>
      obtain ⟨noK, absentLater⟩ := not_or.mp (fun either => absent (List.mem_cons.mpr either))
      rcases same with rfl | ⟨-, isK⟩
      · rw [ih absentLater]
      · exact absurd isK.symm noK

theorem map_kelvinForK_of_not_mem {name : List CodePoint} (absent : CodePoint.char 'K' ∉ name) :
    name.map kelvinForK = name := by
  have unchanged : ∀ c ∈ name, kelvinForK c = c := by
    intro c member
    apply if_neg
    rintro rfl
    exact absent member
  rw [List.map_congr_left unchanged, List.map_id']

theorem eq_or_eq_map_of_forall₂ {text name : List CodePoint} (once : name.count (.char 'K') ≤ 1)
    (spelled : List.Forall₂ IsSpellingOf text name) :
    text = name ∨ text = name.map kelvinForK := by
  induction spelled with
  | nil => exact .inl rfl
  | @cons c d rest others same later ih =>
      -- Behind the only K the texts are equal.
      by_cases isK : d = .char 'K'
      · have absent : CodePoint.char 'K' ∉ others := by
          rw [isK, List.count_cons_self] at once
          exact List.count_eq_zero.mp (Nat.le_zero.mp (Nat.le_of_succ_le_succ once))
        rw [eq_of_forall₂_of_not_mem later absent]
        rcases same with rfl | ⟨rfl, -⟩
        · exact .inl rfl
        · right
          rw [List.map_cons, map_kelvinForK_of_not_mem absent, kelvinForK, if_pos isK]
      · have equal : c = d := same.resolve_right fun kelvin => isK kelvin.2
        rw [List.count_cons_of_ne isK] at once
        rw [equal, List.map_cons, kelvinForK, if_neg isK]
        exact (ih once).imp (congrArg (d :: ·)) (congrArg (d :: ·))

theorem forall₂_map_kelvinForK (name : List CodePoint) :
    List.Forall₂ IsSpellingOf (name.map kelvinForK) name := by
  rw [List.forall₂_map_left_iff, List.forall₂_same]
  intro c _
  by_cases isK : c = 'K'
  · exact .inr ⟨if_pos isK, isK⟩
  · exact .inl (if_neg isK)

/-- In ASCII a name with the Kelvin sign in place of its K is the name itself. -/
theorem withKelvinSign_eq_of_ascii {name : Text}
    (ascii : ∀ c ∈ (withKelvinSign name).toList, c.toNat < 128) : withKelvinSign name = name := by
  have absent : CodePoint.char 'K' ∉ name.toList := by
    intro member
    have kelvin := ascii (kelvinForK (.char 'K')) (List.mem_map_of_mem member)
    exact absurd kelvin (by decide)
  rw [withKelvinSign, map_kelvinForK_of_not_mem absent]

/-- In lower case a text without small letters is the same as a name exactly when it is the
name, or the name with the Kelvin sign in place of its K. -/
theorem lower_eq_lower_iff {text name : Text}
    (capitals : ∀ c ∈ text.toList, c.isIn Char.isLower = false) (plain : IsCapitalName name) :
    lower text = lower name ↔ text = name ∨ text = withKelvinSign name := by
  rw [← toList_inj, toList_lower_of_ascii plain.ascii, lower,
    lowerAfter_eq_map_iff [] capitals plain.ascii plain.capital]
  constructor
  · intro spelled
    refine (eq_or_eq_map_of_forall₂ plain.atMostOneK spelled).imp ?_ ?_
    · exact ext
    · exact ext
  · rintro (rfl | rfl)
    · exact List.forall₂_same.mpr fun c _ => .inl rfl
    · exact forall₂_map_kelvinForK name.toList

theorem isLower_of_mem_upper {text : Text} {d : CodePoint} (member : d ∈ (upper text).toList) :
    d.isIn Char.isLower = false := by
  obtain ⟨c, -, inImage⟩ := List.mem_flatMap.mp member
  cases c with
  | char c =>
      obtain ⟨e, inUpper, rfl⟩ := List.mem_map.mp inImage
      exact isLower_of_mem_upperChar inUpper
  | high index | low index =>
      rw [List.mem_singleton.mp inImage]
      rfl

end Tunables.Text
