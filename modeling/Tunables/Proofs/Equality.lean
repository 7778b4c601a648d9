import Mathlib.Data.List.Forall2
import Tunables.Proofs.ChecksumText
import Tunables.Proofs.Search
import Tunables.Proofs.Shortest

/-!
# Equal catalogs

Numbers are equal when they have the same value, whole or not and whatever the sign
of a zero.  Everything that holds numbers has a normal form, which writes each of
them in one way, and is equal to what has the same normal form.  A search looks at
nothing that the normal form changes.
-/

namespace Tunables

/-! ## Numbers -/

namespace Binary64

variable {x y : Binary64} {n : Int}

/-- The whole number that a double is, if it is one. -/
def whole? (x : Binary64) : Option Int :=
  if x.isIntegral then x.truncate? else none

/-- A zero without its sign, and any other double as it is. -/
def unsigned (x : Binary64) : Binary64 :=
  if x.isZero then zero else x

theorem whole?_eq_some_iff : x.whole? = some n ↔ x.units? = some (n * unitsPerOne) := by
  cases x with
  | nan => exact ⟨nofun, nofun⟩
  | infinite negative => exact ⟨nofun, nofun⟩
  | finite negative rank inRange =>
      have one : (unitsPerOne : Int) ≠ 0 := Int.natCast_ne_zero.mpr unitsPerOne_pos.ne'
      generalize signed : (if negative then -(unitsOfRank rank : Int) else unitsOfRank rank) = units
      have integral : unitsOfRank rank % unitsPerOne = 0 ↔ (unitsPerOne : Int) ∣ units := by
        rw [← Nat.dvd_iff_mod_eq_zero, ← Int.natCast_dvd_natCast, ← signed]
        split
        · exact Int.dvd_neg.symm
        · rfl
      simp only [whole?, isIntegral, truncate?, units?, signed, beq_iff_eq, integral,
        Option.map_some]
      constructor
      · intro found
        split at found
        · next divides => rw [← Option.some.inj found, Int.tdiv_mul_cancel divides]
        · cases found
      · intro multiple
        rw [Option.some.inj multiple, if_pos (Int.dvd_mul_left _ _), Int.mul_tdiv_cancel _ one]

theorem equalsInt_iff : x.equalsInt n = true ↔ x.whole? = some n := by
  rw [whole?_eq_some_iff, equalsInt, beq_iff_eq]

theorem unitsOfRank_eq_zero_iff {rank : Nat} : unitsOfRank rank = 0 ↔ rank = 0 := by
  have nothing : unitsOfRank 0 = 0 := by simp [unitsOfRank, significand]
  constructor
  · intro none
    exact strictMono_unitsOfRank.injective (none.trans nothing.symm)
  · intro least
    rw [least, nothing]

theorem units?_of_isZero (isZero : x.isZero = true) : x.units? = some 0 := by
  cases x with
  | nan => cases isZero
  | infinite negative => cases isZero
  | finite negative rank inRange =>
      have nothing : unitsOfRank rank = 0 := unitsOfRank_eq_zero_iff.mpr (beq_iff_eq.mp isZero)
      simp [units?, nothing]

theorem whole?_of_isZero (isZero : x.isZero = true) : x.whole? = some 0 := by
  rw [whole?_eq_some_iff, Int.zero_mul, units?_of_isZero isZero]

/-- Two doubles are the same, or zeros whose signs may differ. -/
def AgreeUpToZeroSign (x y : Binary64) : Prop :=
  x = y ∨ x.isZero = true ∧ y.isZero = true

theorem unsigned_eq_iff : x.unsigned = y.unsigned ↔ x.AgreeUpToZeroSign y := by
  have isZero_zero : zero.isZero = true := rfl
  unfold unsigned AgreeUpToZeroSign
  grind

theorem numEq_iff : x.numEq y = true ↔ x ≠ nan ∧ x.AgreeUpToZeroSign y := by
  unfold AgreeUpToZeroSign
  cases x with
  | nan => simp [numEq]
  | infinite negative => cases y <;> simp [numEq, isZero]
  | finite negative rank inRange =>
      cases y with
      | nan => simp [numEq, isZero]
      | infinite otherNegative => simp [numEq, isZero]
      | finite otherNegative other otherInRange =>
          simp only [numEq, isZero]
          grind

/-- Doubles that are the same or have the same value. -/
theorem beq_or_numEq_iff : (x == y || x.numEq y) = true ↔ x.AgreeUpToZeroSign y := by
  have number : x.isZero = true → x ≠ nan := by
    rintro isZero rfl
    cases isZero
  rw [Bool.or_eq_true, beq_iff_eq, numEq_iff]
  unfold AgreeUpToZeroSign
  tauto

/-- Doubles with the same number of units differ at most by the sign of a zero. -/
theorem agreeUpToZeroSign_of_units? {units : Int} (first : x.units? = some units)
    (second : y.units? = some units) : x.AgreeUpToZeroSign y := by
  cases x with
  | nan => cases first
  | infinite negative => cases first
  | finite negative rank inRange =>
      cases y with
      | nan => cases second
      | infinite otherNegative => cases second
      | finite otherNegative other otherInRange =>
          have values := first.trans second.symm
          have same : rank = other := by
            apply strictMono_unitsOfRank.injective
            simpa [units?, apply_ite] using congrArg (Option.map Int.natAbs) values
          subst same
          by_cases least : rank = 0
          · exact .inr ⟨beq_iff_eq.mpr least, beq_iff_eq.mpr least⟩
          · have some := mt unitsOfRank_eq_zero_iff.mp least
            left
            cases negative <;> cases otherNegative <;> simp [units?] at values ⊢ <;> omega

end Binary64

/-! ## Normal forms -/

/-- A content with each whole number written as one. -/
def ScalarContent.normal : ScalarContent → ScalarContent
  | .real value => value.whole?.elim (.real value) .int
  | content => content

namespace ScalarContent

variable {a b : ScalarContent} {x y : Binary64}

@[simp] theorem normal_int (n : Int) : (int n).normal = int n :=
  rfl

@[simp] theorem normal_text (text : Text) : (ScalarContent.text text).normal = .text text :=
  rfl

theorem normal_real_eq_iff :
    (real x).normal = (real y).normal ↔ x.AgreeUpToZeroSign y := by
  constructor
  · intro same
    cases first : x.whole? with
    | none =>
        cases second : y.whole? with
        | none =>
            simp only [normal, first, second, Option.elim_none, real.injEq] at same
            exact .inl same
        | some n => simp [normal, first, second] at same
    | some m =>
        cases second : y.whole? with
        | none => simp [normal, first, second] at same
        | some n =>
            simp only [normal, first, second, Option.elim_some, int.injEq] at same
            subst same
            exact Binary64.agreeUpToZeroSign_of_units? (Binary64.whole?_eq_some_iff.mp first)
              (Binary64.whole?_eq_some_iff.mp second)
  · rintro (rfl | ⟨first, second⟩)
    · rfl
    · rw [normal, normal, Binary64.whole?_of_isZero first, Binary64.whole?_of_isZero second]
      rfl

theorem normal_real_eq_int_iff {n : Int} : (real x).normal = int n ↔ x.whole? = some n := by
  cases found : x.whole? <;> simp [normal, found]

theorem normal_real_ne_text {text : Text} : (real x).normal ≠ .text text := by
  cases found : x.whole? <;> simp [normal, found]

/-- Contents are equal if they have the same normal form. -/
theorem sameAs_iff : a.sameAs b = true ↔ a.normal = b.normal := by
  cases a with
  | int m =>
      cases b with
      | int n => simp [sameAs]
      | real y =>
          exact (Binary64.equalsInt_iff.trans normal_real_eq_int_iff.symm).trans eq_comm
      | text t => simp [sameAs]
  | real x =>
      cases b with
      | int n => exact Binary64.equalsInt_iff.trans normal_real_eq_int_iff.symm
      | real y => exact Binary64.beq_or_numEq_iff.trans normal_real_eq_iff.symm
      | text t => simp [sameAs, normal_real_ne_text]
  | text s =>
      cases b with
      | int n => simp [sameAs]
      | real y => simp [sameAs, normal_real_ne_text.symm]
      | text t => simp [sameAs]

/-- The value of a number in units. -/
def units? : ScalarContent → Option Int
  | .int value => some (value * Binary64.unitsPerOne)
  | .real value => value.units?
  | .text _ => none

/-- Numbers that have a value are equal to what has the same value. -/
theorem sameAs_iff_units? {units : Int} (value : a.units? = some units) :
    a.sameAs b = true ↔ b.units? = some units := by
  have one : (Binary64.unitsPerOne : Int) ≠ 0 :=
    Int.natCast_ne_zero.mpr Binary64.unitsPerOne_pos.ne'
  cases a with
  | text s => cases value
  | int m =>
      obtain rfl := Option.some.inj value
      cases b with
      | int n =>
          rw [sameAs, beq_iff_eq, units?, Option.some.injEq, Int.mul_eq_mul_right_iff one, eq_comm]
      | real y => exact Binary64.equalsInt_iff.trans Binary64.whole?_eq_some_iff
      | text t => exact iff_of_false nofun nofun
  | real x =>
      cases b with
      | int n =>
          rw [sameAs, Binary64.equalsInt_iff, Binary64.whole?_eq_some_iff, value.symm, eq_comm]
          rfl
      | real y =>
          rw [sameAs_iff, normal_real_eq_iff]
          constructor
          · rintro (rfl | ⟨first, second⟩)
            · exact value
            · have zeros := (Binary64.units?_of_isZero second).trans
                (Binary64.units?_of_isZero first).symm
              exact zeros.trans value
          · exact Binary64.agreeUpToZeroSign_of_units? value
      | text t => exact iff_of_false nofun nofun

theorem display_real : (real x).display = x.whole?.elim x.text toString := by
  rw [display, Binary64.whole?]
  split
  · cases x.truncate? <;> rfl
  · rfl

/-- The normal form is shown as the content is. -/
theorem display_normal (content : ScalarContent) : content.normal.display = content.display := by
  cases content with
  | int value => rfl
  | text value => rfl
  | real value =>
      cases found : value.whole? with
      | none => rw [normal, found, Option.elim_none]
      | some n =>
          rw [display_real, normal, found]
          rfl

end ScalarContent

namespace Scalar

variable {s t : Scalar}

/-- A scalar with its content in normal form. -/
def normal (s : Scalar) : Scalar :=
  { s with content := s.content.map .normal }

theorem sameAs_iff : s.sameAs t = true ↔ s.normal = t.normal := by
  obtain ⟨kind, content⟩ := s
  obtain ⟨otherKind, otherContent⟩ := t
  cases content <;> cases otherContent <;>
    simp [sameAs, normal, ScalarContent.sameAs_iff]

theorem display_normal (s : Scalar) : s.normal.display = s.display := by
  obtain ⟨kind, content⟩ := s
  cases content with
  | none => rfl
  | some content => simp [display, isAbsent, normal, ScalarContent.display_normal]

theorem display_eq_of_sameAs (same : s.sameAs t = true) : s.display = t.display := by
  rw [← s.display_normal, sameAs_iff.mp same, t.display_normal]

end Scalar

namespace Bound

variable {a b : Bound}

/-- A bound whose zero has no sign. -/
def normal (bound : Bound) : Bound :=
  bound.map .unsigned

theorem sameAs_iff : sameAs a b = true ↔ a.normal = b.normal := by
  cases a with
  | none => cases b <;> simp [sameAs, normal]
  | some x =>
      cases b with
      | none => simp [sameAs, normal]
      | some y =>
          simp only [normal, Option.map_some, Option.some.injEq]
          exact Binary64.beq_or_numEq_iff.trans Binary64.unsigned_eq_iff.symm

end Bound

/-! ## Parameters and catalogs -/

namespace Parameter

variable {p q : Parameter} {ps qs : List Parameter}

/-- A parameter with all its numbers in normal form. -/
def normal (p : Parameter) : Parameter :=
  { p with
    default := p.default.normal
    daemonDefault := p.daemonDefault.normal
    min := Bound.normal p.min
    max := Bound.normal p.max }

theorem sameAs_iff : p.sameAs q = true ↔ p.normal = q.normal := by
  simp only [sameAs, Bool.and_eq_true, beq_iff_eq, Scalar.sameAs_iff, Bound.sameAs_iff,
    normal, Parameter.mk.injEq]
  tauto

theorem forall₂_sameAs_iff :
    List.Forall₂ (fun p q => p.sameAs q = true) ps qs ↔ ps.map normal = qs.map normal := by
  simp only [sameAs_iff]
  rw [← List.forall₂_eq_eq_eq, List.forall₂_map_left_iff, List.forall₂_map_right_iff]

end Parameter

namespace Catalog

variable {c d : Catalog}

/-- A catalog with all its numbers in normal form. -/
def normal (c : Catalog) : Catalog :=
  ⟨c.parameters.map .normal, by
    rw [List.map_map]
    exact c.ascending⟩

theorem sameAs_iff_forall₂ :
    c.sameAs d = true ↔
      List.Forall₂ (fun p q => p.sameAs q = true) c.parameters d.parameters := by
  rw [sameAs, Bool.and_eq_true, beq_iff_eq, List.all_eq_true, List.forall₂_iff_zip]
  simp only [size, Prod.forall]

theorem sameAs_iff : c.sameAs d = true ↔ c.normal = d.normal := by
  rw [sameAs_iff_forall₂, Parameter.forall₂_sameAs_iff, normal, normal, mk.injEq]

end Catalog

/-! ## Searching a normal form -/

section Searching

variable {query : Query}

theorem Parameter.searchedTexts_normal (p : Parameter) :
    p.normal.searchedTexts = p.searchedTexts := by
  simp only [searchedTexts, normal, Scalar.display_normal]

theorem Parameter.satisfies_normal (p : Parameter) :
    p.normal.satisfies query = p.satisfies query := by
  have fullText (wanted : Option Text) :
      p.normal.matchesFullText wanted = p.matchesFullText wanted := by
    cases wanted with
    | none => rfl
    | some wanted => rw [matchesFullText, matchesFullText, searchedTexts_normal]
  rw [satisfies, satisfies, fullText]
  rfl

theorem sortParameters_map_normal (field : SortField) (order : SortOrder)
    (parameters : List Parameter) :
    sortParameters field order (parameters.map .normal) =
      (sortParameters field order parameters).map .normal := by
  have key (p : Parameter) : field.key p.normal = field.key p := by cases field <;> rfl
  cases order with
  | ascending => exact (List.map_mergeSort fun p _ q _ => by rw [key, key]).symm
  | descending => exact (List.map_mergeSort fun p _ q _ => by rw [key, key]).symm

/-- Normal forms are found where the parameters are. -/
theorem Catalog.search_normal (c : Catalog) (query : Query) :
    c.normal.search query = (c.search query).map .normal := by
  have kept : (c.parameters.map Parameter.normal).filter (·.satisfies query) =
      (c.parameters.filter (·.satisfies query)).map .normal := by
    simp only [List.filter_map, Function.comp_def, Parameter.satisfies_normal]
  rw [search_eq_sortParameters_filter, search_eq_sortParameters_filter, normal, kept,
    sortParameters_map_normal]

end Searching

/-! ## Equality of catalogs and what a search finds in them -/

/-- No bound is not-a-number. -/
def Parameter.HasComparableBounds (p : Parameter) : Prop :=
  p.min ≠ some .nan ∧ p.max ≠ some .nan

/-- No number of a parameter is not-a-number. -/
structure Parameter.IsNaNFree (p : Parameter) : Prop where
  default : p.default.content ≠ some (.real .nan)
  daemonDefault : p.daemonDefault.content ≠ some (.real .nan)
  bounds : p.HasComparableBounds

namespace Catalog

variable {c d : Catalog}

def IsNaNFree (c : Catalog) : Prop :=
  ∀ p ∈ c.parameters, p.IsNaNFree

theorem equivalence_sameAs :
    Equivalence fun c d : {c : Catalog // c.IsNaNFree} => c.1.sameAs d.1 = true where
  refl c := sameAs_iff.mpr rfl
  symm := by
    intro c d same
    exact sameAs_iff.mpr (sameAs_iff.mp same).symm
  trans := by
    intro c d e first second
    exact sameAs_iff.mpr ((sameAs_iff.mp first).trans (sameAs_iff.mp second))

theorem forall₂_search (same : c.sameAs d = true) (query : Query) :
    List.Forall₂ (fun p q => p.sameAs q = true) (c.search query) (d.search query) := by
  rw [Parameter.forall₂_sameAs_iff, ← search_normal, sameAs_iff.mp same, search_normal]

/-- Away from not-a-number equality of catalogs is an equivalence relation, and a search
cannot tell equal catalogs apart: it finds as many parameters in one as in the other,
and they are equal pair by pair.  In particular equal defaults are shown alike, so that
a free text is found in both or in neither, and numbers are equal when they have the
same value, whatever their size and form. -/
theorem search_congr_sameAs :
    (Equivalence fun c d : {c : Catalog // c.IsNaNFree} => c.1.sameAs d.1 = true) ∧
    (∀ (c d : Catalog) (query : Query), c.sameAs d = true →
      (c.search query).length = (d.search query).length ∧
      List.Forall₂ (fun p q => p.sameAs q = true) (c.search query) (d.search query)) ∧
    (∀ s t : Scalar, s.sameAs t = true →
      s.display = t.display ∧
      ∀ (p : Parameter) (wanted : Option Text),
        { p with default := s }.matchesFullText wanted =
          { p with default := t }.matchesFullText wanted) ∧
    (∀ (a b : ScalarContent) (units : Int), a.units? = some units →
      (a.sameAs b = true ↔ b.units? = some units)) := by
  refine ⟨equivalence_sameAs, ?_, ?_, fun a b units => ScalarContent.sameAs_iff_units?⟩
  · intro c d query same
    have pairs := forall₂_search same query
    exact ⟨pairs.length_eq, pairs⟩
  · intro s t same
    have display := Scalar.display_eq_of_sameAs same
    refine ⟨display, ?_⟩
    intro p wanted
    cases wanted with
    | none => rfl
    | some wanted => simp only [Parameter.matchesFullText, Parameter.searchedTexts, display]

theorem isNaNFree_ofDefault {value : Json}
    (number : (Scalar.ofJson value).content ≠ some (.real .nan)) : (ofDefault value).IsNaNFree := by
  intro p member
  rw [ofDefault, List.mem_singleton] at member
  subst member
  have absent {x : Binary64} : (none : Bound) ≠ some x := (Option.some_ne_none x).symm
  exact ⟨number, (Option.some_ne_none _).symm, absent, absent⟩

/-- Asked for 409, a search finds the default 4096 and the default 4096.0; a zero is
shown without its sign. -/
theorem search_congr_sameAs_whole :
    let whole := ofDefault (.int 4096)
    let point := ofDefault (.real (.ofRank false (1035 * 2 ^ 52)))
    let query := { Query.all with fullText := some "409" }
    point.sameAs whole = true ∧
      List.Forall₂ (fun p q => p.sameAs q = true) (whole.search query) (point.search query) ∧
      (point.search query).length = 1 ∧
      (Scalar.ofReal (.ofRank true 0)).display = (Scalar.ofReal (.ofRank false 0)).display := by
  intro whole point query
  obtain ⟨equivalence, congruence, texts, values⟩ := search_congr_sameAs
  have same : whole.sameAs point = true := by decide +kernel
  have found : (whole.search query).length = 1 := by decide +kernel
  obtain ⟨lengths, pairs⟩ := congruence whole point query same
  have wholeFree : whole.IsNaNFree := isNaNFree_ofDefault (by decide +kernel)
  have pointFree : point.IsNaNFree := isNaNFree_ofDefault (by decide +kernel)
  have zeros : (ScalarContent.real (.ofRank true 0)).sameAs (.real (.ofRank false 0)) = true :=
    (values _ _ 0 (by decide +kernel)).mpr (by decide +kernel)
  exact ⟨equivalence.symm (x := ⟨whole, wholeFree⟩) (y := ⟨point, pointFree⟩) same, pairs,
    lengths.symm.trans found, (texts _ _ (by simpa [Scalar.sameAs, Scalar.ofReal] using zeros)).1⟩

end Catalog

end Tunables
