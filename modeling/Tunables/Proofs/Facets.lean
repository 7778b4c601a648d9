import Tunables.Proofs.Query
import Tunables.Proofs.Search

/-!
# Facets

A search by the level, the type or a service of a parameter finds this parameter.  The
exception are levels and types that are spelled like an alias: a query for an alias asks
for the known word, and a parameter keeps the spelling that it came with.
-/

namespace Tunables

/-! ## Blank text in lower case -/

namespace Text

variable {ranges : Ranges} {codePoint : Nat} {text : Text}

/-- The code points in some ranges. -/
def Ranges.codePoints (ranges : Ranges) : List Nat :=
  ranges.flatMap fun range => List.range' range.1 (range.2 + 1 - range.1)

theorem Ranges.mem_codePoints (inside : ranges.contains codePoint = true) :
    codePoint ∈ ranges.codePoints := by
  obtain ⟨range, member, within⟩ := List.any_eq_true.mp inside
  have bounds : range.1 ≤ codePoint ∧ codePoint ≤ range.2 := by simpa using within
  refine List.mem_flatMap.mpr ⟨range, member, List.mem_range'_1.mpr ?_⟩
  omega

/-- Blanks have no letter case. -/
theorem lowerChar_of_isBlank {c : Char} (blank : isBlank c = true) : lowerChar c = [c] := by
  have each : ∀ codePoint ∈ blankRanges.codePoints,
      lowerChar (Char.ofNat codePoint) = [Char.ofNat codePoint] := by decide +kernel
  simpa using each _ (Ranges.mem_codePoints blank)

theorem mapPoint_of_isBlank {c : CodePoint} (blank : c.isIn isBlank = true) :
    mapPoint lowerChar c = [c] := by
  cases c with
  | char c => rw [mapPoint, lowerChar_of_isBlank blank, List.map_singleton]
  | high index | low index => rfl

theorem lowerAfter_of_allBlank {before text : List CodePoint}
    (blank : ∀ c ∈ text, c.isIn isBlank = true) :
    lowerAfter before text = text := by
  induction text generalizing before with
  | nil => rfl
  | cons c rest ih =>
      obtain ⟨first, later⟩ := List.forall_mem_cons.mp blank
      have noSigma : ¬ (c.toNat == 0x3A3) = true := by
        intro sigma
        rw [show c = .char '\u03A3' from CodePoint.toNat_inj (beq_iff_eq.mp sigma)] at first
        exact absurd first (by decide)
      rw [lowerAfter, if_neg noSigma, mapPoint_of_isBlank first, ih later]
      rfl

theorem lower_of_allBlank (blank : allBlank text = true) : lower text = text := by
  rw [lower, lowerAfter_of_allBlank (List.all_eq_true.mp blank)]

end Text

namespace Query

variable {aliases : Vocabulary.Aliases} {spelling : Text}

/-- What is asked for under a spelling is the spelled word itself, or nothing in
particular, exactly if the spelling is no alias. -/
theorem asked_eq_iff (settled : aliases.IsSettled) :
    (∀ word ∈ (nonBlank spelling).map (knownWord aliases),
        Text.lower spelling = Text.lower word) ↔
      Text.lower spelling ∉ aliases.spellings := by
  unfold nonBlank
  split
  · next blank =>
      refine iff_of_true nofun ?_
      intro isAlias
      obtain ⟨entry, member, same⟩ := List.mem_map.mp isAlias
      rw [Text.lower_of_allBlank blank] at same
      have notBlank := settled.spelling_not_blank entry member
      rw [same, blank] at notBlank
      cases notBlank
  · simp only [Option.map_some, Option.mem_some_iff, forall_eq']
    rw [eq_comm, lower_knownWord_eq_iff settled]

theorem ofFilters_level (text : Text) :
    ofFilters [("level", .string text)] =
      .ok { all with level := (nonBlank text).map (knownWord Vocabulary.levelAliases) } :=
  ofFilters_eq_ok_iff.mpr ⟨rfl, rfl⟩

theorem ofFilters_type (text : Text) :
    ofFilters [("type", .string text)] =
      .ok { all with type := (nonBlank text).map (knownWord Vocabulary.typeAliases) } :=
  ofFilters_eq_ok_iff.mpr ⟨rfl, rfl⟩

theorem ofFilters_service (text : Text) :
    ofFilters [("service", .string text)] =
      .ok { all with service := (nonBlank text).map (knownWord []) } :=
  ofFilters_eq_ok_iff.mpr ⟨rfl, rfl⟩

end Query

namespace Parameter

variable {p : Parameter} {wanted : Option Text}

theorem matchesService_iff :
    p.matchesService wanted = true ↔
      ∀ word ∈ wanted, ∃ service ∈ p.services, Text.lower service = Text.lower word := by
  cases wanted <;> simp [matchesService]

theorem matchesLevel_iff :
    p.matchesLevel wanted = true ↔ ∀ word ∈ wanted, Text.lower p.level = Text.lower word := by
  cases wanted <;> simp [matchesLevel]

theorem matchesType_iff :
    p.matchesType wanted = true ↔ ∀ word ∈ wanted, Text.lower p.valueType = Text.lower word := by
  cases wanted <;> simp [matchesType]

end Parameter

namespace Catalog

variable {p : Parameter}

theorem mem_search_level (c : Catalog) (level : Option Text) :
    p ∈ c.search { Query.all with level } ↔ p ∈ c.parameters ∧ p.matchesLevel level = true := by
  simp [mem_search, Parameter.satisfies, Query.all]

theorem mem_search_type (c : Catalog) (type : Option Text) :
    p ∈ c.search { Query.all with type } ↔ p ∈ c.parameters ∧ p.matchesType type = true := by
  simp [mem_search, Parameter.satisfies, Query.all]

theorem mem_search_service (c : Catalog) (service : Option Text) :
    p ∈ c.search { Query.all with service } ↔
      p ∈ c.parameters ∧ p.matchesService service = true := by
  simp [mem_search, Parameter.satisfies, Query.all]

/-- A search by the level of a parameter finds the parameter exactly if the level, in any
case, is no alias of a known level, and it is the same with its type.  A search by one of
its services always finds it. -/
theorem search_facet_finds (c : Catalog) :
    ∀ p ∈ c.parameters,
      (∃ query, Query.ofFilters [("level", .string p.level)] = .ok query ∧
        (p ∈ c.search query ↔ Text.lower p.level ∉ Vocabulary.levelAliases.spellings)) ∧
      (∃ query, Query.ofFilters [("type", .string p.valueType)] = .ok query ∧
        (p ∈ c.search query ↔ Text.lower p.valueType ∉ Vocabulary.typeAliases.spellings)) ∧
      ∀ service ∈ p.services,
        ∃ query, Query.ofFilters [("service", .string service)] = .ok query ∧
          p ∈ c.search query := by
  intro p member
  refine ⟨⟨_, Query.ofFilters_level p.level, ?_⟩, ⟨_, Query.ofFilters_type p.valueType, ?_⟩, ?_⟩
  · rw [mem_search_level, and_iff_right member, Parameter.matchesLevel_iff,
      Query.asked_eq_iff .levels]
  · rw [mem_search_type, and_iff_right member, Parameter.matchesType_iff,
      Query.asked_eq_iff .types]
  · intro service offered
    refine ⟨_, Query.ofFilters_service service, (c.mem_search_service _).mpr ⟨member, ?_⟩⟩
    rw [Parameter.matchesService_iff]
    intro word asked
    exact ⟨service, offered, (Query.asked_eq_iff .nil).mpr List.not_mem_nil word asked⟩

/-- A catalog of one parameter of which only the facets are known. -/
def ofFacets (level valueType : Text) (services : List Text) : Catalog :=
  ⟨[{ Parameter.named "a" with level, valueType, services }], List.pairwise_singleton _ _⟩

/-- Words in any case, words that nobody knows and blank ones are no aliases. -/
theorem search_facet_finds_unusual :
    ∃ p ∈ (ofFacets "Dev" " " ["OSD", "ΣΊΣΥΦΟΣ"]).parameters,
      (∃ query, Query.ofFilters [("level", .string p.level)] = .ok query ∧
        p ∈ (ofFacets "Dev" " " ["OSD", "ΣΊΣΥΦΟΣ"]).search query) ∧
      (∃ query, Query.ofFilters [("type", .string p.valueType)] = .ok query ∧
        p ∈ (ofFacets "Dev" " " ["OSD", "ΣΊΣΥΦΟΣ"]).search query) ∧
      ∀ service ∈ p.services,
        ∃ query, Query.ofFilters [("service", .string service)] = .ok query ∧
          p ∈ (ofFacets "Dev" " " ["OSD", "ΣΊΣΥΦΟΣ"]).search query := by
  obtain ⟨⟨byLevel, readLevel, level⟩, ⟨byType, readType, type⟩, services⟩ :=
    search_facet_finds (ofFacets "Dev" " " ["OSD", "ΣΊΣΥΦΟΣ"]) _ List.mem_cons_self
  exact ⟨_, List.mem_cons_self, ⟨byLevel, readLevel, level.mpr (by decide +kernel)⟩,
    ⟨byType, readType, type.mpr (by decide +kernel)⟩, services⟩

/-- A level that is spelled like an alias is not found under its own spelling. -/
theorem search_level_misses :
    ∃ p ∈ (ofFacets "developer" "" []).parameters, p.level = "developer" ∧
      ∃ query, Query.ofFilters [("level", .string p.level)] = .ok query ∧
        (ofFacets "developer" "" []).search query = [] := by
  refine ⟨_, List.mem_cons_self, rfl, _, Query.ofFilters_level "developer", ?_⟩
  decide +kernel

end Catalog
end Tunables
