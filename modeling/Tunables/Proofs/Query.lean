import Tunables.Proofs.Record
import Tunables.Query

/-!
# Reading a query

Filters are refused for what is wrong with them and for nothing else: a text filter
that is no text, or a filter that is not known.  What is read is in normal form: no
text is blank, and no text is an alias of a known word.  A query in normal form is
read back from its own fields as it is.
-/

namespace Tunables

/-! ## Aliases -/

namespace Vocabulary.Aliases

variable {aliases : Aliases} {spelling word : Text}

/-- The spellings that stand for words. -/
def spellings (aliases : Aliases) : List Text :=
  aliases.map (·.1)

/-- Neither aliases nor their words are blank, and no word is an alias again. -/
structure IsSettled (aliases : Aliases) : Prop where
  spelling_not_blank : ∀ entry ∈ aliases, Text.allBlank entry.1 = false
  word_not_blank : ∀ entry ∈ aliases, Text.allBlank entry.2 = false
  word_not_alias : ∀ entry ∈ aliases, Text.lower entry.2 ∉ aliases.spellings

theorem IsSettled.nil : IsSettled [] :=
  ⟨nofun, nofun, nofun⟩

theorem IsSettled.levels : levelAliases.IsSettled := by
  constructor <;> decide +kernel

theorem IsSettled.types : typeAliases.IsSettled := by
  constructor <;> decide +kernel

theorem word?_eq_none_iff : aliases.word? spelling = none ↔ spelling ∉ aliases.spellings := by
  rw [word?, Option.map_eq_none_iff, List.find?_eq_none, spellings, List.mem_map, not_exists]
  simp only [beq_iff_eq, not_and]

theorem exists_entry_of_word? (known : aliases.word? spelling = some word) :
    ∃ entry ∈ aliases, entry.1 = spelling ∧ entry.2 = word := by
  obtain ⟨entry, found, rfl⟩ := Option.map_eq_some_iff.mp known
  have same : entry.1 = spelling := by simpa using List.find?_some found
  exact ⟨entry, List.mem_of_find?_eq_some found, same, rfl⟩

end Vocabulary.Aliases

namespace Query

section KnownWords

variable {aliases : Vocabulary.Aliases} {spelling : Text}

theorem knownWord_of_not_alias (noAlias : Text.lower spelling ∉ aliases.spellings) :
    knownWord aliases spelling = spelling := by
  rw [knownWord, Vocabulary.Aliases.word?_eq_none_iff.mpr noAlias, Option.getD_none]

/-- The known word for a spelling is the spelling itself or the word of an entry. -/
theorem knownWord_cases (aliases : Vocabulary.Aliases) (spelling : Text) :
    (Text.lower spelling ∉ aliases.spellings ∧ knownWord aliases spelling = spelling) ∨
      ∃ entry ∈ aliases, Text.lower spelling = entry.1 ∧ knownWord aliases spelling = entry.2 := by
  cases known : aliases.word? (Text.lower spelling) with
  | none =>
      have noAlias := Vocabulary.Aliases.word?_eq_none_iff.mp known
      exact .inl ⟨noAlias, knownWord_of_not_alias noAlias⟩
  | some word =>
      obtain ⟨entry, member, same, rfl⟩ := Vocabulary.Aliases.exists_entry_of_word? known
      exact .inr ⟨entry, member, same.symm, by rw [knownWord, known, Option.getD_some]⟩

theorem lower_knownWord_not_alias (settled : aliases.IsSettled) (spelling : Text) :
    Text.lower (knownWord aliases spelling) ∉ aliases.spellings := by
  rcases knownWord_cases aliases spelling with ⟨noAlias, same⟩ | ⟨entry, member, -, same⟩
  · rwa [same]
  · rw [same]
    exact settled.word_not_alias entry member

/-- A spelling and its known word are the same word exactly if the spelling is no alias. -/
theorem lower_knownWord_eq_iff (settled : aliases.IsSettled) :
    Text.lower (knownWord aliases spelling) = Text.lower spelling ↔
      Text.lower spelling ∉ aliases.spellings := by
  constructor
  · intro same
    rw [← same]
    exact lower_knownWord_not_alias settled spelling
  · intro noAlias
    rw [knownWord_of_not_alias noAlias]

theorem allBlank_knownWord (settled : aliases.IsSettled)
    (notBlank : Text.allBlank spelling = false) :
    Text.allBlank (knownWord aliases spelling) = false := by
  rcases knownWord_cases aliases spelling with ⟨-, same⟩ | ⟨entry, member, -, same⟩
  · rwa [same]
  · rw [same]
    exact settled.word_not_blank entry member

end KnownWords

end Query

/-! ## Collected errors -/

namespace Collected

variable {α β : Type}

/-- A value that was read, unless there were errors. -/
def checked (errors : List FieldError) (value : α) : Collected α :=
  match errors with
  | [] => .done value
  | error :: more => .failed (error :: more)

theorem done_eq_checked (value : α) : Collected.done value = checked [] value :=
  rfl

theorem apply_checked (errors more : List FieldError) (f : α → β) (x : α) :
    (checked errors f).apply (checked more x) = checked (errors ++ more) (f x) := by
  cases errors with
  | nil =>
      cases more with
      | nil => rfl
      | cons _ _ => rfl
  | cons error errors =>
      cases more with
      | nil => rw [List.append_nil]; rfl
      | cons _ _ => rfl

theorem finish_checked (subject : String) (errors : List FieldError) (value : α) :
    (checked errors value).finish subject =
      if errors = [] then .ok value else .error ⟨subject, errors⟩ := by
  cases errors with
  | nil => rfl
  | cons _ _ => rfl

end Collected

namespace Query

variable {filters : Members} {aliases : Vocabulary.Aliases} {key : Text} {query : Query}

/-! ## What is wrong with filters -/

/-- The filters that are texts, in order. -/
def textNames : List Text :=
  ["service", "level", "type", "name", "full_text"]

/-- Whether the filter of a name is missing, null or a text. -/
def admitsText (filters : Members) (key : Text) : Bool :=
  match filters.get? key with
  | none => true
  | some .null => true
  | some (.string _) => true
  | some _ => false

theorem admitsText_eq_false_iff :
    admitsText filters key = false ↔
      ∃ value, filters.get? key = some value ∧ value ≠ .null ∧ ∀ text, value ≠ .string text := by
  unfold admitsText
  cases filters.get? key with
  | none => simp
  | some value => cases value <;> simp

/-- The errors that a text filter causes. -/
def textErrors (filters : Members) (key : Text) : List FieldError :=
  if admitsText filters key then [] else [.at .stringType key]

/-- The errors that unknown filters cause. -/
def nameErrors (filters : Members) : List FieldError :=
  (filters.filter fun filter => !filterNames.contains filter.1).map fun filter =>
    .at .extraForbidden filter.1

/-- All that is wrong with filters: first the text filters in their order, then the filters
that are not known. -/
def errors (filters : Members) : List FieldError :=
  textNames.flatMap (textErrors filters) ++ nameErrors filters

theorem textErrors_eq_nil_iff : textErrors filters key = [] ↔ admitsText filters key = true := by
  unfold textErrors
  split <;> simp [*]

theorem nameErrors_eq_nil_iff :
    nameErrors filters = [] ↔ ∀ filter ∈ filters, filter.1 ∈ filterNames := by
  simp [nameErrors, List.filter_eq_nil_iff]

theorem errors_eq_nil_iff :
    errors filters = [] ↔
      (∀ key ∈ textNames, admitsText filters key = true) ∧
        ∀ filter ∈ filters, filter.1 ∈ filterNames := by
  rw [errors, List.append_eq_nil_iff, List.flatMap_eq_nil_iff, nameErrors_eq_nil_iff]
  simp only [textErrors_eq_nil_iff]

/-! ## What is read from filters -/

theorem nonBlank_eq_some {text : Text} (notBlank : Text.allBlank text = false) :
    nonBlank text = some text := by
  rw [nonBlank, notBlank, if_neg Bool.false_ne_true]

/-- Where there are no aliases, a text that is not blank asks for itself. -/
theorem asked_eq_some {text : Text} (notBlank : Text.allBlank text = false) :
    (nonBlank text).map (knownWord []) = some text := by
  rw [nonBlank_eq_some notBlank]
  rfl

/-- The text that a filter asks for. -/
def wantedText (aliases : Vocabulary.Aliases) (key : Text) (filters : Members) : Option Text :=
  match filters.get? key with
  | some (.string text) => (nonBlank text).map (knownWord aliases)
  | _ => none

/-- The query that filters ask for. -/
def wanted (filters : Members) : Query where
  service := wantedText [] "service" filters
  level := wantedText Vocabulary.levelAliases "level" filters
  type := wantedText Vocabulary.typeAliases "type" filters
  name := wantedText [] "name" filters
  fullText := wantedText [] "full_text" filters
  sort := readSort filters
  order := readOrder filters

theorem readFilter_eq_checked :
    readFilter aliases key filters =
      .checked (textErrors filters key) (wantedText aliases key filters) := by
  unfold readFilter textErrors wantedText admitsText
  split <;> simp [*] <;> rfl

theorem readNames_eq_checked : readNames filters = .checked (nameErrors filters) () := by
  unfold readNames nameErrors
  cases filters.filter fun filter => !filterNames.contains filter.1 with
  | nil => rfl
  | cons _ _ => rfl

/-- Filters give the query that they ask for, or everything that is wrong with them. -/
theorem ofFilters_eq (filters : Members) :
    ofFilters filters =
      if errors filters = [] then .ok (wanted filters) else .error ⟨subject, errors filters⟩ := by
  have collected : [] ++ textErrors filters "service" ++ textErrors filters "level" ++
      textErrors filters "type" ++ textErrors filters "name" ++ textErrors filters "full_text" ++
      nameErrors filters = errors filters := by
    simp only [errors, textNames, List.flatMap_cons, List.flatMap_nil, List.append_nil,
      List.nil_append, List.append_assoc]
  rw [← collected, ← Collected.finish_checked]
  simp only [ofFilters, readFilter_eq_checked, readNames_eq_checked, Collected.done_eq_checked,
    Collected.apply_checked]
  rfl

theorem ofFilters_eq_ok_iff :
    ofFilters filters = .ok query ↔ errors filters = [] ∧ wanted filters = query := by
  rw [ofFilters_eq]
  split <;> simp [*]

theorem exists_rejection_iff :
    (∃ rejection, ofFilters filters = .error rejection) ↔
      (∃ filter ∈ filters, filter.1 ∉ filterNames) ∨
        ∃ key ∈ textNames, admitsText filters key = false := by
  have failed : (∃ rejection, ofFilters filters = .error rejection) ↔ errors filters ≠ [] := by
    rw [ofFilters_eq]
    split <;> simp [*]
  rw [failed, Ne, errors_eq_nil_iff, not_and_or, or_comm]
  simp only [not_forall, Bool.not_eq_true, exists_prop]

/-! ## Normal form -/

/-- The texts that a query asks for on the five axes. -/
def texts (query : Query) : List (Option Text) :=
  [query.service, query.level, query.type, query.name, query.fullText]

/-- A text that is asked for is not blank, and no alias of a known word. -/
def IsNormalText (aliases : Vocabulary.Aliases) (wanted : Option Text) : Prop :=
  ∀ text ∈ wanted, Text.allBlank text = false ∧ Text.lower text ∉ aliases.spellings

/-- The texts of a query are in normal form. -/
structure IsNormal (query : Query) : Prop where
  service : IsNormalText [] query.service
  level : IsNormalText Vocabulary.levelAliases query.level
  type : IsNormalText Vocabulary.typeAliases query.type
  name : IsNormalText [] query.name
  fullText : IsNormalText [] query.fullText

theorem isNormalText_wantedText (settled : aliases.IsSettled) (key : Text) (filters : Members) :
    IsNormalText aliases (wantedText aliases key filters) := by
  intro text asked
  unfold wantedText at asked
  split at asked
  · next spelling _ =>
      obtain ⟨kept, known, rfl⟩ := Option.map_eq_some_iff.mp asked
      unfold nonBlank at known
      split at known
      · cases known
      · next notBlank =>
          obtain rfl := Option.some.inj known
          exact ⟨allBlank_knownWord settled (Bool.eq_false_iff.mpr notBlank),
            lower_knownWord_not_alias settled spelling⟩
  · cases asked

theorem isNormal_wanted (filters : Members) : (wanted filters).IsNormal where
  service := isNormalText_wantedText .nil _ _
  level := isNormalText_wantedText .levels _ _
  type := isNormalText_wantedText .types _ _
  name := isNormalText_wantedText .nil _ _
  fullText := isNormalText_wantedText .nil _ _

theorem IsNormal.allBlank (normal : query.IsNormal) {text : Text}
    (asked : some text ∈ query.texts) : Text.allBlank text = false := by
  simp only [texts, List.mem_cons, List.not_mem_nil, or_false] at asked
  rcases asked with asked | asked | asked | asked | asked
  · exact (normal.service text asked.symm).1
  · exact (normal.level text asked.symm).1
  · exact (normal.type text asked.symm).1
  · exact (normal.name text asked.symm).1
  · exact (normal.fullText text asked.symm).1

/-! ## A query as filters -/

/-- The filter that asks for a text or for none. -/
def textFilter : Option Text → Json
  | none => .null
  | some text => .string text

/-- The values of the seven fields of a query as filters. -/
def toFilters (query : Query) : Members :=
  [("service", textFilter query.service), ("level", textFilter query.level),
    ("type", textFilter query.type), ("name", textFilter query.name),
    ("full_text", textFilter query.fullText), ("sort", .string query.sort.word),
    ("order", .string query.order.word)]

theorem admitsText_of_get? {asked : Option Text}
    (given : filters.get? key = some (textFilter asked)) : admitsText filters key = true := by
  rw [admitsText, given]
  cases asked with
  | none => rfl
  | some text => rfl

theorem wantedText_of_get? {asked : Option Text} (normal : IsNormalText aliases asked)
    (given : filters.get? key = some (textFilter asked)) :
    wantedText aliases key filters = asked := by
  rw [wantedText, given]
  cases asked with
  | none => rfl
  | some text =>
      obtain ⟨notBlank, noAlias⟩ := normal text rfl
      change (nonBlank text).map (knownWord aliases) = some text
      rw [nonBlank_eq_some notBlank, Option.map_some, knownWord_of_not_alias noAlias]

theorem names_toFilters (query : Query) : query.toFilters.map (·.1) = filterNames :=
  rfl

theorem exists_get?_toFilters (query : Query) (isText : key ∈ textNames) :
    ∃ asked, query.toFilters.get? key = some (textFilter asked) := by
  simp only [textNames, List.mem_cons, List.not_mem_nil, or_false] at isText
  rcases isText with rfl | rfl | rfl | rfl | rfl
  · exact ⟨query.service, rfl⟩
  · exact ⟨query.level, rfl⟩
  · exact ⟨query.type, rfl⟩
  · exact ⟨query.name, rfl⟩
  · exact ⟨query.fullText, rfl⟩

theorem errors_toFilters (query : Query) : errors query.toFilters = [] := by
  rw [errors_eq_nil_iff]
  constructor
  · intro key isText
    obtain ⟨asked, given⟩ := query.exists_get?_toFilters isText
    exact admitsText_of_get? given
  · intro filter member
    rw [← query.names_toFilters]
    exact List.mem_map_of_mem member

theorem readSort_toFilters (query : Query) : readSort query.toFilters = query.sort := by
  change (SortField.ofWord? (Text.lower query.sort.word)).getD .name = query.sort
  cases query.sort <;> decide +kernel

theorem readOrder_toFilters (query : Query) : readOrder query.toFilters = query.order := by
  change (SortOrder.ofWord? (knownWord Vocabulary.orderAliases
    (Text.lower query.order.word))).getD .ascending = query.order
  cases query.order <;> decide +kernel

theorem IsNormal.wanted_toFilters (normal : query.IsNormal) : wanted query.toFilters = query := by
  have service : wantedText [] "service" query.toFilters = query.service :=
    wantedText_of_get? normal.service rfl
  have level : wantedText Vocabulary.levelAliases "level" query.toFilters = query.level :=
    wantedText_of_get? normal.level rfl
  have type : wantedText Vocabulary.typeAliases "type" query.toFilters = query.type :=
    wantedText_of_get? normal.type rfl
  have name : wantedText [] "name" query.toFilters = query.name :=
    wantedText_of_get? normal.name rfl
  have fullText : wantedText [] "full_text" query.toFilters = query.fullText :=
    wantedText_of_get? normal.fullText rfl
  rw [wanted, service, level, type, name, fullText, readSort_toFilters, readOrder_toFilters]

/-- A query in normal form, and no other, is read back from its own fields. -/
theorem ofFilters_toFilters_iff : ofFilters query.toFilters = .ok query ↔ query.IsNormal := by
  rw [ofFilters_eq_ok_iff, and_iff_right query.errors_toFilters]
  constructor
  · intro same
    rw [← same]
    exact isNormal_wanted _
  · exact IsNormal.wanted_toFilters

/-- Filters are refused exactly if one of them is not known or a text filter is neither null
nor a text; what is asked of the sorting never matters.  Otherwise no text of the query is
blank, and the query is read back from the values of its own seven fields. -/
theorem ofFilters_characterization (filters : Members) :
    ((∃ rejection, ofFilters filters = .error rejection) ↔
      (∃ filter ∈ filters, filter.1 ∉ filterNames) ∨
        ∃ key ∈ textNames, ∃ value, filters.get? key = some value ∧
          value ≠ .null ∧ ∀ text, value ≠ .string text) ∧
    ∀ query, ofFilters filters = .ok query →
      (∀ text, some text ∈ query.texts → Text.allBlank text = false) ∧
        ofFilters query.toFilters = .ok query := by
  constructor
  · simp only [exists_rejection_iff, admitsText_eq_false_iff]
  · intro query read
    obtain ⟨-, rfl⟩ := ofFilters_eq_ok_iff.mp read
    have normal := isNormal_wanted filters
    exact ⟨fun text asked => normal.allBlank asked, ofFilters_toFilters_iff.mpr normal⟩

end Query
end Tunables
