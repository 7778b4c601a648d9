import Tunables.Catalog
import Tunables.Glob
import Tunables.Query

/-!
# Searching parameters

A search goes through a list of parameters in order, keeps those that satisfy
every filter, and sorts what it kept.  A plain name can belong to one parameter
only, so the search ends with it.
-/

namespace Tunables

/-- Whether a text occurs in another one. -/
def occursIn (part : List CodePoint) : List CodePoint → Bool
  | [] => part.isEmpty
  | c :: rest => part.isPrefixOf (c :: rest) || occursIn part rest

namespace Parameter

/-- Whether a service is wanted, in any case, or no particular one. -/
def matchesService (p : Parameter) : Option Text → Bool
  | none => true
  | some wanted => p.services.any fun service => Text.lower service == Text.lower wanted

/-- Whether the level is wanted, in any case. -/
def matchesLevel (p : Parameter) : Option Text → Bool
  | none => true
  | some wanted => Text.lower p.level == Text.lower wanted

/-- Whether the type is wanted, in any case. -/
def matchesType (p : Parameter) : Option Text → Bool
  | none => true
  | some wanted => Text.lower p.valueType == Text.lower wanted

/-- Whether the name is wanted, or matches the pattern that is. -/
def matchesName (p : Parameter) : Option Text → Bool
  | none => true
  | some wanted =>
      if isPattern wanted then matchesPattern wanted p.name else p.name == wanted

/-- The texts that a free text is looked for in. -/
def searchedTexts (p : Parameter) : List Text :=
  [p.name, p.valueType, p.level, p.description, p.longDescription, p.default.display,
    p.daemonDefault.display] ++ p.tags ++ p.services

/-- Whether a text in lower case occurs in one of the searched texts. -/
def matchesFullText (p : Parameter) : Option Text → Bool
  | none => true
  | some wanted =>
      p.searchedTexts.any fun text => occursIn wanted.toList (Text.lower text).toList

/-- Whether a parameter satisfies every filter of a query. -/
def satisfies (p : Parameter) (query : Query) : Bool :=
  p.matchesService query.service && p.matchesLevel query.level &&
    p.matchesType query.type && p.matchesName query.name &&
    p.matchesFullText (query.fullText.map Text.lower)

end Parameter

/-- The text by which a parameter is sorted. -/
def SortField.key (field : SortField) (p : Parameter) : Text :=
  match field with
  | .name => p.name
  | .type => p.valueType
  | .level => p.level
  | .service => p.primaryService

/-- Sorts parameters.  In both directions those with equal keys keep their
order. -/
def sortParameters (field : SortField) (order : SortOrder) (parameters : List Parameter) :
    List Parameter :=
  match order with
  | .ascending => sortByText field.key parameters
  | .descending => parameters.mergeSort fun p q => field.key q ≤ field.key p

/-- The name that a query asks for as it is. -/
def Query.exactName? (query : Query) : Option Text :=
  query.name.filter fun name => !isPattern name

/-- What a search kept, and how many parameters it looked at. -/
structure SearchResult where
  found : List Parameter
  examined : Nat

/-- Looks at parameters up to the first one of a name. -/
def scanForName (query : Query) (name : Text) : List Parameter → SearchResult
  | [] => ⟨[], 0⟩
  | p :: rest =>
      if p.name = name then ⟨if p.satisfies query then [p] else [], 1⟩
      else
        let later := scanForName query name rest
        ⟨later.found, later.examined + 1⟩

def scanAll (query : Query) (parameters : List Parameter) : SearchResult :=
  ⟨parameters.filter (·.satisfies query), parameters.length⟩

/-- Searches parameters and tells how many were looked at. -/
def searchExamined (parameters : List Parameter) (query : Query) : SearchResult :=
  let scanned :=
    match query.exactName? with
    | some name => scanForName query name parameters
    | none => scanAll query parameters
  ⟨sortParameters query.sort query.order scanned.found, scanned.examined⟩

def search (parameters : List Parameter) (query : Query) : List Parameter :=
  (searchExamined parameters query).found

def Catalog.search (c : Catalog) (query : Query) : List Parameter :=
  Tunables.search c.parameters query

end Tunables
