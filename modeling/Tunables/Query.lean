import Tunables.Rejection
import Tunables.Text.Blank
import Tunables.Text.Case
import Tunables.Vocabulary

/-!
# Queries

A query constrains a search on up to five axes and says how the results are
ordered.  Read from JSON filters, a blank text constrains nothing, other
spellings of levels and types become the known words, and an order that makes
no sense is replaced by the default one.
-/

namespace Tunables

/-- The field by which results are sorted. -/
inductive SortField where
  | name
  | type
  | level
  | service
  deriving DecidableEq, Repr

/-- The direction in which results are sorted. -/
inductive SortOrder where
  | ascending
  | descending
  deriving DecidableEq, Repr

namespace SortField

def all : List SortField :=
  [.name, .type, .level, .service]

def word : SortField → Text
  | .name => "name"
  | .type => "type"
  | .level => "level"
  | .service => "service"

def ofWord? (word : Text) : Option SortField :=
  all.find? (·.word == word)

/-- The sort field of a word, which has to be one. -/
def ofWord (word : Text) : Except UnknownWord SortField :=
  match ofWord? word with
  | some field => .ok field
  | none => .error ⟨word, "SortField"⟩

end SortField

namespace SortOrder

def all : List SortOrder :=
  [.ascending, .descending]

def word : SortOrder → Text
  | .ascending => "asc"
  | .descending => "desc"

def ofWord? (word : Text) : Option SortOrder :=
  all.find? (·.word == word)

/-- The direction of a word, which has to be one. -/
def ofWord (word : Text) : Except UnknownWord SortOrder :=
  match ofWord? word with
  | some order => .ok order
  | none => .error ⟨word, "SortOrder"⟩

end SortOrder

/-- A query. -/
structure Query where
  service : Option Text
  level : Option Text
  type : Option Text
  name : Option Text
  fullText : Option Text
  sort : SortField
  order : SortOrder
  deriving DecidableEq, Repr

namespace Query

def all : Query :=
  ⟨none, none, none, none, none, .name, .ascending⟩

def subject : String := "Query"

/-- The names of the filters, in order. -/
def filterNames : List Text :=
  ["service", "level", "type", "name", "full_text", "sort", "order"]

/-- A text, unless it is blank. -/
def nonBlank (text : Text) : Option Text :=
  if Text.allBlank text then none else some text

/-- The known word for a spelling in any case, or the spelling as it is. -/
def knownWord (aliases : Vocabulary.Aliases) (spelling : Text) : Text :=
  (aliases.word? (Text.lower spelling)).getD spelling

def readFilter (aliases : Vocabulary.Aliases) (key : Text) (filters : Members) :
    Collected (Option Text) :=
  match filters.get? key with
  | none => .done none
  | some .null => .done none
  | some (.string text) => .done ((nonBlank text).map (knownWord aliases))
  | some _ => .failed [.at .stringType key]

/-- Reads the sort field; anything that is none means the name. -/
def readSort (filters : Members) : SortField :=
  match filters.get? "sort" with
  | some (.string text) => (SortField.ofWord? (Text.lower text)).getD .name
  | _ => .name

/-- Reads the direction; anything that is none means ascending. -/
def readOrder (filters : Members) : SortOrder :=
  match filters.get? "order" with
  | some (.string text) =>
      (SortOrder.ofWord? (knownWord Vocabulary.orderAliases (Text.lower text))).getD
        .ascending
  | _ => .ascending

/-- Accepts filters only if their names are known. -/
def readNames (filters : Members) : Collected Unit :=
  match filters.filter fun filter => !filterNames.contains filter.1 with
  | [] => .done ()
  | unknown => .failed (unknown.map fun filter => .at .extraForbidden filter.1)

def ofFilters (filters : Members) : Except Rejection Query :=
  (Collected.done (fun service level type name fullText (_ : Unit) =>
        Query.mk service level type name fullText (readSort filters) (readOrder filters))
    |>.apply (readFilter [] "service" filters)
    |>.apply (readFilter Vocabulary.levelAliases "level" filters)
    |>.apply (readFilter Vocabulary.typeAliases "type" filters)
    |>.apply (readFilter [] "name" filters)
    |>.apply (readFilter [] "full_text" filters)
    |>.apply (readNames filters)).finish subject

end Query
end Tunables
