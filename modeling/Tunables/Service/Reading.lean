import Tunables.Search
import Tunables.Service

/-!
# Reading from a service

Readers see the catalog that is published when they ask.  A search takes a query
or filters; filters are read before anything else is looked at.
-/

namespace Tunables

/-- Whether a value stands for nothing: null, false, zero, or empty. -/
def Json.isVoid : Json → Bool
  | .null => true
  | .bool value => !value
  | .int value => value == 0
  | .real value => value.isZero
  | .string value => value.isEmpty
  | .array items => items.isEmpty
  | .object members => members.isEmpty

/-- How a search by filters fails. -/
inductive SearchError where
  | rejected (rejection : Rejection)
  | service (error : ServiceError)
  | notAQuery (typeName : String)

def SearchError.message : SearchError → Text
  | .rejected rejection => rejection.message
  | .service error => error.message
  | .notAQuery typeName => "'" ++ typeName ++ "' object has no attribute 'name'"

namespace Service

/-- The parameters of the published catalog that satisfy a query. -/
def search (s : Service) (query : Query) : Except ServiceError (List Parameter) :=
  s.store.map fun store => Tunables.search store.current.parameters query

/-- The parameters of the published catalog that satisfy filters.  In place of
filters a query can be given under a name of its own; as a value it can only
stand for the query that every parameter satisfies. -/
def searchFilters (s : Service) (filters : Members) : Except SearchError (List Parameter) :=
  match filters.get? "query" with
  | none => readAndSearch filters
  | some .null => readAndSearch (filters.filter fun filter => filter.1 != "query")
  | some given =>
      match s.store with
      | .error error => .error (.service error)
      | .ok _ =>
          if given.isVoid then (s.search .all).mapError .service
          else .error (.notAQuery given.typeName)
where
  /-- Reads filters and searches. -/
  readAndSearch (filters : Members) : Except SearchError (List Parameter) :=
    match Query.ofFilters filters with
    | .error rejection => .error (.rejected rejection)
    | .ok query => (s.search query).mapError .service

/-- The parameter of a name in the published catalog. -/
def parameter? (s : Service) (name : Text) : Except ServiceError (Option Parameter) :=
  s.store.map fun store => store.current.get? name

def metadata (s : Service) : Except ServiceError Metadata :=
  s.store.map Store.metadata

end Service
end Tunables
