import Geocube.Geo.Error

/-!
Why a catalog operation fails.

Each failure has a sentence for people and a kind for programs; kinds of
wrapped failures are paths such as `Query::UnknownField` or
`Geo::InvalidCrs`.
-/

namespace Geocube

/-- Reasons a search is refused before any dataset is looked at. -/
inductive QueryError where
  | unknownField (name : String)
  /-- A field with different types in different metadata types, searched
  without naming a product. -/
  | ambiguousField (field : String) (types : List String)
  | unsupportedPredicate (field reason : String)
  | invalidValue (field reason : String)
  deriving Inhabited

namespace QueryError

def message : QueryError → String
  | .unknownField n => "unknown search field: " ++ n
  | .ambiguousField f ts =>
    "field '" ++ f ++ "' is ambiguous across products (" ++ ", ".intercalate ts ++
      "); scope the search by product"
  | .unsupportedPredicate f r => "unsupported predicate on '" ++ f ++ "': " ++ r
  | .invalidValue f r => "invalid value for '" ++ f ++ "': " ++ r

def kind : QueryError → String
  | .unknownField _ => "UnknownField"
  | .ambiguousField .. => "AmbiguousField"
  | .unsupportedPredicate .. => "UnsupportedPredicate"
  | .invalidValue .. => "InvalidValue"

end QueryError

/-- Failures of defining, indexing and searching catalog entries. -/
inductive CatalogError where
  | validation (text : String)
  | query (e : QueryError)
  | noMatch (text : String)
  | ambiguousMatch (candidates : List String)
  | conflict (text : String)
  | notFound (text : String)
  | alreadyExists (text : String)
  | database (text : String)
  | geo (e : GeoError)
  deriving Inhabited

namespace CatalogError

def message : CatalogError → String
  | .validation t => "validation error: " ++ t
  | .query e => e.message
  | .noMatch t => "no matching product: " ++ t
  | .ambiguousMatch cs => "document matches multiple products: " ++ ", ".intercalate cs
  | .conflict t => "conflict: " ++ t
  | .notFound t => "not found: " ++ t
  | .alreadyExists t => "already exists: " ++ t
  | .database t => "database error: " ++ t
  | .geo e => e.message

def kind : CatalogError → String
  | .validation _ => "Validation"
  | .query e => "Query::" ++ e.kind
  | .noMatch _ => "NoMatch"
  | .ambiguousMatch _ => "AmbiguousMatch"
  | .conflict _ => "Conflict"
  | .notFound _ => "NotFound"
  | .alreadyExists _ => "AlreadyExists"
  | .database _ => "Database"
  | .geo e => "Geo::" ++ e.kind

/-- Whether the failure is about classifying a document by product. -/
def isMatchError : CatalogError → Bool
  | .noMatch _ | .ambiguousMatch _ => true
  | _ => false

end CatalogError

/-- The outcome of a catalog operation. -/
abbrev CatalogResult (α : Type) := Except CatalogError α

end Geocube
