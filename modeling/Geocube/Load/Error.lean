import Geocube.Catalog.Error
import Geocube.Uuid
import Geocube.Text.Quoted

/-!
Why loading data fails.
-/

namespace Geocube

/-- Failures of loading datasets into a cube. -/
inductive LoadError where
  /-- A requested band is not part of the product. -/
  | missingMeasurement (product name : String)
  /-- Reading one band of one dataset failed. -/
  | io (dataset : Uuid) (band message : String)
  /-- No driver reads a location with this scheme and format. -/
  | driverNotFound (uri : String) (format : Option String)
  | noGridSpec (text : String)
  | invalidQuery (text : String)
  | invalidMask (text : String)
  | cancelled
  | catalog (e : CatalogError)
  | geo (e : GeoError)
  | invalidConfig (text : String)
  /-- A dataset has no local solar day: shifting its centre time by its
  longitude leaves the calendar. Loading aborts. -/
  | solarDayOutOfRange (dataset : Uuid)
  deriving Inhabited

namespace LoadError

/-- An optional text as diagnostics show it: `None` or `Some("...")`. -/
def shownOption (o : Option String) : String :=
  match o with
  | some s => "Some(" ++ Text.quoted s ++ ")"
  | none => "None"

def message : LoadError → String
  | .missingMeasurement p n => s!"product '{p}' has no measurement '{n}'"
  | .io d b m => s!"failed to read band '{b}' of dataset {d.text}: {m}"
  | .driverNotFound u f => s!"no driver for '{u}' (format {shownOption f})"
  | .noGridSpec t => "cannot determine output grid: " ++ t
  | .invalidQuery t => "invalid load query: " ++ t
  | .invalidMask t => "invalid mask: " ++ t
  | .cancelled => "load cancelled"
  | .catalog e => e.message
  | .geo e => e.message
  | .invalidConfig t => "configuration error: " ++ t
  | .solarDayOutOfRange d => s!"the solar day of dataset {d.text} is out of range"

def kind : LoadError → String
  | .missingMeasurement .. => "MissingMeasurement"
  | .io .. => "Io"
  | .driverNotFound .. => "DriverNotFound"
  | .noGridSpec _ => "NoGridSpec"
  | .invalidQuery _ => "InvalidQuery"
  | .invalidMask _ => "InvalidMask"
  | .cancelled => "Cancelled"
  | .catalog e => "Catalog::" ++ e.kind
  | .geo e => "Geo::" ++ e.kind
  | .invalidConfig _ => "InvalidConfig"
  | .solarDayOutOfRange _ => "SolarDayOutOfRange"

/-- Whether the failure concerns one dataset read and may be skipped. -/
def isReadFailure : LoadError → Bool
  | .io .. | .driverNotFound .. | .geo _ => true
  | _ => false

end LoadError

/-- The outcome of a loading step. -/
abbrev LoadResult (α : Type) := Except LoadError α

end Geocube
