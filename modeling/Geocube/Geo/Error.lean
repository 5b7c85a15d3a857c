/-!
Why a coordinate, grid, geometry or time operation fails.
-/

namespace Geocube

/-- Failures of the spatial and temporal operations. Each carries the text it
is about. -/
inductive GeoError where
  | invalidCrs (text : String)
  | unsupportedCrs (text : String)
  | invalidBbox (text : String)
  | invalidGeometry (text : String)
  | nonInvertible (text : String)
  | projection (text : String)
  | invalidTime (text : String)
  deriving Repr, DecidableEq, Inhabited

namespace GeoError

/-- The sentence describing the failure. -/
def message : GeoError → String
  | .invalidCrs s => "Invalid CRS: " ++ s
  | .unsupportedCrs s => "Unsupported CRS: " ++ s
  | .invalidBbox s => "Invalid bounding box: " ++ s
  | .invalidGeometry s => "Invalid geometry: " ++ s
  | .nonInvertible s => "Transform is not invertible: " ++ s
  | .projection s => "Projection error: " ++ s
  | .invalidTime s => "Invalid time specification: " ++ s

/-- The name of the kind of failure. -/
def kind : GeoError → String
  | .invalidCrs _ => "InvalidCrs"
  | .unsupportedCrs _ => "UnsupportedCrs"
  | .invalidBbox _ => "InvalidBbox"
  | .invalidGeometry _ => "InvalidGeometry"
  | .nonInvertible _ => "NonInvertible"
  | .projection _ => "Projection"
  | .invalidTime _ => "InvalidTime"

end GeoError
end Geocube
