import Geocube.Projection.TransverseMercator
import Geocube.Projection.Conic
import Geocube.Geo.Crs

/-!
Map projections between geographic degrees and planar coordinates, and the
projection of each supported coordinate reference system.

A projection sends `(lon, lat)` in degrees to `(x, y)` and back. A point outside
its domain maps to NaN. All supported datums are treated as one.
-/

namespace Geocube

/-- A map projection. -/
inductive Projection where
  | geographic
  | webMercator
  | transverseMercator (p : TransverseMercator)
  | albers (p : Albers)
  | lambert (p : Lambert)
  deriving Inhabited

namespace Projection

/-- Geographic `(lon, lat)` in degrees to projected `(x, y)`. -/
def forward : Projection → Float → Float → Float × Float
  | .geographic, lon, lat => Geographic.forward lon lat
  | .webMercator, lon, lat => WebMercator.forward lon lat
  | .transverseMercator p, lon, lat => p.forward lon lat
  | .albers p, lon, lat => p.forward lon lat
  | .lambert p, lon, lat => p.forward lon lat

/-- Projected `(x, y)` to geographic `(lon, lat)` in degrees. -/
def inverse : Projection → Float → Float → Float × Float
  | .geographic, x, y => Geographic.inverse x y
  | .webMercator, x, y => WebMercator.inverse x y
  | .transverseMercator p, x, y => p.inverse x y
  | .albers p, x, y => p.inverse x y
  | .lambert p, x, y => p.inverse x y

end Projection

/-- The projection of a coordinate reference system. -/
def Crs.projection : Crs → Projection
  | .wgs84 | .nad83 => .geographic
  | .webMercator => .webMercator
  | .utm zone north => .transverseMercator (TransverseMercator.utm zone north)
  | .australianAlbers => .albers Albers.australia
  | .conusAlbers => .albers Albers.conus
  | .canadaLambert => .lambert Lambert.canadaAtlas

end Geocube
