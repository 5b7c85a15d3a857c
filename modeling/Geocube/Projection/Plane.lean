import Geocube.Projection.Ellipsoid
import Geocube.Binary64

/-!
The two projections without an ellipsoid.

Geographic coordinates project to themselves: a latitude outside `[-90, 90]`
has no image, and the inverse brings a longitude outside `[-180, 180]` back by
whole turns of 360 degrees. Web Mercator projects a sphere of the WGS84
semi-major axis, clamping latitudes to the edge of its square map.
-/

namespace Geocube

/-- The pair of NaN that stands for a point outside a projection's domain. -/
def noPoint : Float × Float := (Binary64.nan, Binary64.nan)

/-- Whether a latitude in degrees lies in `[-90, 90]`; NaN does not. -/
def isLatitude (lat : Float) : Bool := -90.0 ≤ lat && lat ≤ 90.0

namespace Geographic

def forward (lon lat : Float) : Float × Float :=
  if isLatitude lat then (lon, lat) else noPoint

/-- A longitude outside `[-180, 180]` becomes `((x + 180) mod 360) - 180`. -/
def inverse (x y : Float) : Float × Float :=
  let lon := if -180.0 ≤ x && x ≤ 180.0 then x else Binary64.remEuclid (x + 180.0) 360.0 - 180.0
  (lon, y)

end Geographic

namespace WebMercator

/-- Radius of the sphere. -/
def radius : Float := 6378137.0

/-- The latitude where the square map ends. -/
def maxLatitude : Float := 85.05112877980659

def forward (lon lat : Float) : Float × Float :=
  if !isLatitude lat then noPoint
  else
    let lat := fclamp lat (-maxLatitude) maxLatitude
    let x := radius * toRadians lon
    let y := radius * (piF / 4.0 + toRadians lat / 2.0).tan.log
    (x, y)

def inverse (x y : Float) : Float × Float :=
  let lon := toDegrees (x / radius)
  let lat := toDegrees (2.0 * (y / radius).exp.atan - piF / 2.0)
  (lon, lat)

end WebMercator

end Geocube
