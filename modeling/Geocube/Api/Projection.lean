import Geocube.Api.Request
import Geocube.Geometry.Basic

/-!
Answers about projections, transformations between systems, and polygons.
-/

namespace Geocube
namespace Api

/-- A conic projection given by its kind, six parameters and an ellipsoid. -/
def conicArg (d : Document) : Step Projection := do
  let params ← floats (← arg d "params")
  let p ← match params with
    | [lat0, lon0, sp1, sp2, fe, fn] => pure (ConicParams.mk lat0 lon0 sp1 sp2 fe fn)
    | _ => throw (badInput "conic params are [lat0, lon0, sp1, sp2, false_easting, false_northing]")
  let el ← match ← strArg? d "ellipsoid" with
    | none | some "GRS80" => pure Ellipsoid.grs80
    | some "WGS84" => pure Ellipsoid.wgs84
    | some other => throw (badInput s!"unknown ellipsoid '{other}'")
  match ← strArg d "kind" with
  | "albers" => return .albers (Albers.ofParams p el)
  | "lambert" => return .lambert (Lambert.ofParams p el)
  | other => throw (badInput s!"unknown conic '{other}'")

/-- `project`: points through a projection, forward or inverse. -/
def projectOp (req : Document) : Step Document := do
  let proj ← match arg? req "conic" with
    | some c => conicArg c
    | none => pure (← crsArg req "crs").projection
  let ps ← points (← arg req "points")
  let f ← match ← strArg req "dir" with
    | "forward" => pure proj.forward
    | "inverse" => pure proj.inverse
    | other => throw (badInput s!"unknown dir '{other}'")
  return pointsDoc (ps.map fun p => f p.1 p.2)

/-- The transformation between the systems named by `src` and `dst`. -/
def transformerArg (req : Document) : Step Transformer := do
  return ⟨← crsArg req "src", ← crsArg req "dst"⟩

/-- `transform_point`. -/
def transformPointOp (req : Document) : Step Document := do
  let t ← transformerArg req
  let ps ← points (← arg req "points")
  return .ofPairs [("src", .str t.src.name), ("dst", .str t.dst.name),
    ("points", pointsDoc (ps.map fun p => t.apply p.1 p.2))]

/-- `transform`: points one by one and as a list, and a box. -/
def transformOp (req : Document) : Step Document := do
  let t ← transformerArg req
  let mut fields : List (String × Document) := [("identity", .bool t.isIdentity)]
  if let some ps := arg? req "points" then
    let ps ← points ps
    fields := fields ++ [("each", pointsDoc (ps.map fun p => t.apply p.1 p.2)),
      ("kept", pointsDoc (t.applyAll ps))]
  if let some b := arg? req "bbox" then
    let b ← bbox b
    let n := (← natArg? req "segments").getD 16
    if n > 4096 then throw (badInput "too many segments")
    fields := fields ++ [("bbox", optDoc (t.applyBox b n) bboxDoc)]
  return .ofPairs fields

/-- A geometry from `points`, `bbox` or `geojson`, with its `crs`. -/
def geometryArg (d : Document) : Step Geometry := do
  let c ← crsArg d "crs"
  if let some ps := arg? d "points" then
    geo (Geometry.ofPoints (← points ps) c)
  else if let some b := arg? d "bbox" then
    return Geometry.ofBox (← bbox b) c
  else if let some g := arg? d "geojson" then
    geo (Geometry.ofGeoJson g c)
  else throw (badInput "geometry needs points, bbox or geojson")

def geometryDoc (g : Geometry) : Document :=
  .ofPairs [("crs", .str g.crs.name), ("points", pointsDoc g.ring)]

/-- `geometry`: a polygon, its box, and optionally its reprojection, whether it
meets another polygon, and its center in degrees. -/
def geometryOp (req : Document) : Step Document := do
  let g ← geometryArg (← arg req "geom")
  let mut fields : List (String × Document) :=
    [("geom", geometryDoc g), ("bbox", optDoc g.bounds bboxDoc)]
  if let some c := arg? req "to" then
    let c ← crs c
    fields := fields ++ [("to_crs", inline (g.toCrs c) geometryDoc geoErrorDoc)]
  if let some o := arg? req "other" then
    let o ← geometryArg o
    fields := fields ++ [("intersects", inline (g.intersects o) .bool geoErrorDoc)]
  if (← boolArgOr req "center" false) then
    fields := fields ++ [("center_lonlat", inline g.centerLonLat pointDoc geoErrorDoc)]
  return .ofPairs fields

end Api
end Geocube
