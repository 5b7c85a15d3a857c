import Geocube.Geometry.Ring
import Geocube.Projection.Transformer
import Geocube.Document.Writer
import Geocube.Text.Quoted

/-!
Polygons in a coordinate reference system.

A geometry is the exterior ring of a polygon together with the system its
coordinates are in. The ring is closed when built: the first point is repeated
at the end unless the last already equals it. Reprojection splits every edge
into sixteen pieces first, so that edges that become curves keep their shape,
and fails when any of those points has no image in the target system.
-/

namespace Geocube

/-- A polygon without holes in a coordinate reference system. -/
structure Geometry where
  crs : Crs
  /-- The exterior ring, closed. -/
  ring : List Point
  deriving Inhabited

namespace Geometry

/-- Pieces each edge is split into before reprojection. -/
def densifySegments : Nat := 16

/-- A ring closed by repeating its first point, unless its last point already
equals it. -/
def close (ps : List Point) : List Point :=
  match ps.head?, ps.getLast? with
  | some a, some z => if samePoint a z then ps else ps ++ [a]
  | _, _ => ps

/-- A polygon from at least three finite points. -/
def ofPoints (ps : List Point) (crs : Crs) : Except GeoError Geometry :=
  if ps.length < 3 then
    .error (.invalidGeometry s!"polygon needs at least 3 points, got {ps.length}")
  else if ps.any (fun p => !p.1.isFinite || !p.2.isFinite) then
    .error (.invalidGeometry "polygon has non-finite coordinates")
  else .ok ⟨crs, close ps⟩

/-- The rectangle of a box, its corners counter-clockwise from the lower left. -/
def ofBox (b : BoundingBox) (crs : Crs) : Geometry := ⟨crs, close b.corners⟩

/-- A number of a coordinate pair, read as a double. -/
def coordinate? (pair : Document) (i : Nat) : Option Float :=
  match pair with
  | .arr xs => xs[i]?.bind Document.asF64?
  | _ => none

/-- A GeoJSON polygon; only its exterior ring is used. -/
def ofGeoJson (v : Document) (crs : Crs) : Except GeoError Geometry := do
  let kind := (v.get? "type").bind Document.asStr?
  if kind != some "Polygon" then
    let shown := match kind with
      | some k => "Some(" ++ Text.quoted k ++ ")"
      | none => "None"
    throw (.invalidGeometry ("expected a GeoJSON Polygon, got " ++ shown))
  let ring? := match v.get? "coordinates" with
    | some (.arr (.arr ring :: _)) => some ring
    | _ => none
  let some ring := ring? | throw (.invalidGeometry "Polygon has no exterior ring")
  let ps ← ring.mapM fun pair =>
    match coordinate? pair 0, coordinate? pair 1 with
    | some x, some y => .ok (x, y)
    | _, _ => .error (.invalidGeometry ("bad coordinate " ++ pair.compact))
  ofPoints ps crs

/-- The box around the ring. -/
def bounds (g : Geometry) : Option BoundingBox :=
  (Rect.around g.ring).map fun r => ⟨r.lo.1, r.lo.2, r.hi.1, r.hi.2⟩

/-- The ring with every edge split into `n` pieces, without the closing point. -/
def densified (g : Geometry) (n : Nat) : List Point :=
  (edges g.ring).flatMap fun (a, b) =>
    (List.range n).map fun (s : Nat) =>
      let t := Float.ofNat s / Float.ofNat n
      (a.1 + (b.1 - a.1) * t, a.2 + (b.2 - a.2) * t)

/-- The geometry in another system. -/
def toCrs (g : Geometry) (crs : Crs) : Except GeoError Geometry :=
  if g.crs == crs then .ok g
  else
    let source := g.densified densifySegments
    let ps := (Transformer.mk g.crs crs).applyAll source
    if ps.length < source.length then
      .error (.projection s!"geometry extends outside the domain of {crs.name}")
    else ofPoints ps crs

/-- Whether two geometries share a point, after bringing the second into the
first one's system. -/
def intersects (g h : Geometry) : Except GeoError Bool := do
  let h ← h.toCrs g.crs
  return ringsMeet g.ring h.ring

/-- The center of the box around the geometry in geographic degrees. -/
def centerLonLat (g : Geometry) : Except GeoError Point := do
  let ll ← g.toCrs .wgs84
  match ll.bounds with
  | some b => return b.center
  | none => throw (.invalidGeometry "empty geometry")

end Geometry

end Geocube
