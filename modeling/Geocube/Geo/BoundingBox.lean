import Geocube.Geo.Error
import Geocube.Geo.Scalar
import Geocube.Decimal.Layout

/-!
Axis-aligned bounding boxes in the units of a coordinate reference system.

Boxes are closed: touching edges intersect and a point on the edge is inside.
`BoundingBox.checked` is the only constructor that validates; the others keep
whatever corners they are given.
-/

namespace Geocube

/-- An axis-aligned box `[minX, maxX] × [minY, maxY]`. -/
structure BoundingBox where
  minX : Float
  minY : Float
  maxX : Float
  maxY : Float
  deriving Inhabited

namespace BoundingBox

/-- A box whose corners are finite and not inverted. -/
def checked (minX minY maxX maxY : Float) : Except GeoError BoundingBox :=
  let finite := minX.isFinite && minY.isFinite && maxX.isFinite && maxY.isFinite
  if !finite || minX > maxX || minY > maxY then
    .error (.invalidBbox (s!"{Decimal.plainText minX},{Decimal.plainText minY}," ++
      s!"{Decimal.plainText maxX},{Decimal.plainText maxY}"))
  else .ok ⟨minX, minY, maxX, maxY⟩

/-- Grow a box to contain a point. -/
def extend (b : BoundingBox) (p : Float × Float) : BoundingBox :=
  ⟨fmin b.minX p.1, fmin b.minY p.2, fmax b.maxX p.1, fmax b.maxY p.2⟩

/-- The smallest box containing the finite points; `none` when there is none. -/
def ofPoints (ps : List (Float × Float)) : Option BoundingBox :=
  match ps.filter (fun p => p.1.isFinite && p.2.isFinite) with
  | [] => none
  | p :: rest => some (rest.foldl extend ⟨p.1, p.2, p.1, p.2⟩)

def width (b : BoundingBox) : Float := b.maxX - b.minX

def height (b : BoundingBox) : Float := b.maxY - b.minY

def center (b : BoundingBox) : Float × Float :=
  ((b.minX + b.maxX) / 2.0, (b.minY + b.maxY) / 2.0)

/-- Closed boxes meet, touching edges included. -/
def intersects (a b : BoundingBox) : Bool :=
  a.minX ≤ b.maxX && a.maxX ≥ b.minX && a.minY ≤ b.maxY && a.maxY ≥ b.minY

def intersection (a b : BoundingBox) : Option BoundingBox :=
  if a.intersects b then
    some ⟨fmax a.minX b.minX, fmax a.minY b.minY, fmin a.maxX b.maxX, fmin a.maxY b.maxY⟩
  else none

def union (a b : BoundingBox) : BoundingBox :=
  ⟨fmin a.minX b.minX, fmin a.minY b.minY, fmax a.maxX b.maxX, fmax a.maxY b.maxY⟩

def containsPoint (b : BoundingBox) (x y : Float) : Bool :=
  x ≥ b.minX && x ≤ b.maxX && y ≥ b.minY && y ≤ b.maxY

def buffered (b : BoundingBox) (d : Float) : BoundingBox :=
  ⟨b.minX - d, b.minY - d, b.maxX + d, b.maxY + d⟩

/-- Corners in ring order from the lower left, counter-clockwise. -/
def corners (b : BoundingBox) : List (Float × Float) :=
  [(b.minX, b.minY), (b.maxX, b.minY), (b.maxX, b.maxY), (b.minX, b.maxY)]

/-- `segments` points per edge (at least one), each edge from its first corner
on, so that a reprojected box keeps the shape of its curved edges. -/
def densified (b : BoundingBox) (segments : Nat) : List (Float × Float) :=
  let n := max segments 1
  let cs := b.corners
  let edges := List.zip cs (cs.drop 1 ++ cs.take 1)
  edges.flatMap fun ((x0, y0), (x1, y1)) =>
    (List.range n).map fun (s : Nat) =>
      let t := Binary64.ofInt (s : Int) / Binary64.ofInt (n : Int)
      (x0 + (x1 - x0) * t, y0 + (y1 - y0) * t)

/-- Exact equality of the four corners (as doubles compare). -/
def sameAs (a b : BoundingBox) : Bool :=
  a.minX == b.minX && a.minY == b.minY && a.maxX == b.maxX && a.maxY == b.maxY

theorem densified_length (b : BoundingBox) (segments : Nat) :
    (b.densified segments).length = 4 * max segments 1 := by
  simp [densified, corners, List.flatMap]
  omega

end BoundingBox
end Geocube
