import Geocube.Projection.Basic

/-!
Moving points between coordinate reference systems.

A point goes from the source system to geographic degrees by the source's
inverse projection, then to the target by the target's forward projection. A
transformation from a system to itself changes nothing. A point whose
geographic position is not finite has no image, and the point lists drop such
points.
-/

namespace Geocube

/-- A transformation from one system to another. -/
structure Transformer where
  src : Crs
  dst : Crs
  deriving Inhabited

namespace Transformer

def isIdentity (t : Transformer) : Bool := t.src == t.dst

/-- One point; NaN where it falls outside a projection's domain. -/
def apply (t : Transformer) (x y : Float) : Float × Float :=
  if t.isIdentity then (x, y)
  else
    let (lon, lat) := t.src.projection.inverse x y
    if !lon.isFinite || !lat.isFinite then noPoint
    else t.dst.projection.forward lon lat

/-- The images of the points that have a finite image, in order. -/
def applyAll (t : Transformer) (ps : List (Float × Float)) : List (Float × Float) :=
  (ps.map fun p => t.apply p.1 p.2).filter fun p => p.1.isFinite && p.2.isFinite

/-- The box around the images of a box's boundary, `segments` points per edge. -/
def applyBox (t : Transformer) (b : BoundingBox) (segments : Nat) : Option BoundingBox :=
  if t.isIdentity then some b
  else BoundingBox.ofPoints (t.applyAll (b.densified segments))

end Transformer

end Geocube
