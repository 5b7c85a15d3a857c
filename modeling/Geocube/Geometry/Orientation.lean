import Geocube.Binary64

/-!
The orientation of three points, decided exactly.

For finite coordinates the sign of
`(a.x - c.x)(b.y - c.y) - (a.y - c.y)(b.x - c.x)` is computed on the exact
values of the doubles, scaled to integers by a common power of two, so no
rounding can turn a turn into a straight line or the other way. Coordinates
that are not finite fall back to the same formula in doubles, where a NaN
result counts as collinear.
-/

namespace Geocube

/-- Which way the path `a → b → c` turns. -/
inductive Orientation where
  | clockwise
  | counterClockwise
  | collinear
  deriving DecidableEq, Repr, Inhabited

namespace Orientation

/-- The orientation with a given sign of the determinant. -/
def ofSign (neg pos : Bool) : Orientation :=
  if neg then .clockwise else if pos then .counterClockwise else .collinear

/-- The determinant's sign for finite coordinates given as integers. -/
def ofInts (ax ay bx by_ cx cy : Int) : Orientation :=
  let det := (ax - cx) * (by_ - cy) - (ay - cy) * (bx - cx)
  ofSign (det < 0) (det > 0)

end Orientation

/-- The orientation of `a → b → c`. -/
def orient (a b c : Float × Float) : Orientation :=
  let cs := [a.1, a.2, b.1, b.2, c.1, c.2]
  if cs.all Float.isFinite then
    let e := (cs.map Binary64.expOf).foldl min 0
    let v := fun x => (Binary64.scaledTo x e).getD 0
    Orientation.ofInts (v a.1) (v a.2) (v b.1) (v b.2) (v c.1) (v c.2)
  else
    let det := (a.1 - c.1) * (b.2 - c.2) - (a.2 - c.2) * (b.1 - c.1)
    Orientation.ofSign (det < 0.0) (det > 0.0)

end Geocube
