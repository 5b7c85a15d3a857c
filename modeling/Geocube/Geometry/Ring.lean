import Geocube.Geometry.Orientation

/-!
Closed rings of points and the exact tests between them.

A ring lists its vertices with the first repeated at the end; its edges join
consecutive vertices. A point lies inside, on the boundary of, or outside a
ring by the winding number, where an edge that runs up counts its lower end, one
that runs down counts its upper end, and a horizontal edge never counts; a
point on an edge is on the boundary. Two polygons without holes meet when an
edge of one touches the other, or a vertex of one lies in the other.

Every decision is an exact orientation or a comparison of doubles, so the
answers are those of exact geometry. The box tests in front only skip work that
could not succeed.
-/

namespace Geocube

/-- A point of the plane. -/
abbrev Point := Float × Float

/-- Points with equal coordinates as doubles compare. -/
def samePoint (p q : Point) : Bool := p.1 == q.1 && p.2 == q.2

/-- Whether `v` lies between two bounds, in either order, ends included. -/
def between (v b1 b2 : Float) : Bool :=
  if b1 < b2 then v ≥ b1 && v ≤ b2 else v ≥ b2 && v ≤ b1

/-- Whether `p` lies in the box with corners `a` and `b`. -/
def inBox (p a b : Point) : Bool := between p.1 a.1 b.1 && between p.2 a.2 b.2

/-- The segments joining consecutive points. -/
def edges : List Point → List (Point × Point)
  | a :: b :: rest => (a, b) :: edges (b :: rest)
  | _ => []

/-- An axis-aligned box by its lower and upper corner. -/
structure Rect where
  lo : Point
  hi : Point
  deriving Inhabited

namespace Rect

/-- Widen a range to hold a value; a value equal to an end, or not comparable,
leaves it as it is. -/
def widen (v : Float) (r : Float × Float) : Float × Float :=
  if v > r.2 then (r.1, v) else if v < r.1 then (v, r.2) else r

/-- The box of points; `none` for no points. -/
def around : List Point → Option Rect
  | [] => none
  | p :: rest =>
    let xs := rest.foldl (fun r q => widen q.1 r) (p.1, p.1)
    let ys := rest.foldl (fun r q => widen q.2 r) (p.2, p.2)
    some ⟨(xs.1, ys.1), (xs.2, ys.2)⟩

/-- The box of a segment. -/
def ofSegment (s : Point × Point) : Rect :=
  let (a, b) := s
  let (x0, x1) := if a.1 < b.1 then (a.1, b.1) else (b.1, a.1)
  let (y0, y1) := if a.2 < b.2 then (a.2, b.2) else (b.2, a.2)
  ⟨(x0, y0), (x1, y1)⟩

/-- Closed boxes meet, touching edges included. -/
def meets (r s : Rect) : Bool :=
  !(r.hi.1 < s.lo.1 || r.hi.2 < s.lo.2 || r.lo.1 > s.hi.1 || r.lo.2 > s.hi.2)

/-- Whether two optional boxes are both present and apart. -/
def apart (r s : Option Rect) : Bool :=
  match r, s with
  | some r, some s => !r.meets s
  | _, _ => false

end Rect

/-- Where a point lies relative to a ring. -/
inductive Position where
  | inside
  | onBoundary
  | outside
  deriving DecidableEq, Repr, Inhabited

/-- The winding number of the ring's edges around `p`, or the boundary as soon
as an edge passes through `p`. -/
def windAround (p : Point) : List (Point × Point) → Int → Position
  | [], w => if w == 0 then .outside else .inside
  | (s, e) :: rest, w =>
    if s.2 ≤ p.2 then
      if e.2 ≥ p.2 then
        let o := orient s e p
        if o == .counterClockwise && e.2 != p.2 then windAround p rest (w + 1)
        else if o == .collinear && between p.1 s.1 e.1 then .onBoundary
        else windAround p rest w
      else windAround p rest w
    else if e.2 ≤ p.2 then
      let o := orient s e p
      if o == .clockwise then windAround p rest (w - 1)
      else if o == .collinear && between p.1 s.1 e.1 then .onBoundary
      else windAround p rest w
    else windAround p rest w

/-- The position of a point relative to a closed ring. -/
def ringPosition (p : Point) : List Point → Position
  | [] => .outside
  | [q] => if samePoint p q then .onBoundary else .outside
  | ring => windAround p (edges ring) 0

/-- Whether a point touches a polygon: inside it or on its boundary. -/
def touchesPoint (ring : List Point) (p : Point) : Bool := ringPosition p ring != .outside

/-- Whether a point lies on a segment. -/
def onSegment (s : Point × Point) (p : Point) : Bool :=
  orient s.1 s.2 p == .collinear && inBox p s.1 s.2

/-- Whether two segments share a point. -/
def segmentsMeet (l m : Point × Point) : Bool :=
  if samePoint l.1 l.2 then onSegment m l.1
  else
    let o1 := orient l.1 l.2 m.1
    let o2 := orient l.1 l.2 m.2
    if o1 != o2 then orient m.1 m.2 l.1 != orient m.1 m.2 l.2
    else if o1 == .collinear then
      inBox m.1 l.1 l.2 || inBox m.2 l.1 l.2 || inBox l.1 m.1 m.2 || inBox l.2 m.1 m.2
    else false

/-- Whether a segment touches a polygon: it crosses or touches an edge, or an
end of it lies in the polygon. -/
def segmentTouches (ring : List Point) (l : Point × Point) : Bool :=
  let crosses :=
    if Rect.apart (Rect.around ring) (some (Rect.ofSegment l)) then false
    else (edges ring).any fun e => segmentsMeet e l
  crosses || touchesPoint ring l.1 || touchesPoint ring l.2

/-- Whether a path touches a polygon along any of its segments. -/
def pathTouches (ring path : List Point) : Bool :=
  if Rect.apart (Rect.around path) (Rect.around ring) then false
  else (edges path).any (segmentTouches ring)

/-- Whether two polygons without holes share a point. -/
def ringsMeet (a b : List Point) : Bool :=
  if Rect.apart (Rect.around a) (Rect.around b) then false
  else pathTouches a b || pathTouches b a

end Geocube
