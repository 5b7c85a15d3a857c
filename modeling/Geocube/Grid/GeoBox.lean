import Geocube.Grid.Affine
import Geocube.Grid.Window
import Geocube.Geometry.Basic

/-!
Georeferenced pixel grids.

A grid has a shape `(height, width)`, a coordinate reference system and an
affine transform taking pixel corners `(col, row)` to map coordinates. Pixel
`(row, col)` covers the square from corner `(col, row)` to
`(col + 1, row + 1)`, and its centre is at `(col + 0.5, row + 0.5)`.

A grid around a box is north-up: its edges snap outwards onto the lattice of
multiples of the resolution shifted by an alignment, where a value within
`1e-6` of a lattice line counts as on it, and a box too thin for one pixel still
gets one. A negative resolution puts the origin on the high edge of its axis.
-/

namespace Geocube

/-- A pixel grid placed in a coordinate reference system. -/
structure GeoBox where
  crs : Crs
  affine : Affine
  /-- `(height, width)`. -/
  shape : Nat × Nat
  deriving Inhabited

/-- A count of pixels as a double, rounded to nearest. -/
def pixelsF (n : Nat) : Float := Binary64.ofInt (n : Int)

section Lattice

variable {α : Type} [Add α] [Sub α] [Mul α] [Div α] [LT α] [LE α]
  [DecidableRel (α := α) (· < ·)] [DecidableRel (α := α) (· ≤ ·)] [OfScientific α] [Scalar α]

/-- Snap `[lo, hi]` outwards onto the lattice `offset + k * res`; a span that
collapses gets one step. -/
def snapSpan (lo hi res offset : α) : α × α :=
  let start := offset + Affine.snapFloor ((lo - offset) / res) * res
  let stop := offset + Affine.snapCeil ((hi - offset) / res) * res
  (start, if stop ≤ start then start + res else stop)

/-- The number of whole steps of `res` from `lo` to `hi`, rounded, and none
when that is negative or not a number. -/
def stepsBetween (lo hi res : α) : Nat :=
  Scalar.toNatClamped (Scalar.fmax (Scalar.roundHalfAway ((hi - lo) / res)) 0.0)

/-- Where a north-up grid around a box goes: the map coordinates of the corner of
pixel `(0, 0)`, and the number of rows and columns. -/
structure BoxGrid (α : Type) where
  originX : α
  originY : α
  height : Nat
  width : Nat

variable [BEq α]

/-- The north-up grid covering the box `[minX, maxX] × [minY, maxY]` at a
resolution `(x, y)`, its edges snapped outwards onto the lattice shifted by
`align` (`(0, 0)` when absent). A zero or non-finite resolution is refused. -/
def boxGrid (minX minY maxX maxY : α) (res : α × α) (align : Option (α × α)) :
    Except GeoError (BoxGrid α) :=
  let (rx, ry) := res
  if rx == 0.0 || ry == 0.0 || !Scalar.isFinite rx || !Scalar.isFinite ry then
    .error (.invalidBbox s!"invalid resolution ({Scalar.text rx}, {Scalar.text ry})")
  else
    let (ax, ay) := align.getD (0.0, 0.0)
    let (x0, x1) := snapSpan minX maxX (Scalar.abs rx) ax
    let (y0, y1) := snapSpan minY maxY (Scalar.abs ry) ay
    .ok { originX := if rx > 0.0 then x0 else x1
          originY := if ry > 0.0 then y0 else y1
          height := stepsBetween y0 y1 (Scalar.abs ry)
          width := stepsBetween x0 x1 (Scalar.abs rx) }

end Lattice

namespace GeoBox

def height (g : GeoBox) : Nat := g.shape.1

def width (g : GeoBox) : Nat := g.shape.2

def isEmpty (g : GeoBox) : Bool := g.height == 0 || g.width == 0

/-- The grid a dataset declares: its shape and six coefficients. -/
def ofGrid (shape : Nat × Nat) (coeffs : Affine) (crs : Crs) : GeoBox := ⟨crs, coeffs, shape⟩

/-- A grid with no pixels. -/
def empty (crs : Crs) : GeoBox := ⟨crs, Affine.identity, (0, 0)⟩

/-- The north-up grid covering a box at a resolution `(x, y)`, its edges snapped
outwards onto the lattice shifted by `align` (`(0, 0)` when absent). A zero or
non-finite resolution is refused. -/
def ofBox (b : BoundingBox) (crs : Crs) (res : Float × Float) (align : Option (Float × Float)) :
    Except GeoError GeoBox :=
  (boxGrid b.minX b.minY b.maxX b.maxY res align).map fun g =>
    ⟨crs, Affine.new res.1 0.0 g.originX 0.0 res.2 g.originY, (g.height, g.width)⟩

/-- The grid covering a geometry once brought into `crs`. -/
def ofGeometry (g : Geometry) (crs : Crs) (res : Float × Float) (align : Option (Float × Float)) :
    Except GeoError GeoBox := do
  let moved ← g.toCrs crs
  match moved.bounds with
  | some b => ofBox b crs res align
  | none => throw (.invalidGeometry "empty geometry")

def resolution (g : GeoBox) : Float × Float := g.affine.resolution

/-- Map coordinates of the four outer corners, clockwise from pixel corner `(0, 0)`. -/
def corners (g : GeoBox) : List (Float × Float) :=
  let h := pixelsF g.height
  let w := pixelsF g.width
  [g.affine.apply 0.0 0.0, g.affine.apply w 0.0, g.affine.apply w h, g.affine.apply 0.0 h]

/-- The polygon of the outer corners. -/
def extent (g : GeoBox) : Except GeoError Geometry := Geometry.ofPoints g.corners g.crs

/-- The box around the corners, or the zero box when no corner is finite. -/
def boundingBox (g : GeoBox) : BoundingBox :=
  (BoundingBox.ofPoints g.corners).getD ⟨0.0, 0.0, 0.0, 0.0⟩

/-- The map coordinate of a pixel centre. -/
def pixelCenter (g : GeoBox) (row col : Nat) : Float × Float :=
  g.affine.apply (pixelsF col + 0.5) (pixelsF row + 0.5)

/-- X coordinates of the centres of the first row's pixels. -/
def coordsX (g : GeoBox) : List Float :=
  (List.range g.width).map fun c => (g.pixelCenter 0 c).1

/-- Y coordinates of the centres of the first column's pixels. -/
def coordsY (g : GeoBox) : List Float :=
  (List.range g.height).map fun r => (g.pixelCenter r 0).2

/-- The sub-grid a window covers: the transform shifted by the window's offset. -/
def window (g : GeoBox) (w : Window) : GeoBox :=
  ⟨g.crs, g.affine * Affine.translation (pixelsF w.colOff) (pixelsF w.rowOff), (w.height, w.width)⟩

/-- The window covering the whole grid. -/
def fullWindow (g : GeoBox) : Window := ⟨0, 0, g.height, g.width⟩

/-- The windows of at most `(rows, cols)` pixels (a zero counts as one) that tile
the grid, row by row. -/
def chunks (g : GeoBox) (chunk : Nat × Nat) : List Window :=
  Window.tiles g.height g.width chunk.1 chunk.2

/-- How many windows `chunks` makes. -/
def chunkCount (g : GeoBox) (chunk : Nat × Nat) : Nat :=
  Window.pieceCount g.height chunk.1 * Window.pieceCount g.width chunk.2

theorem fullWindow_shape (g : GeoBox) : g.fullWindow.shape = g.shape := rfl

theorem window_shape (g : GeoBox) (w : Window) : (g.window w).shape = w.shape := rfl

end GeoBox

/-- The recipe of an output grid: a system, a resolution `(x, y)` and an
optional alignment; the extent comes with each query. -/
structure GridSpec where
  crs : Crs
  resolution : Float × Float
  align : Option (Float × Float)
  deriving Inhabited

namespace GridSpec

def withAlign (s : GridSpec) (x y : Float) : GridSpec := { s with align := some (x, y) }

/-- The grid of the spec covering a geometry. -/
def geoboxFor (s : GridSpec) (g : Geometry) : Except GeoError GeoBox :=
  GeoBox.ofGeometry g s.crs s.resolution s.align

/-- The grid of the spec covering a box. -/
def geoboxForBox (s : GridSpec) (b : BoundingBox) : Except GeoError GeoBox :=
  GeoBox.ofBox b s.crs s.resolution s.align

end GridSpec
end Geocube
