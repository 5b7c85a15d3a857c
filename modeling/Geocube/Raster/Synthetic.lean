import Geocube.Raster.Basic

/-!
Synthetic rasters with values that are easy to check, and the comparisons
used on them.

In the test grid the pixel at `(row, col)` holds `col * 1000 + row`, so a
value names its own position. A gradient runs from `lo` in the first column
to `hi` in the last; a class grid cycles through class values in row-major
order.
-/

namespace Geocube
namespace Synthetic

/-- The grid whose pixel `(row, col)` is `col * 1000 + row`. -/
def testGrid (width height : Nat) : Raster :=
  Plane.ofFn height width fun row col => Float.ofNat (col * 1000 + row)

/-- A grid of one value. -/
def constant (width height : Nat) (v : Float) : Raster := Raster.filled height width v

/-- Columns stepping evenly from `lo` to `hi`; a single column holds `lo`. -/
def gradient (width height : Nat) (lo hi : Float) : Raster :=
  let step := if width > 1 then (hi - lo) / Float.ofNat (width - 1) else 0
  Plane.ofFn height width fun _ col => lo + step * Float.ofNat col

/-- The class values repeated in row-major order; all zeros without classes. -/
def classes (width height : Nat) (cs : List Nat) : Raster :=
  Plane.ofFn height width fun row col =>
    if cs.isEmpty then 0 else Float.ofNat (cs.getD ((row * width + col) % cs.length) 0)

/-- The grid with the block of rows `[r0, r1)` and columns `[c0, c1)` set to
`nodata`; a range whose end is before its start is empty. None when a range
reaches past the grid. -/
def withNodataBlock (g : Raster) (r0 r1 c0 c1 : Nat) (nodata : Float) : Option Raster :=
  if r0 ≤ g.height && r1 ≤ g.height && c0 ≤ g.width && c1 ≤ g.width then
    some (Plane.ofFn g.height g.width fun r c =>
      if r0 ≤ r && r < r1 && c0 ≤ c && c < c1 then nodata else g.get r c)
  else none

/-- Whether two values differ by at most `eps`. A NaN difference does not
count as differing. -/
def approxEq (a b eps : Float) : Bool := !((a - b).abs > eps)

/-- Whether every pixel equals `v`, NaN matching NaN. -/
def allEq (g : Raster) (v : Float) : Bool :=
  g.cells.all fun x => if v.isNaN then x.isNaN else x == v

end Synthetic
end Geocube
