import Geocube.Api.Grid
import Geocube.Raster.Resampling

/-!
Answers about reading rasters between pixel centres.
-/

namespace Geocube
namespace Api

/-- Requests may ask for grids of at most this many pixels. -/
def cellLimit : Nat := 250000

/-- A 2-D array given as a list of rows of equal length. -/
def rasterOf (d : Document) : Step Raster := do
  let rows ← (← list d).mapM floats
  match Plane.ofRows? rows with
  | some r => return r
  | none => throw (badInput "rows of a 2-D array differ in length")

def rasterDoc (r : Raster) : Document := .arr (r.toRows.map fun row => .arr (row.map fl))

/-- A grid of at most `cellLimit` pixels. -/
def boundedGeobox (d : Document) : Step GeoBox := do
  let g ← geoboxOf d
  if g.height * g.width > cellLimit then throw (badInput "grid too large")
  return g

/-- `sample`: the raster read at index positions by a method. -/
def sampleOp (req : Document) : Step Document := do
  let r ← rasterOf (← arg req "data")
  let m := Resampling.ofName (← strArg req "method")
  let ps ← points (← arg req "points")
  -- a nearest read that names no pixel indexes outside the array
  match ps.mapM fun p => m.sample r p.1 p.2 with
  | some vs => return .arr (vs.map fl)
  | none => return panicDoc

/-- `area_average`: the mean of the pixels in each box. -/
def areaAverageOp (req : Document) : Step Document := do
  let r ← rasterOf (← arg req "data")
  let boxes ← (← listArg req "boxes").mapM bbox
  return .arr (boxes.map fun b => optDoc (areaAverage r b.minX b.minY b.maxX b.maxY) fl)

/-- `decimate`: the raster reduced by whole blocks. -/
def decimateOp (req : Document) : Step Document := do
  let r ← rasterOf (← arg req "data")
  let kx ← natArg req "kx"
  let ky ← natArg req "ky"
  let m := Resampling.ofName (← strArg req "method")
  return rasterDoc (decimate r kx ky m)

/-- `warp`: the raster carried from one grid onto another. -/
def warpOp (req : Document) : Step Document := do
  let r ← rasterOf (← arg req "data")
  let src ← boundedGeobox (← arg req "src_grid")
  let dst ← boundedGeobox (← arg req "dst_grid")
  let m := Resampling.ofName (← strArg req "method")
  return inline (warp r src dst m) rasterDoc geoErrorDoc

end Api
end Geocube
