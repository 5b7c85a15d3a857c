import Geocube.Load.Source
import Geocube.Load.Options
import Geocube.Load.Grouping
import Geocube.Raster.Fuse

/-!
Loading groups of datasets into a cube.

For every group and every band a destination plane starts filled with the
band's fill value (its nodata, or NaN). Each dataset of the group is opened,
the part of it overlapping the destination grid is read and resampled, its
missing pixels become the fill value and the others are coerced to the band's
pixel type, and the block is fused into the plane, datasets in group order.

A dataset whose band cannot be read (a read error, no store for its location,
or a reprojection failure) is recorded and left out under the skip policy, and
fails the whole load under the abort policy.
-/

namespace Geocube

/-- A dataset contribution left out of a cube. -/
structure SkippedRead where
  /-- The position of the group among the cube's keys. -/
  group : Nat
  dataset : Uuid
  band : String
  reason : String
  deriving Inhabited

/-- A loaded cube: planes indexed by group, then band. -/
structure DataCube where
  /-- The name of the group dimension. -/
  dimension : String
  keys : List GroupKey
  bands : List String
  geobox : GeoBox
  /-- One list of band planes per group. -/
  data : List (List Raster)
  /-- The fill value of each band, parallel to `bands`. -/
  nodata : List Float
  skipped : List SkippedRead
  deriving Inhabited

namespace DataCube

/-- `(groups, bands, height, width)`. -/
def shape (c : DataCube) : Nat × Nat × Nat × Nat :=
  (c.keys.length, c.bands.length, c.geobox.height, c.geobox.width)

/-- No group was loaded. -/
def isEmpty (c : DataCube) : Bool := c.keys.isEmpty

def bandIndex (c : DataCube) (band : String) : Option Nat := c.bands.idxOf? band

/-- One band of one group. -/
def plane (c : DataCube) (group : Nat) (band : String) : Option Raster := do
  let b ← c.bandIndex band
  guard (group < c.keys.length)
  (c.data[group]?).bind (·[b]?)

/-- The fill value of a band. -/
def nodataOf (c : DataCube) (band : String) : Option Float := do
  c.nodata[← c.bandIndex band]?

/-- `(groups, height, width)` of one band across all groups. -/
def bandShape (c : DataCube) (band : String) : Option (Nat × Nat × Nat) :=
  (c.bandIndex band).map fun _ => (c.keys.length, c.geobox.height, c.geobox.width)

end DataCube

/-- Fuse a block into the window of a plane it covers. -/
def fuseWindow (f : Fuser) (nodata : Float) (dst : Raster) (w : Window) (block : Raster) : Raster :=
  Plane.ofFn dst.height dst.width fun r c =>
    if w.rowOff ≤ r && r < w.rowEnd && w.colOff ≤ c && c < w.colEnd then
      f.pick nodata (dst.get r c) (block.get (r - w.rowOff) (c - w.colOff))
    else dst.get r c

/-- Copy a block into the window of a plane it covers. -/
def assignWindow (dst : Raster) (w : Window) (block : Raster) : Raster :=
  Plane.ofFn dst.height dst.width fun r c =>
    if w.rowOff ≤ r && r < w.rowEnd && w.colOff ≤ c && c < w.colEnd then
      block.get (r - w.rowOff) (c - w.colOff)
    else dst.get r c

/-- The inspection form of a shape. -/
def shapeText (s : Nat × Nat) : String := s!"({s.1}, {s.2})"

/-- Where a dataset's band lands on a grid, and its pixels there: missing
pixels set to the fill value, others coerced to the band's pixel type. `none`
when the dataset does not overlap the grid. -/
def readContribution (d : Dataset) (m : Measurement) (g : GeoBox) (rs : Resampling)
    (registry : Registry) : LoadResult (Option (Window × Raster)) := do
  let band ← BandSource.ofDataset d m.name
  let src ← registry.openSource band
  let some rw := computeReadWindow src.geometry g | return none
  if rw.dst.isEmpty then return none
  let block ← src.reproject g rw rs
  if block.shape != rw.dst.shape then
    throw (band.ioError s!"driver returned a {shapeText block.shape} block for a {shapeText rw.dst.shape} window")
  let fill := m.fillValue
  return some (rw.dst, block.map fun v => if v.isNaN then fill else m.dtype.coerce v)

/-- What every plane of one load shares. -/
structure PlaneContext where
  fuser : Fuser
  options : LoadOptions
  registry : Registry
  deriving Inhabited

/-- Fuse the datasets of one group into a plane covering `g`, with the reads
left out under the skip policy. -/
def fusePlane (ctx : PlaneContext) (plane : Raster) (g : GeoBox) (group : Nat)
    (datasets : List Dataset) (m : Measurement) : LoadResult (Raster × List SkippedRead) := do
  let rs := ctx.options.resamplingFor m.name
  let fill := m.fillValue
  let mut out := plane
  let mut skipped : List SkippedRead := []
  for d in datasets do
    match readContribution d m g rs ctx.registry with
    | .ok (some (w, block)) => out := fuseWindow ctx.fuser fill out w block
    | .ok none => pure ()
    | .error e =>
      if e.isReadFailure && ctx.options.ioErrorPolicy == .skip then
        skipped := skipped ++ [⟨group, d.id, m.name, e.message⟩]
      else throw e
  return (out, skipped)

/-- Load groups onto a grid: one plane per group and band. -/
def loadData (groups : List Group) (g : GeoBox) (ms : List Measurement) (f : Fuser)
    (o : LoadOptions) (registry : Registry) : LoadResult DataCube := do
  let ctx : PlaneContext := ⟨f, o, registry⟩
  let mut data : List (List Raster) := []
  let mut skipped : List SkippedRead := []
  for (gr, i) in groups.zipIdx do
    let mut planes : List Raster := []
    for m in ms do
      let (p, s) ← fusePlane ctx (Raster.filled g.height g.width m.fillValue) g i gr.datasets m
      planes := planes ++ [p]
      skipped := skipped ++ s
    data := data ++ [planes]
  return ⟨"time", groups.map (·.key), ms.map (·.name), g, data, ms.map (·.fillValue), skipped⟩

end Geocube
