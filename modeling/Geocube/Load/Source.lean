import Geocube.Load.Error
import Geocube.Catalog.Dataset
import Geocube.Catalog.Measurement
import Geocube.Grid.ReadWindow
import Geocube.Raster.Resampling

/-!
Where band data is read from.

A band source names one band of one dataset and the location it is stored at.
Locations are opened by in-memory stores: a store holds rasters under their
locations, and may mark locations as failing, so that opening them fails with a
given message. A registry picks the store for a location by its scheme and the
dataset's format, both compared in lowercase: first the store registered for
both, then the one for the scheme alone, then the fallback.

An opened source reads windows of its raster, and produces the pixels of a
destination window: nodata becomes NaN, then the block is copied, decimated
(for nearest and average reads) or warped, as the read window says.
-/

namespace Geocube

/-- One band of one dataset and where it is stored. -/
structure BandSource where
  dataset : Uuid
  band : String
  uri : String
  format : Option String
  /-- The 1-based band of a multi-band file. -/
  bandIndex : Option Nat
  /-- The variable of a multi-variable container. -/
  layer : Option String
  /-- The grid the dataset declares for the band. -/
  grid : Option GeoBox
  deriving Inhabited

namespace BandSource

/-- The scheme of the location: the text before the first `://`, or `file`. -/
def scheme (s : BandSource) : String :=
  match s.uri.splitOn "://" with
  | before :: _ :: _ => before
  | _ => "file"

/-- The failure of reading this band. -/
def ioError (s : BandSource) (message : String) : LoadError := .io s.dataset s.band message

/-- Where a band of a dataset is stored, with the grid the document declares
for it when the dataset names its system. -/
def ofDataset (d : Dataset) (band : String) : LoadResult BandSource := do
  let some info := d.measurementInfo band
    | throw (.io d.id band "dataset document has no location for band")
  let grid := match d.grids.lookup info.grid, d.crs with
    | some g, some c => some (GeoBox.ofGrid g.shape g.transform c)
    | _, _ => none
  return ⟨d.id, band, info.uri, d.format, info.band, info.layer, grid⟩

end BandSource

/-- A raster held in memory with its grid, pixel type and nodata value. -/
structure MemoryRaster where
  geometry : GeoBox
  data : Raster
  dtype : DType
  nodata : Option Float
  deriving Inhabited

/-- An entry of an association list replaced, or added at the end. -/
def putEntry {κ α : Type} [BEq κ] (k : κ) (v : α) : List (κ × α) → List (κ × α)
  | [] => [(k, v)]
  | (k', v') :: rest => if k' == k then (k, v) :: rest else (k', v') :: putEntry k v rest

/-- Rasters served from memory under their locations. -/
structure MemoryStore where
  name : String
  rasters : List (String × MemoryRaster)
  /-- Locations whose opening fails, with the message. -/
  failing : List (String × String)
  deriving Inhabited

/-- A window as diagnostics show it. -/
def Window.text (w : Window) : String :=
  s!"Window \x7b row_off: {w.rowOff}, col_off: {w.colOff}, height: {w.height}, width: {w.width} \x7d"

/-- A band opened from a store. -/
structure OpenedSource where
  raster : MemoryRaster
  source : BandSource

namespace MemoryStore

def named (name : String) : MemoryStore := ⟨name, [], []⟩

/-- The default store, named `memory`. -/
def empty : MemoryStore := named "memory"

def insert (m : MemoryStore) (uri : String) (r : MemoryRaster) : MemoryStore :=
  { m with rasters := putEntry uri r m.rasters }

/-- Make every opening of `uri` fail with `message`. -/
def fail (m : MemoryStore) (uri message : String) : MemoryStore :=
  { m with failing := putEntry uri message m.failing }

/-- Forget a location; whether a raster was stored there. -/
def remove (m : MemoryStore) (uri : String) : MemoryStore × Bool :=
  ({ m with rasters := m.rasters.filter (·.1 != uri), failing := m.failing.filter (·.1 != uri) },
    (m.rasters.lookup uri).isSome)

def size (m : MemoryStore) : Nat := m.rasters.length

def isEmpty (m : MemoryStore) : Bool := m.rasters.isEmpty

/-- Open a band: a failing location fails with its message, an unknown one as
missing. -/
def openSource (m : MemoryStore) (s : BandSource) : LoadResult OpenedSource :=
  match m.failing.lookup s.uri with
  | some message => .error (s.ioError message)
  | none => match m.rasters.lookup s.uri with
    | some r => .ok ⟨r, s⟩
    | none => .error (s.ioError ("no such raster: " ++ s.uri))

end MemoryStore

namespace OpenedSource

def geometry (o : OpenedSource) : GeoBox := o.raster.geometry

def dtype (o : OpenedSource) : DType := o.raster.dtype

def nodata (o : OpenedSource) : Option Float := o.raster.nodata

/-- A block of stored pixels; a window reaching past the stored array fails. -/
def read (o : OpenedSource) (w : Window) : LoadResult Raster :=
  let data := o.raster.data
  if w.rowEnd > data.height || w.colEnd > data.width then
    .error (o.source.ioError s!"window {w.text} outside raster of {data.height}x{data.width}")
  else .ok (Plane.ofFn w.height w.width fun r c => data.get (w.rowOff + r) (w.colOff + c))

/-- The pixels of the destination window of a read, NaN where no source pixel
lands; stored nodata (unless NaN) reads as NaN. -/
def reproject (o : OpenedSource) (dst : GeoBox) (rw : ReadWindow) (m : Resampling) :
    LoadResult Raster := do
  let block ← o.read rw.src
  let block := match o.nodata with
    | some nd => if nd.isNaN then block else block.map fun v => if v == nd then Binary64.nan else v
    | none => block
  match rw.strategy, m with
  | .copy, _ => return block
  | .decimate x y, .nearest | .decimate x y, .average => return decimate block x y m
  | _, _ =>
    match warp block (o.geometry.window rw.src) (dst.window rw.dst) m with
    | .ok r => return r
    | .error e => throw (.geo e)

end OpenedSource

/-- The stores that serve locations, by lowercase scheme and optional format. -/
structure Registry where
  drivers : List ((String × Option String) × MemoryStore)
  fallback : Option MemoryStore
  deriving Inhabited

namespace Registry

def empty : Registry := ⟨[], none⟩

/-- Serve a scheme, optionally for one format only, from a store; a later
store for the same key replaces the earlier one. -/
def register (r : Registry) (scheme : String) (format : Option String) (m : MemoryStore) : Registry :=
  { r with drivers := putEntry (Text.lower scheme, format.map Text.lower) m r.drivers }

def withFallback (r : Registry) (m : MemoryStore) : Registry := { r with fallback := some m }

/-- The most specific store for a band: its scheme and format, then its scheme
alone, then the fallback. -/
def resolve (r : Registry) (s : BandSource) : LoadResult MemoryStore :=
  let scheme := Text.lower s.scheme
  let exact := s.format.bind fun f => r.drivers.lookup (scheme, some (Text.lower f))
  match exact <|> r.drivers.lookup (scheme, none) <|> r.fallback with
  | some m => .ok m
  | none => .error (.driverNotFound s.uri s.format)

def openSource (r : Registry) (s : BandSource) : LoadResult OpenedSource := do
  (← r.resolve s).openSource s

/-- Order of registry keys: by scheme, then no format before any format. -/
def keyLe (a b : String × Option String) : Bool :=
  if a.1 != b.1 then decide (a.1 < b.1)
  else match a.2, b.2 with
    | none, _ => true
    | some _, none => false
    | some x, some y => decide (x ≤ y)

/-- The registry as diagnostics show it: its sorted keys and its fallback's name. -/
def text (r : Registry) : String :=
  let keys := (r.drivers.map (·.1)).mergeSort keyLe
  let keyText := fun (k : String × Option String) => "(" ++ Text.quoted k.1 ++ ", " ++ LoadError.shownOption k.2 ++ ")"
  "DriverRegistry \x7b drivers: [" ++ ", ".intercalate (keys.map keyText) ++ "], fallback: " ++
    LoadError.shownOption (r.fallback.map (·.name)) ++ " \x7d"

end Registry
end Geocube
