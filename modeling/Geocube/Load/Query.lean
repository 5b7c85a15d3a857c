import Geocube.Load.Lazy
import Geocube.Load.Config
import Geocube.Catalog.Index

/-!
Load queries and the datacube that serves them.

A query names a product and its bands, and constrains acquisition time,
space and search fields. Its spatial constraint is its query polygon, or else
its projected `x`/`y` ranges, or else its longitude and latitude ranges (a
missing one spanning the whole globe).

The output grid is the query's `like` grid, or else the grid of the query's
system and resolution, or of the product's load hints, covering the spatial
constraint or else the union of the found datasets' extents.
-/

namespace Geocube

/-- The bands requested by name or alias; no names means every band. A name
the product does not know is refused before any band is looked up. -/
def resolveMeasurements (p : Product) (names : List String) : LoadResult (List Measurement) :=
  match names.find? fun n => (p.measurement? n).isNone with
  | some n => .error (.missingMeasurement p.name n)
  | none => (p.lookupMeasurements names).mapError .catalog

/-- The grid recipe of a product's load hints. -/
def GridSpec.ofLoadHints (l : LoadHints) : GridSpec :=
  ⟨l.crs, (l.resolution.x, l.resolution.y), l.align.map fun a => (a.x, a.y)⟩

/-- A load request. -/
structure LoadQuery where
  product : Option String := none
  /-- Band names or aliases; none loads every band. -/
  measurements : List String := []
  time : Option TimeRange := none
  lon : Option (Float × Float) := none
  lat : Option (Float × Float) := none
  /-- `x` and `y` ranges in a projected system. -/
  xy : Option ((Float × Float) × (Float × Float) × Crs) := none
  geopolygon : Option Geometry := none
  /-- Equality constraints on search fields. -/
  fields : List (String × TermValue) := []
  /-- Load onto exactly this grid. -/
  like : Option GeoBox := none
  outputCrs : Option Crs := none
  resolution : Option (Float × Float) := none
  align : Option (Float × Float) := none
  groupBy : Option GroupBy := none
  resampling : Option Resampling := none
  bandResampling : List (String × Resampling) := []
  fuse : Option Fuser := none
  /-- Chunk size `(rows, cols)` of a lazy load. -/
  chunks : Option (Nat × Nat) := none
  /-- Overrides the failure policy: `true` skips, `false` aborts. -/
  skipBroken : Option Bool := none
  /-- Keeps only the found datasets it accepts. -/
  datasetPredicate : Option (Dataset → Bool) := none
  limit : Option Nat := none
  deriving Inhabited

namespace LoadQuery

/-- The box spanning two ranges. -/
def rangeBox (x y : Float × Float) : Except GeoError BoundingBox :=
  BoundingBox.checked (fmin x.1 x.2) (fmin y.1 y.2) (fmax x.1 x.2) (fmax y.1 y.2)

/-- The spatial constraint: the polygon, else the `x`/`y` ranges, else the
longitude and latitude ranges. -/
def geometry (q : LoadQuery) : Except GeoError (Option Geometry) := do
  if let some g := q.geopolygon then return some g
  if let some (x, y, crs) := q.xy then return some (Geometry.ofBox (← rangeBox x y) crs)
  if q.lon.isNone && q.lat.isNone then return none
  let b ← rangeBox (q.lon.getD (-180.0, 180.0)) (q.lat.getD (-90.0, 90.0))
  return some (Geometry.ofBox b .wgs84)

/-- The catalog search of the query: product, time, the spatial constraint
(or the extent of `like`), field equalities and limit. -/
def searchTerms (q : LoadQuery) : Except GeoError SearchTerms := do
  let mut terms : SearchTerms := { product := q.product }
  if let some t := q.time then terms := terms.time t.start t.stop
  let poly ← match ← q.geometry with
    | some g => pure (some g)
    | none => match q.like with
      | some l => some <$> l.extent
      | none => pure none
  terms := { terms with geopolygon := poly }
  for (n, v) in q.fields do terms := terms.eq n v
  return { terms with limit := q.limit }

/-- The inspection form of an optional value. -/
def optionText {α : Type} (o : Option α) (render : α → String) : String :=
  match o with
  | some a => "Some(" ++ render a ++ ")"
  | none => "None"

/-- The inspection form of a pair of doubles. -/
def pairText (p : Float × Float) : String :=
  "(" ++ Decimal.inspectText p.1 ++ ", " ++ Decimal.inspectText p.2 ++ ")"

/-- The inspection form of a query: its plain fields, its grouping by
dimension only, and none of its functions. -/
def inspectText (q : LoadQuery) : String :=
  let rangeText := fun (r : TimeRange) =>
    "TimeRange \x7b start: " ++ r.start.inspectText ++ ", end: " ++ r.stop.inspectText ++ " \x7d"
  let fields := q.fields.map fun (n, v) => "(" ++ Text.quoted n ++ ", " ++ v.inspectText ++ ")"
  "LoadQuery \x7b product: " ++ optionText q.product Text.quoted ++
  ", measurements: [" ++ ", ".intercalate (q.measurements.map Text.quoted) ++ "]" ++
  ", time: " ++ optionText q.time rangeText ++
  ", lon: " ++ optionText q.lon pairText ++
  ", lat: " ++ optionText q.lat pairText ++
  ", xy: " ++ optionText q.xy (fun (x, y, c) =>
    "(" ++ pairText x ++ ", " ++ pairText y ++ ", " ++ c.inspectText ++ ")") ++
  ", fields: [" ++ ", ".intercalate fields ++ "]" ++
  ", output_crs: " ++ optionText q.outputCrs Crs.inspectText ++
  ", resolution: " ++ optionText q.resolution pairText ++
  ", group_by: " ++ optionText q.groupBy (fun g =>
    "GroupBy \x7b dimension: " ++ Text.quoted g.dimension ++ ", .. \x7d") ++
  ", fuse: " ++ optionText q.fuse Fuser.text ++
  ", limit: " ++ optionText q.limit toString ++ ", .. \x7d"

end LoadQuery

/-- A catalog with the stores its bands are read from. -/
structure Datacube where
  index : Index
  registry : Registry
  config : LoaderConfig
  deriving Inhabited

/-- A load planned and ready to read. -/
structure PreparedLoad where
  dimension : String
  groups : List Group
  geobox : GeoBox
  measurements : List Measurement
  fuser : Fuser
  options : LoadOptions
  deriving Inhabited

/-- The query's fuser, else the product's named fuser (unknown names mean
copy-first), else copy-first. -/
def fuserFor (q : LoadQuery) (p : Product) : Fuser :=
  match q.fuse with
  | some f => f
  | none => ((p.fuse.bind Fuser.byName?)).getD .copyFirst

/-- The output grid of a load. -/
def outputGeobox (q : LoadQuery) (p : Product) (ds : List Dataset) : LoadResult GeoBox := do
  if let some l := q.like then return l
  let spec ← match q.outputCrs, q.resolution with
    | some c, some r => pure (⟨c, r, none⟩ : GridSpec)
    | none, none => match p.load with
      | some l => pure (GridSpec.ofLoadHints l)
      | none => throw (.noGridSpec
          s!"product '{p.name}' declares no load grid; give output_crs and resolution, or like")
    | _, _ => throw (.invalidQuery "output_crs and resolution must be given together")
  let spec := match q.align with
    | some (x, y) => spec.withAlign x y
    | none => spec
  match q.geometry with
  | .error e => throw (.geo e)
  | .ok (some g) => (spec.geoboxFor g).mapError .geo
  | .ok none =>
    let boxes := ds.filterMap fun d => (d.extent.bind fun e => (e.toCrs spec.crs).toOption).bind Geometry.bounds
    match boxes with
    | [] => return GeoBox.empty spec.crs
    | b :: rest => (spec.geoboxForBox (rest.foldl BoundingBox.union b)).mapError .geo

namespace Datacube

/-- A datacube; its settings must be valid. -/
def new (ix : Index) (r : Registry) (c : LoaderConfig) : LoadResult Datacube :=
  match c.validate with
  | .ok () => .ok ⟨ix, r, c⟩
  | .error t => .error (.invalidConfig t)

/-- The load options of a query: the configured ones, with the query's
resampling, resampling by band and failure choice. -/
def optionsFor (dc : Datacube) (q : LoadQuery) : LoadOptions :=
  let o := dc.config.loadOptions
  let o := match q.resampling with
    | some r => { o with resampling := r }
    | none => o
  let o := { o with bandResampling := q.bandResampling }
  match q.skipBroken with
  | some true => { o with ioErrorPolicy := .skip }
  | some false => { o with ioErrorPolicy := .abort }
  | none => o

/-- Products by name. -/
def listProducts (dc : Datacube) : List Product :=
  dc.index.products.mergeSort fun a b => decide (a.name ≤ b.name)

/-- Every band of every product, with its product's name. -/
def listMeasurements (dc : Datacube) : List (String × Measurement) :=
  dc.listProducts.flatMap fun p => p.measurements.map fun m => (p.name, m)

/-- The datasets matching the query's product, time, space and fields. -/
def findDatasets (dc : Datacube) (q : LoadQuery) : LoadResult (List Dataset) := do
  let terms ← q.searchTerms.mapError LoadError.geo
  let ds ← (dc.index.search terms).mapError LoadError.catalog
  return match q.datasetPredicate with
    | some keep => ds.filter keep
    | none => ds

/-- Find, choose the grid and group: everything but reading pixels. -/
def prepare (dc : Datacube) (q : LoadQuery) : LoadResult PreparedLoad := do
  let some name := q.product | throw (.invalidQuery "a product is required to load")
  let some p := dc.index.product? name | throw (.invalidQuery s!"unknown product '{name}'")
  let ms ← resolveMeasurements p q.measurements
  let ds ← dc.findDatasets q
  let g ← outputGeobox q p ds
  let gb := q.groupBy.getD GroupBy.solarDay
  let groups ← groupDatasets ds gb
  return ⟨gb.dimension, groups, g, ms, fuserFor q p, dc.optionsFor q⟩

/-- Load groups onto a grid with the configured options. -/
def loadData (dc : Datacube) (groups : List Group) (g : GeoBox) (ms : List Measurement)
    (f : Fuser) : LoadResult DataCube :=
  Geocube.loadData groups g ms f dc.config.loadOptions dc.registry

/-- Find, group and load. -/
def load (dc : Datacube) (q : LoadQuery) : LoadResult DataCube := do
  let pl ← dc.prepare q
  let c ← Geocube.loadData pl.groups pl.geobox pl.measurements pl.fuser pl.options dc.registry
  return { c with dimension := pl.dimension }

/-- Find and group now; read pixels when the cube is computed. -/
def loadLazy (dc : Datacube) (q : LoadQuery) : LoadResult LazyCube := do
  let pl ← dc.prepare q
  let chunk := q.chunks.getD (dc.config.chunkSize, dc.config.chunkSize)
  let c := LazyCube.new pl.groups pl.geobox pl.measurements ⟨pl.fuser, pl.options, dc.registry⟩ chunk
  return { c with dimension := pl.dimension }

end Datacube
end Geocube
