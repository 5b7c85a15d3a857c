import Geocube.Api.Index
import Geocube.Api.Group
import Geocube.Api.Source
import Geocube.Load.Query

/-!
Answers about loading: a catalog and a store of rasters are set up from the
request, then a query is found, planned, loaded eagerly or lazily, or listed.
-/

namespace Geocube
namespace Api

/-- A pair of doubles `[a, b]`. -/
def floatPair (d : Document) : Step (Float × Float) := do
  match ← floats d with
  | [a, b] => return (a, b)
  | _ => throw (badInput "expected two numbers")

def floatPairArg? (req : Document) (k : String) : Step (Option (Float × Float)) :=
  match arg? req k with
  | some d => some <$> floatPair d
  | none => pure none

def instantOf (d : Document) : Step Instant := do
  match Instant.parse (← str d) with
  | .ok t => return t
  | .error e => throw (badInput e.message)

/-- A load query from its request form. -/
def loadQueryOf (d : Document) : Step LoadQuery := do
  let mut q : LoadQuery := { product := ← strArg? d "product" }
  if let some ms ← listArg? d "measurements" then q := { q with measurements := ← ms.mapM str }
  match arg? d "time" with
  | some (.str s) =>
    match TimeRange.parse s with
    | .ok r => q := { q with time := some r }
    | .error e => throw (badInput e.message)
  | some t =>
    match ← list t with
    | [a, b] => q := { q with time := some (TimeRange.new (← instantOf a) (← instantOf b)) }
    | _ => throw (badInput "time needs two instants")
  | none => pure ()
  q := { q with lon := ← floatPairArg? d "lon", lat := ← floatPairArg? d "lat" }
  if let some xy := arg? d "xy" then
    q := { q with xy := some (← floatPair (← arg xy "x"), ← floatPair (← arg xy "y"), ← crsArg xy "crs") }
  if let some g := arg? d "geopolygon" then q := { q with geopolygon := some (← geometryArg g) }
  if let some fs ← listArg? d "fields" then
    q := { q with fields := ← fs.mapM fun f => do
      match ← list f with
      | [n, v] => return (← str n, ← termValueOf v)
      | _ => throw (badInput "a field is [name, value]") }
  if let some l := arg? d "like" then q := { q with like := some (← geoboxOf l) }
  if let some c := arg? d "output_crs" then q := { q with outputCrs := some (← crs c) }
  q := { q with resolution := ← floatPairArg? d "resolution", align := ← floatPairArg? d "align" }
  if let some g := arg? d "group_by" then q := { q with groupBy := some (← groupByOf g 32) }
  if let some r ← strArg? d "resampling" then q := { q with resampling := some (Resampling.ofName r) }
  if let some br := arg? d "band_resampling" then
    let entries ← obj br
    q := { q with bandResampling := ← entries.foldlM (fun acc (b, r) => do
      return putEntry b (Resampling.ofName (← str r)) acc) [] }
  if let some f ← strArg? d "fuse" then
    match Fuser.byName? f with
    | some fu => q := { q with fuse := some fu }
    | none => throw (badInput s!"unknown fuser '{f}'")
  if let some c := arg? d "chunks" then q := { q with chunks := some (← natPair c) }
  q := { q with skipBroken := ← boolArg? d "skip_broken", limit := ← natArg? d "limit" }
  if let some ids ← listArg? d "exclude_ids" then
    let ids ← ids.mapM uuidOf
    q := { q with datasetPredicate := some fun ds => !ids.contains ds.id }
  return q

def skippedDoc (s : SkippedRead) : Document :=
  .ofPairs [("group", .int s.group), ("dataset", uuidDoc s.dataset), ("band", .str s.band),
    ("reason", .str s.reason)]

/-- A map over the cube's bands and `missing`. -/
def byBandDoc {α : Type} (c : DataCube) (f : String → Option α) (enc : α → Document) : Document :=
  .ofPairs ((c.bands ++ ["missing"]).map fun b => (b, optDoc (f b) enc))

def accessorsDoc (c : DataCube) : Document :=
  .ofPairs [("is_empty", .bool c.isEmpty),
    ("band_index", byBandDoc c c.bandIndex fun i => .int i),
    ("nodata_of", byBandDoc c c.nodataOf fl),
    ("band_shape", byBandDoc c c.bandShape fun (g, h, w) => .arr [.int g, .int h, .int w]),
    ("first_band_planes", .arr ((List.range (c.keys.length + 1)).map fun g =>
      optDoc (c.bands.head?.bind (c.plane g)) rasterDoc))]

/-- A cube, with its accessors when asked for. -/
def cubeDoc (c : DataCube) (accessors : Bool) : Document :=
  let (g, b, h, w) := c.shape
  let base : List (String × Document) :=
    [("dimension", .str c.dimension), ("keys", .arr (c.keys.map groupKeyDoc)),
     ("key_display", .arr (c.keys.map fun k => .str k.display)),
     ("bands", Document.strs c.bands), ("geobox", geoboxDoc c.geobox),
     ("shape", .arr [.int g, .int b, .int h, .int w]), ("nodata", .arr (c.nodata.map fl)),
     ("data", .arr (c.data.map fun planes => .arr (planes.map rasterDoc))),
     ("skipped", .arr (c.skipped.map skippedDoc))]
  .ofPairs (if accessors then base ++ [("accessors", accessorsDoc c)] else base)

/-- The loader settings of a request. -/
def loaderConfigOf (d : Document) : Step LoaderConfig := do
  let mut c : LoaderConfig := {}
  if let some p ← strArg? d "io_error_policy" then c := { c with ioErrorPolicy := IoErrorPolicy.ofName p }
  if let some r ← strArg? d "default_resampling" then
    c := { c with defaultResampling := Resampling.ofName r }
  if let some n ← natArg? d "chunk_size" then c := { c with chunkSize := n }
  if let some n ← natArg? d "workers" then c := { c with workers := n }
  return c

def loaderConfigDoc (c : LoaderConfig) : Document :=
  .ofPairs [("io_error_policy", .str c.ioErrorPolicy.name),
    ("default_resampling", .str c.defaultResampling.name), ("chunk_size", .int c.chunkSize),
    ("workers", .int c.workers)]

/-- Run an index operation during setup, whose failure is the answer. -/
def setupStep {α : Type} (ix : Index) (op : IndexOp α) : Step (α × Index) :=
  match op.run ix with
  | .ok r => .ok r
  | .error e => .error (catalogErrorDoc e)

/-- The catalog of a load request: its metadata types, products and
datasets, some archived. -/
def loadIndexOf (req : Document) : Step Index := do
  let mut ix := Index.empty
  for t in (← listArg? req "metadata_types").getD [] do
    let mt ← catalog (MetadataType.ofDoc t)
    ix := (← setupStep ix (Index.addMetadataType mt)).2
  for p in (← listArg? req "products").getD [] do
    ix := (← setupStep ix (do Index.addProduct (← Index.productOfDoc p))).2
  for d in (← listArg? req "datasets").getD [] do
    let name ← strArg d "product"
    let doc ← arg d "doc"
    let uris ← match ← listArg? d "uris" with
      | some us => us.mapM str
      | none => pure []
    let archived ← boolArgOr d "archived" false
    ix := (← setupStep ix (do
      let p ← Index.getProduct name
      let ds ← StateT.lift (Dataset.new p doc uris)
      let _ ← Index.addDataset ds true
      if archived then
        let _ ← Index.archive [ds.id] true
      pure ())).2
  return ix

/-- The store of a load request, serving `mem` locations. -/
def loadRegistryOf (req : Document) : Step Registry := do
  let mut store := MemoryStore.empty
  for r in (← listArg? req "rasters").getD [] do
    let dtype ← match arg? r "dtype" with
      | some t => match DType.decoder t with
        | .ok t => pure t
        | .error e => throw (badInput ("bad dtype: " ++ e.message))
      | none => pure .float64
    let raster : MemoryRaster :=
      ⟨← geoboxOf (← arg r "grid"), ← rasterOf (← arg r "data"), dtype, ← floatArg? r "nodata"⟩
    store := store.insert (← strArg r "uri") raster
  for f in (← listArg? req "failing").getD [] do
    store := store.fail (← strArg f "uri") (← strArg f "message")
  return Registry.empty.register "mem" none store

def loadStep {α : Type} (r : LoadResult α) : Step α := r.mapError loadErrorDoc

/-- The options of a direct load: `{policy?, resampling?, band_resampling?}`. -/
def loadOptionsOf (d : Document) : Step LoadOptions := do
  let mut o := LoadOptions.default
  if let some p ← strArg? d "policy" then o := { o with ioErrorPolicy := IoErrorPolicy.ofName p }
  if let some r ← strArg? d "resampling" then o := { o with resampling := Resampling.ofName r }
  if let some br := arg? d "band_resampling" then
    for (b, r) in ← obj br do
      o := { o with bandResampling := putEntry b (Resampling.ofName (← str r)) o.bandResampling }
  return o

/-- The lazy answer: the plan, optionally one plane, the computed cube and
how many units were computed along the way. -/
def lazyAnswer (req : Document) (dc : Datacube) (q : LoadQuery) (accessors : Bool) :
    Step Document := do
  let c ← loadStep (dc.loadLazy q)
  let (g, b, h, w) := c.shape
  let mut fields : List (String × Document) :=
    [("shape", .arr [.int g, .int b, .int h, .int w]), ("unit_count", .int c.unitCount),
     ("keys", .arr (c.keys.map groupKeyDoc)), ("bands", Document.strs c.bands),
     ("geobox", geoboxDoc c.geobox)]
  let mut c := c
  if let some p := arg? req "plane" then
    let (r, c') := c.plane (← natArg p "group") (← strArg p "band")
    c := c'
    fields := fields ++ [("plane", inline r rasterDoc loadErrorDoc),
      ("computed_after_plane", .int c.computedCount)]
  let scheduler ← match ← strArg? req "scheduler" with
    | none | some "sequential" => pure Scheduler.sequential
    | some "rayon" | some "rayon_global" => pure Scheduler.parallel
    | some other => throw (badInput s!"unknown scheduler '{other}'")
  let (r, c') := c.compute scheduler (← boolArgOr req "cancel" false)
  c := c'
  fields := fields ++ [("cube", inline r (cubeDoc · accessors) loadErrorDoc),
    ("computed_after", .int c.computedCount)]
  if ← boolArgOr req "recompute" false then
    let (r2, _) := c.compute .sequential false
    fields := fields ++ [("recomputed", inline r2 (cubeDoc · accessors) loadErrorDoc)]
  return .ofPairs fields

/-- `load`: set up a catalog and a store, then answer the query by mode. -/
def loadOp (req : Document) : Step Document := do
  let ix ← loadIndexOf req
  let registry ← loadRegistryOf req
  let config ← match arg? req "config" with
    | some c => loaderConfigOf c
    | none => pure {}
  let dc ← loadStep (Datacube.new ix registry config)
  let q ← loadQueryOf (← arg req "query")
  let accessors ← boolArgOr req "accessors" false
  match (← strArg? req "mode").getD "eager" with
  | "eager" => return cubeDoc (← loadStep (dc.load q)) accessors
  | "lazy" => lazyAnswer req dc q accessors
  | "find" => return uuidsDoc ((← loadStep (dc.findDatasets q)).map (·.id))
  | "list" =>
    return .ofPairs [("products", Document.strs (dc.listProducts.map (·.name))),
      ("measurements", .arr (dc.listMeasurements.map fun (p, m) => .arr [.str p, .str m.name])),
      ("config", loaderConfigDoc dc.config), ("drivers", .str dc.registry.text),
      ("index", .str Index.inspectText), ("query", .str q.inspectText)]
  | mode@"load_data" | mode@"load_data_options" =>
    let some like := q.like | throw (badInput "load_data needs query.like")
    let some name := q.product | throw (badInput "load_data needs query.product")
    let (p, _) ← setupStep dc.index (Index.getProduct name)
    let ms ← loadStep (resolveMeasurements p q.measurements)
    let ds ← loadStep (dc.findDatasets q)
    let groups ← loadStep (groupDatasets ds (q.groupBy.getD GroupBy.solarDay))
    let fuser := q.fuse.getD .copyFirst
    let cube ← if mode == "load_data" then loadStep (dc.loadData groups like ms fuser)
      else
        let o ← match arg? req "options" with
          | some d => loadOptionsOf d
          | none => pure LoadOptions.default
        loadStep (loadData groups like ms fuser o dc.registry)
    return cubeDoc cube accessors
  | other => throw (badInput s!"unknown load mode '{other}'")

end Api
end Geocube
