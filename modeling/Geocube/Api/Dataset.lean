import Geocube.Api.Grid
import Geocube.Load.Source

/-!
Answers about datasets: what a dataset document says through its product, and
where its bands are stored.
-/

namespace Geocube
namespace Api

/-- The product a request names among the request's products. -/
def productNamed (ps : List Product) (name : String) : Step Product :=
  match ps.find? (·.name == name) with
  | some p => .ok p
  | none => .error (badInput s!"unknown product '{name}'")

def lineageDoc (r : LineageRef) : Document := .arr [.str r.classifier, uuidDoc r.sourceId]

def gridInfoDoc (g : GridInfo) : Document :=
  .ofPairs [("shape", natPairDoc g.shape), ("transform", affineDoc g.transform),
    ("footprint", pointsDoc g.footprint)]

def measurementInfoDoc (m : MeasurementInfo) : Document :=
  .ofPairs [("uri", .str m.uri), ("band", optDoc m.band fun b => .int b),
    ("layer", optDoc m.layer .str), ("grid", .str m.grid)]

def bandSourceDoc (s : BandSource) : Document :=
  .ofPairs [("uri", .str s.uri), ("scheme", .str s.scheme), ("format", optDoc s.format .str),
    ("band_index", optDoc s.bandIndex fun b => .int b), ("layer", optDoc s.layer .str),
    ("grid", optDoc s.grid geoboxDoc)]

/-- The dataset a request describes: `doc` bound to the product named `product`,
at the locations `uris`. -/
def datasetArg (req : Document) : Step Dataset := do
  let ts ← metadataTypesArg req
  let ps ← productsArg req ts
  let p ← productNamed ps (← strArg req "product")
  let uris ← match ← listArg? req "uris" with
    | some us => us.mapM str
    | none => pure []
  catalog (Dataset.new p (← arg req "doc") uris)

/-- The datasets a request lists as `{product, doc, uris?}`. -/
def datasetsArg (req : Document) (ps : List Product) : Step (List Dataset) := do
  (← listArg req "datasets").mapM fun e => do
    let p ← productNamed ps (← strArg e "product")
    let uris ← match ← listArg? e "uris" with
      | some us => us.mapM str
      | none => pure []
    catalog (Dataset.new p (← arg e "doc") uris)

/-- `dataset`: the properties of a dataset, and optionally search field values
and band locations. -/
def datasetOp (req : Document) : Step Document := do
  let d ← datasetArg req
  let rangeOpt := optDoc d.timeRange rangeDocOf
  let mut fields : List (String × Document) :=
    [("id", uuidDoc d.id), ("sources", .arr (d.sources.map lineageDoc)), ("time_range", rangeOpt),
     ("center_time", optDoc d.centerTime fun t => .str t.text),
     ("creation_time", optDoc d.creationTime fun t => .str t.text),
     ("crs", optDoc d.crs fun c => .str c.name), ("label", optDoc d.label .str),
     ("format", optDoc d.format .str), ("primary_uri", optDoc d.primaryUri .str),
     ("grids", .ofPairs (d.grids.map fun (k, g) => (k, gridInfoDoc g))),
     ("extent", optDoc d.extent geometryDoc), ("extent_lonlat", optDoc d.extentLonLat geometryDoc),
     ("bounds_lonlat", optDoc d.boundsLonLat bboxDoc), ("record_time", rangeOpt)]
  if let some names ← listArg? req "fields" then
    let names ← names.mapM str
    fields := fields ++ [("fields", .ofPairs (names.map fun n => (n, optDoc (d.field n) fieldValueDoc)))]
  if let some bands ← listArg? req "bands" then
    let bands ← bands.mapM str
    fields := fields ++ [
      ("measurement_info", .ofPairs (bands.map fun b => (b, optDoc (d.measurementInfo b) measurementInfoDoc))),
      ("band_source", .ofPairs (bands.map fun b => (b, inline (BandSource.ofDataset d b) bandSourceDoc loadErrorDoc)))]
  return .ofPairs fields

/-- `resolve_uri`: a band path resolved against a dataset location. -/
def resolveUriOp (req : Document) : Step Document :=
  return .str (resolveUri (← strArg req "base") (← strArg req "path"))

end Api
end Geocube
