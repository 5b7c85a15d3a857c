import Geocube.Fixture.Definitions
import Geocube.Yaml.Value
import Geocube.Catalog.Index
import Geocube.Time.Parse

/-!
Setting up catalogs and datasets from definitions.

Products built here are bound to a fresh `eo3` metadata type. A seeded index
holds the `eo3` type and the given products; the Landsat index holds the two
fixture products.

The document builder writes `eo3` dataset documents. It starts from a ten by
ten pixel grid of 0.1 degree pixels over longitudes 0 to 1 and latitudes -1
to 0, acquired at 2020-01-01T00:00:00Z and processed a day later, and each
step changes one aspect. A time span is written as its start, end and
midpoint.
-/

namespace Geocube
namespace Fixture

/-- Why a setup fails: a catalog refusal, or another failure. -/
inductive SetupError where
  | catalog (e : CatalogError)
  | other (message : String)
  deriving Inhabited

def SetupError.message : SetupError → String
  | .catalog e => e.message
  | .other m => m

/-- A document from definition text. -/
def definition (text : String) : Except SetupError Document :=
  (Yaml.document text).mapError .other

/-- A float as a JSON value: JSON has no infinities or NaN. -/
def floatValue (x : Float) : Document := if x.isFinite then .float x else .null

/-- A minimal product definition of the `eo3` type with bands given as name,
pixel type and nodata. -/
def productDoc (name : String) (bands : List (String × String × Float)) : Document :=
  .ofPairs [("name", .str name), ("metadata_type", .str "eo3"),
    ("metadata", .ofPairs [("product", .ofPairs [("name", .str name)])]),
    ("measurements", .arr (bands.map fun (b, dtype, nodata) =>
      .ofPairs [("name", .str b), ("dtype", .str dtype), ("nodata", floatValue nodata)]))]

/-- The `eo3` metadata type. -/
def eo3Type : Except SetupError MetadataType := do
  (MetadataType.ofDoc (← definition eo3MetadataType)).mapError .catalog

/-- A product definition bound to a fresh `eo3` type, whatever type it names. -/
def eo3Product (doc : Document) : Except SetupError Product := do
  let mt ← eo3Type
  (Product.ofDoc doc fun _ => some mt).mapError .catalog

def runSetup {α : Type} (ix : Index) (op : IndexOp α) : Except SetupError Index :=
  match op.run ix with
  | .ok (_, ix') => .ok ix'
  | .error e => .error (.catalog e)

/-- An index holding the `eo3` type and the given products, added in order. -/
def seededIndex (products : List Document) : Except SetupError Index := do
  let ix ← runSetup Index.empty (Index.addMetadataType (← eo3Type))
  products.foldlM (fun ix doc => runSetup ix (do Index.addProduct (← Index.productOfDoc doc))) ix

/-- An index holding `eo3`, `ls8_ard` and `s2_ard`. -/
def landsatIndex : Except SetupError Index := do
  let ls8 ← definition ls8Product
  let s2 ← definition s2Product
  seededIndex [ls8, s2]

/-- The state of a dataset document being built. -/
structure DocBuilder where
  id : Uuid
  product : String
  start : Instant
  /-- The end of the acquisition, for a span. -/
  stop : Option Instant := none
  created : Instant
  crs : String := "EPSG:4326"
  /-- `(height, width)` of the default grid. -/
  shape : Nat × Nat := (10, 10)
  /-- The affine coefficients `a, b, c, d, e, f` of the default grid. -/
  transform : List Float := [0.1, 0, 0, 0, -0.1, 0]
  /-- Bands and their locations; a later entry replaces an earlier one. -/
  measurements : List (String × Document) := []
  /-- Properties written over the generated ones. -/
  properties : List (String × Document) := []
  geometry : Option Document := none
  /-- Lineage by classifier; a later entry replaces an earlier one. -/
  sources : List (String × Uuid) := []
  deriving Inhabited

/-- One change to a document being built. -/
inductive BuildStep where
  | id (u : Uuid)
  | time (at_ : String)
  | timeSpan (start stop : String)
  | crs (name : String)
  | grid (shape : Nat × Nat) (transform : List Float)
  | lonLatGrid (lon lat resolution : Float) (shape : Nat × Nat)
  | measurement (name path : String)
  | measurementBand (name path : String) (band : Nat)
  | property (key : String) (value : Document)
  | platform (name : String)
  | cloudCover (percent : Float)
  | geometry (g : Document)
  | source (classifier : String) (id : Uuid)
  deriving Inhabited

namespace DocBuilder

/-- The default document of a product. -/
def new (product : String) (id : Uuid) : DocBuilder :=
  { id, product
    start := Instant.startOf ⟨Date.daysFromCivil 2020 1 1⟩
    created := Instant.startOf ⟨Date.daysFromCivil 2020 1 2⟩ }

/-- An instant in the relaxed RFC 3339 reading. -/
def instant? (s : String) : Option Instant :=
  match Instant.ofRelaxed? s with
  | .ok t => some t
  | .error _ => none

/-- Apply a step; none when a time does not read. -/
def apply (b : DocBuilder) : BuildStep → Option DocBuilder
  | .id u => some { b with id := u }
  | .time at_ => do
    let t ← instant? at_
    return { b with start := t, stop := none }
  | .timeSpan s e => do
    let t0 ← instant? s
    let t1 ← instant? e
    return { b with start := t0, stop := some t1 }
  | .crs name => some { b with crs := name }
  | .grid shape transform => some { b with shape, transform }
  | .lonLatGrid lon lat res shape =>
    some { b with crs := "EPSG:4326", shape, transform := [res, 0, lon, 0, -res, lat] }
  | .measurement name path =>
    some { b with measurements := b.measurements ++ [(name, .ofPairs [("path", .str path)])] }
  | .measurementBand name path band =>
    some { b with measurements := b.measurements ++
      [(name, .ofPairs [("path", .str path), ("band", .int band)])] }
  | .property key value => some { b with properties := b.properties ++ [(key, value)] }
  | .platform name => some { b with properties := b.properties ++ [("eo:platform", .str name)] }
  | .cloudCover pct => some { b with properties := b.properties ++ [("eo:cloud_cover", floatValue pct)] }
  | .geometry g => some { b with geometry := some g }
  | .source classifier u => some { b with sources := b.sources ++ [(classifier, u)] }

/-- `YYYYMMDD` of an instant. -/
def dayStamp (t : Instant) : String :=
  let (y, m, d) := t.date.civil
  Date.yearText y ++ Date.pad 2 m ++ Date.pad 2 d

/-- The midpoint of a span, half the difference after its start. -/
def midpoint (start stop : Instant) : Instant :=
  (start.add? ((stop.since start).divInt 2)).getD start

/-- The dataset document. -/
def build (b : DocBuilder) : Document :=
  let times : List (String × Document) := match b.stop with
    | some e =>
      [("dtr:start_datetime", .str b.start.rfc3339), ("dtr:end_datetime", .str e.rfc3339),
       ("datetime", .str (midpoint b.start e).rfc3339)]
    | none => [("datetime", .str b.start.rfc3339)]
  let properties := times ++
    [("odc:processing_datetime", .str b.created.rfc3339), ("odc:file_format", .str "GeoTIFF")] ++
    b.properties
  let base : List (String × Document) :=
    [("$schema", .str "https://schemas.opendatacube.org/dataset"), ("id", .str b.id.text),
     ("label", .str (b.product ++ "_" ++ dayStamp b.start)),
     ("product", .ofPairs [("name", .str b.product)]), ("crs", .str b.crs),
     ("grids", .ofPairs [("default", .ofPairs [
        ("shape", .arr [.int b.shape.1, .int b.shape.2]),
        ("transform", .arr ((b.transform ++ [0, 0, 1]).map floatValue))])]),
     ("properties", .ofPairs properties), ("measurements", .ofPairs b.measurements)]
  let geometry := match b.geometry with
    | some g => [("geometry", g)]
    | none => []
  let lineage := if b.sources.isEmpty then []
    else [("lineage", .ofPairs [("source_datasets",
      .ofPairs (b.sources.map fun (c, u) => (c, .str u.text)))])]
  .ofPairs (base ++ geometry ++ lineage)

end DocBuilder

/-- A built document as a dataset of a product, located at `uri`. -/
def makeDataset (p : Product) (b : DocBuilder) (uri : String) : Except SetupError Dataset :=
  (Dataset.new p b.build [uri]).mapError .catalog

end Fixture
end Geocube
