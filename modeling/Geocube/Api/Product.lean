import Geocube.Api.Catalog
import Geocube.Load.Query

/-!
Answers about pixel types, bands and products.
-/

namespace Geocube
namespace Api

/-- A load failure as an answer; a dataset without a solar day aborts the
operation. -/
def loadErrorDoc (e : LoadError) : Document :=
  match e with
  | .solarDayOutOfRange _ => panicDoc
  | e => errorDoc ("LoadError::" ++ e.kind) e.message

/-- `dtype`: which values a pixel type holds, and how values are coerced. -/
def dtypeOp (req : Document) : Step Document := do
  let t ← match DType.decoder (← arg req "dtype") with
    | .ok t => pure t
    | .error e => throw (badInput ("bad dtype: " ++ e.message))
  let vs ← floats (← arg req "values")
  return .ofPairs [("is_float", .bool t.isFloat),
    ("values", .arr (vs.map fun v =>
      .ofPairs [("can_represent", .bool (t.canRepresent v)), ("coerce", fl (t.coerce v))]))]

def flagDoc (f : FlagDescription) : Document :=
  .ofPairs [("name", .str f.name), ("bits", .arr (f.bits.map fun (b : Nat) => Document.int b)),
    ("values", .arr (f.values.map fun (p : Nat × String) => .arr [Document.int p.1, .str p.2])),
    ("description", optDoc f.description .str)]

def measurementDoc (m : Measurement) : Document :=
  .ofPairs [("name", .str m.name), ("dtype", .str m.dtype.name), ("nodata", optDoc m.nodata fl),
    ("units", .str m.units), ("aliases", Document.strs m.aliases),
    ("scale_factor", optDoc m.scaleFactor fl), ("add_offset", optDoc m.addOffset fl),
    ("flags", optDoc m.flagsDefinition fun fs => .arr ((describeFlags fs).map flagDoc)),
    ("spectral_definition", optDoc m.spectralDefinition id), ("extra_dim", optDoc m.extraDim .str),
    ("fill_value", fl m.fillValue)]

/-- `measurement`: a band, its physical values and the names it answers to. -/
def measurementOp (req : Document) : Step Document := do
  let m ← match Measurement.decoder (← arg req "doc") with
    | .ok m => pure m
    | .error e => throw (catalogErrorDoc (.validation e.message))
  let mut fields : List (String × Document) := [("measurement", measurementDoc m)]
  if let some vs := arg? req "values" then
    fields := fields ++ [("physical", .arr ((← floats vs).map fun v => fl (m.toPhysical v)))]
  if let some ns := arg? req "names" then
    fields := fields ++ [("answers_to", .arr ((← (← list ns).mapM str).map fun n => .bool (m.answersTo n)))]
  return .ofPairs fields

def xyDoc (v : XY) : Document := .arr [fl v.x, fl v.y]

def productDoc (p : Product) : Document :=
  .ofPairs [("name", .str p.name), ("description", optDoc p.description .str),
    ("metadata_type", .str p.metadataType.name), ("license", optDoc p.license .str),
    ("metadata", p.metadata), ("measurements", .arr (p.measurements.map measurementDoc)),
    ("load", optDoc p.load fun l =>
      .ofPairs [("crs", .str l.crs.name), ("resolution", xyDoc l.resolution),
        ("align", optDoc l.align xyDoc)]),
    ("storage", optDoc p.storage fun s =>
      .ofPairs [("crs", optDoc s.crs fun c => .str c.name), ("resolution", optDoc s.resolution xyDoc),
        ("tile_size", optDoc s.tileSize xyDoc)]),
    ("extra_dimensions", .arr (p.extraDimensions.map fun d =>
      .ofPairs [("name", .str d.name), ("values", .arr (d.values.map fl)), ("dtype", .str d.dtype.name)])),
    ("fuse", optDoc p.fuse .str)]

/-- The metadata types given with a request. -/
def metadataTypesArg (req : Document) : Step (List MetadataType) := do
  match arg? req "metadata_types" with
  | none => return []
  | some d => (← list d).mapM fun t => catalog (MetadataType.ofDoc t)

/-- Find a metadata type by name. -/
def typeNamed (ts : List MetadataType) (n : String) : Option MetadataType := ts.find? (·.name == n)

/-- The products given with a request, built against its metadata types. -/
def productsArg (req : Document) (ts : List MetadataType) : Step (List Product) := do
  match arg? req "products" with
  | none => return []
  | some d => (← list d).mapM fun p => catalog (Product.ofDoc p (typeNamed ts))

/-- A list of lists of names. -/
def nameLists (d : Document) : Step (List (List String)) := do
  (← list d).mapM fun l => do (← list l).mapM str

def namesDoc (ms : List Measurement) : Document := Document.strs (ms.map (·.name))

/-- `product`: a parsed product, what it matches, and its band lookups. -/
def productOp (req : Document) : Step Document := do
  let ts ← metadataTypesArg req
  let p ← catalog (Product.ofDoc (← arg req "doc") (typeNamed ts))
  let mut fields : List (String × Document) := [("product", productDoc p)]
  if let some ds := arg? req "match" then
    fields := fields ++ [("matches", .arr ((← list ds).map fun d => .bool (p.accepts d)))]
  if let some ls := arg? req "lookup" then
    let ls ← nameLists ls
    fields := fields ++ [("lookup", .arr (ls.map fun ns =>
        inline (p.lookupMeasurements ns) namesDoc catalogErrorDoc)),
      ("resolve", .arr (ls.map fun ns => inline (resolveMeasurements p ns) namesDoc loadErrorDoc))]
  if let some u := arg? req "update" then
    fields := fields ++ [("check_update",
      inline (Product.ofDoc u (typeNamed ts)) (fun n => updateReportDoc (p.checkUpdate n)) catalogErrorDoc)]
  return .ofPairs fields

/-- `match_product`: the product a document belongs to. -/
def matchProductOp (req : Document) : Step Document := do
  let ts ← metadataTypesArg req
  let ps ← productsArg req ts
  let doc ← arg req "doc"
  let explicit ← strArg? req "explicit"
  let ignore ← boolArgOr req "ignore_mismatch" false
  return inline (matchProduct ps doc explicit ignore) (fun p => .str p.name) catalogErrorDoc

end Api
end Geocube
