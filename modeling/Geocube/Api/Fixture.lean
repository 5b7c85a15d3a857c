import Geocube.Api.Index
import Geocube.Api.Raster
import Geocube.Raster.Synthetic

/-!
Answers about setup helpers: definition fixtures, YAML streams, product and
dataset documents, synthetic rasters and value checks.
-/

namespace Geocube
namespace Api

/-- `fixture`: a named definition or a YAML text as a document. -/
def fixtureOp (req : Document) : Step Document := do
  let text ← match ← strArg? req "name" with
    | some name =>
      match Fixture.definitionText? name with
      | some t => pure t
      | none => throw (badInput s!"unknown fixture '{name}'")
    | none => strArg req "yaml"
  return inline (Fixture.definition text) id setupErrorDoc

/-- `from_yaml`: the source documents of a YAML stream. -/
def fromYamlOp (req : Document) : Step Document := do
  let r := SourceDocument.ofYaml (← strArg req "uri") (← strArg req "text")
  return inline r (fun docs => .arr (docs.map fun s => .ofPairs [("uri", .str s.uri), ("doc", s.doc)]))
    ingestionErrorDoc

/-- `product_doc`: a minimal product definition. -/
def productDocOp (req : Document) : Step Document := do
  let bands ← (← listArg req "measurements").mapM fun m => do
    match ← list m with
    | [name, dtype, nodata] => return (← str name, ← str dtype, ← float nodata)
    | _ => throw (badInput "a measurement is [name, dtype, nodata]")
  return Fixture.productDoc (← strArg req "name") bands

/-- `eo3_product`: a product bound to the `eo3` type, with its definition. -/
def eo3ProductOp (req : Document) : Step Document := do
  let doc ← arg req "doc"
  return inline (Fixture.eo3Product doc) (fun p =>
    match productDoc p with
    | .obj fs => .obj (Document.setField "definition" p.definition fs)
    | other => other) setupErrorDoc

/-- A `[height, width]` pair. -/
def shapeOf (d : Document) : Step (Nat × Nat) := do
  match ← list d with
  | [h, w] => return (← nat h, ← nat w)
  | _ => throw (badInput "a shape is [height, width]")

/-- One builder step `[method, args...]`. -/
def buildStepOf (d : Document) : Step Fixture.BuildStep := do
  let parts ← list d
  let some (.str method) := parts.head? | throw (badInput "a step starts with its method")
  let args := parts.tail
  let at_ := fun (i : Nat) => (args[i]?).getD .null
  match method with
  | "id" => return .id (← uuidOf (at_ 0))
  | "time" => return .time (← str (at_ 0))
  | "time_span" => return .timeSpan (← str (at_ 0)) (← str (at_ 1))
  | "crs" => return .crs (← str (at_ 0))
  | "grid" => return .grid (← shapeOf (at_ 0)) (← floatsN (at_ 1) 6)
  | "lonlat_grid" =>
    return .lonLatGrid (← float (at_ 0)) (← float (at_ 1)) (← float (at_ 2)) (← shapeOf (at_ 3))
  | "measurement" => return .measurement (← str (at_ 0)) (← str (at_ 1))
  | "measurement_band" => return .measurementBand (← str (at_ 0)) (← str (at_ 1)) (← nat (at_ 2))
  | "property" => return .property (← str (at_ 0)) (at_ 1)
  | "platform" => return .platform (← str (at_ 0))
  | "cloud_cover" => return .cloudCover (← float (at_ 0))
  | "geometry" => return .geometry (at_ 0)
  | "source" => return .source (← str (at_ 0)) (← uuidOf (at_ 1))
  | other => throw (badInput s!"unknown builder step '{other}'")

/-- A built dataset: its identity, location, lineage, time and extent. -/
def builtDatasetDoc (d : Dataset) : Document :=
  match datasetBrief d with
  | .obj fs =>
    .obj (Document.setField "bounds_lonlat" (optDoc d.boundsLonLat bboxDoc)
      (Document.setField "center_time" (optDoc d.centerTime fun t => .str t.text) fs))
  | other => other

/-- `doc_builder`: a dataset document built step by step, and the dataset it
makes for a product at a location. -/
def docBuilderOp (req : Document) : Step Document := do
  let id ← uuidArg req "id"
  let steps ← (← listArg req "steps").mapM buildStepOf
  let mut b := Fixture.DocBuilder.new (← strArg req "product") id
  for s in steps do
    match b.apply s with
    | some b' => b := b'
    | none => throw panicDoc
  let mut fields : List (String × Document) := [("dataset_id", uuidDoc b.id), ("doc", b.build)]
  if let (some def_, some uri) := (arg? req "product_def", ← strArg? req "uri") then
    let made := do Fixture.makeDataset (← Fixture.eo3Product def_) b uri
    fields := fields ++ [("dataset", inline made builtDatasetDoc setupErrorDoc)]
  return .ofPairs fields

/-- A `[start, end)` range of positions. -/
def rangeOf (d : Document) : Step (Nat × Nat) := do
  match ← list d with
  | [a, b] => return (← nat a, ← nat b)
  | _ => throw (badInput "a range is [start, end]")

/-- `generator`: a synthetic raster. -/
def generatorOp (req : Document) : Step Document := do
  let size := fun (_ : Unit) => do
    let w ← natArg req "width"
    let h ← natArg req "height"
    if w * h > cellLimit then throw (badInput "grid too large")
    return (w, h)
  match ← strArg req "fn" with
  | "create_test_grid" =>
    let (w, h) ← size ()
    return rasterDoc (Synthetic.testGrid w h)
  | "constant_grid" =>
    let (w, h) ← size ()
    return rasterDoc (Synthetic.constant w h (← floatArg req "value"))
  | "gradient_grid" =>
    let (w, h) ← size ()
    return rasterDoc (Synthetic.gradient w h (← floatArg req "lo") (← floatArg req "hi"))
  | "class_grid" =>
    let (w, h) ← size ()
    let cs ← (← listArg req "classes").mapM nat
    if cs.any (· > 255) then throw (badInput "classes are bytes")
    return rasterDoc (Synthetic.classes w h cs)
  | "with_nodata_block" =>
    let g ← rasterOf (← arg req "data")
    let (r0, r1) ← rangeOf (← arg req "rows")
    let (c0, c1) ← rangeOf (← arg req "cols")
    match Synthetic.withNodataBlock g r0 r1 c0 c1 (← floatArg req "nodata") with
    | some g' => return rasterDoc g'
    | none => throw panicDoc
  | other => throw (badInput s!"unknown generator '{other}'")

/-- `test_macros`: `true` when the checks hold; a failed check aborts. -/
def testMacrosOp (req : Document) : Step Document := do
  if let some a := arg? req "approx" then
    match ← floatsN a 3 with
    | [l, r, eps] => if !Synthetic.approxEq l r eps then throw panicDoc
    | _ => pure ()
  if let some e := arg? req "all_eq" then
    let g ← rasterOf (← arg e "data")
    if !Synthetic.allEq g (← floatArg e "expected") then throw panicDoc
  return .bool true

end Api
end Geocube
