import Geocube.Api.Projection
import Geocube.Api.Product
import Geocube.Grid.ReadWindow

/-!
Answers about affine transforms, windows and pixel grids.
-/

namespace Geocube
namespace Api

/-- Six coefficients `[a, b, c, d, e, f]`. -/
def affineOf (d : Document) : Step Affine := do
  match Affine.ofList? (← floats d) with
  | some t => return t
  | none => throw (badInput "affine needs 6 numbers")

def affineDoc (t : Affine) : Document := .arr (t.coeffs.map fl)

def natPairDoc (p : Nat × Nat) : Document := .arr [.int p.1, .int p.2]

/-- Two counts `[a, b]`. -/
def natPair (d : Document) : Step (Nat × Nat) := do
  match ← (← list d).mapM nat with
  | [a, b] => return (a, b)
  | _ => throw (badInput "expected two integers")

/-- A window `[row_off, col_off, height, width]`. -/
def windowOf (d : Document) : Step Window := do
  match ← (← list d).mapM nat with
  | [r, c, h, w] => return ⟨r, c, h, w⟩
  | _ => throw (badInput "a window needs 4 integers")

def windowDoc (w : Window) : Document := .arr [.int w.rowOff, .int w.colOff, .int w.height, .int w.width]

/-- A grid `{crs, shape, affine}`. -/
def geoboxOf (d : Document) : Step GeoBox := do
  return ⟨← crsArg d "crs", ← affineOf (← arg d "affine"), ← natPair (← arg d "shape")⟩

def geoboxDoc (g : GeoBox) : Document :=
  .ofPairs [("crs", .str g.crs.name), ("shape", natPairDoc g.shape), ("affine", affineDoc g.affine)]

/-- `affine`: a transform's coefficients, inverse, checks, and optionally its
product with a second transform and the images of points. -/
def affineOp (req : Document) : Step Document := do
  let t ← affineOf (← arg req "a")
  let mut fields : List (String × Document) :=
    [("coeffs", affineDoc t), ("inverse", inline t.inverse affineDoc geoErrorDoc),
     ("rectilinear", .bool t.isRectilinear), ("integer_translation", .bool t.hasIntegerTranslation),
     ("resolution", pointDoc t.resolution), ("origin", pointDoc t.origin)]
  if let some u := arg? req "b" then
    fields := fields ++ [("compose", affineDoc (t * (← affineOf u)))]
  if let some ps := arg? req "points" then
    fields := fields ++ [("apply", pointsDoc ((← points ps).map fun (x, y) => t.apply x y))]
  return .ofPairs fields

/-- `affine_ctors`: the named constructors and their products. -/
def affineCtorsOp (req : Document) : Step Document := do
  let (tx, ty) ← point (← arg req "translation")
  let (sx, sy) ← point (← arg req "scale")
  let tr := Affine.translation tx ty
  let sc := Affine.scale sx sy
  return .ofPairs [("identity", affineDoc Affine.identity), ("default", affineDoc Affine.identity),
    ("translation", affineDoc tr), ("scale", affineDoc sc),
    ("translation_times_scale", affineDoc (tr * sc)), ("scale_times_translation", affineDoc (sc * tr)),
    ("from_coeffs", affineDoc (Affine.new sx 0.0 tx 0.0 sy ty))]

/-- `window`: a window's measures and its relations to a second window. -/
def windowOp (req : Document) : Step Document := do
  let a ← windowOf (← arg req "a")
  let mut fields : List (String × Document) :=
    [("row_end", .int a.rowEnd), ("col_end", .int a.colEnd), ("is_empty", .bool a.isEmpty),
     ("shape", natPairDoc a.shape)]
  if let some b := arg? req "b" then
    let b ← windowOf b
    fields := fields ++ [("intersection", optDoc (a.intersection b) windowDoc),
      ("contains", .bool (a.contains b)), ("relative_to", windowDoc (a.relativeTo b))]
  return .ofPairs fields

/-- An alignment `[x, y]`, when given. -/
def alignArg (req : Document) : Step (Option (Float × Float)) := do
  match arg? req "align" with
  | some d => return some (← point d)
  | none => return none

/-- Grids with at most this many pixels a side list their centre coordinates. -/
def coordsSideLimit : Nat := 2048

/-- Requests may tile a grid into at most this many windows. -/
def chunkLimit : Nat := 100000

/-- `geobox`: a grid given directly, around a box or around a geometry, with its
corners, extent and windows. -/
def geoboxOp (req : Document) : Step Document := do
  let g ← match arg? req "geobox" with
    | some d => geoboxOf d
    | none =>
      let c ← crsArg req "crs"
      let res ← point (← arg req "resolution")
      let align ← alignArg req
      match arg? req "bbox" with
      | some b => geo (GeoBox.ofBox (← bbox b) c res align)
      | none => geo (GeoBox.ofGeometry (← geometryArg (← arg req "geometry")) c res align)
  let mut fields : List (String × Document) :=
    [("geobox", geoboxDoc g), ("is_empty", .bool g.isEmpty), ("corners", pointsDoc g.corners),
     ("bounding_box", bboxDoc g.boundingBox), ("extent", inline g.extent geometryDoc geoErrorDoc),
     ("full_window", windowDoc g.fullWindow)]
  if g.height ≤ coordsSideLimit && g.width ≤ coordsSideLimit then
    fields := fields ++ [("coords_x", .arr (g.coordsX.map fl)), ("coords_y", .arr (g.coordsY.map fl))]
  if let some ps := arg? req "pixels" then
    let ps ← (← list ps).mapM natPair
    fields := fields ++ [("pixel_centers", pointsDoc (ps.map fun (r, c) => g.pixelCenter r c))]
  if let some w := arg? req "window" then
    fields := fields ++ [("window", geoboxDoc (g.window (← windowOf w)))]
  if let some ch := arg? req "chunks" then
    let ch ← natPair ch
    if g.chunkCount ch > chunkLimit then throw (badInput "too many chunks")
    fields := fields ++ [("chunks", .arr ((g.chunks ch).map windowDoc))]
  return .ofPairs fields

/-- `gridspec`: a grid recipe from a system and resolution or from a product's
load hints, and the grid it gives for a box or a geometry. -/
def gridspecOp (req : Document) : Step Document := do
  let spec ← match arg? req "load_hints" with
    | some h =>
      match LoadHints.decoder h with
      | .ok l => pure (⟨l.crs, (l.resolution.x, l.resolution.y), l.align.map fun a => (a.x, a.y)⟩ : GridSpec)
      | .error e => throw (catalogErrorDoc (.validation e.message))
    | none => pure ⟨← crsArg req "crs", ← point (← arg req "resolution"), none⟩
  let spec := match ← alignArg req with
    | some (x, y) => spec.withAlign x y
    | none => spec
  let built ← match arg? req "bbox" with
    | some b => pure (some (spec.geoboxForBox (← bbox b)))
    | none => match arg? req "geometry" with
      | some g => pure (some (spec.geoboxFor (← geometryArg g)))
      | none => pure none
  let mut fields : List (String × Document) :=
    [("crs", .str spec.crs.name), ("resolution", pointDoc spec.resolution),
     ("align", optDoc spec.align pointDoc)]
  if let some r := built then
    fields := fields ++ [("geobox", inline r (fun g =>
      match geoboxDoc g with
      | .obj fs => .ofPairs (fs ++ [("resolution", pointDoc g.resolution)])
      | d => d) geoErrorDoc)]
  return .ofPairs fields

def strategyDoc : ReadStrategy → Document
  | .copy => .str "Copy"
  | .decimate x y => .ofPairs [("Decimate", .arr [.int x, .int y])]
  | .resample => .str "Resample"

def readWindowDoc (r : ReadWindow) : Document :=
  .ofPairs [("src_window", windowDoc r.src), ("dst_window", windowDoc r.dst),
    ("strategy", strategyDoc r.strategy), ("needs_resampling", .bool r.needsResampling)]

/-- `read_window`: which part of one grid fills which part of another. -/
def readWindowOp (req : Document) : Step Document := do
  let src ← geoboxOf (← arg req "src")
  let dst ← geoboxOf (← arg req "dst")
  return optDoc (computeReadWindow src dst) readWindowDoc

end Api
end Geocube
