import Geocube.Api.Raster
import Geocube.Raster.Mask
import Geocube.Load.Options

/-!
Answers about merging observations and masking planes.
-/

namespace Geocube
namespace Api

/-- A fuser named in a request. -/
def fuserOf (name : String) : Step Fuser :=
  match Fuser.byName? name with
  | some f => .ok f
  | none => .error (badInput s!"unknown fuser '{name}'")

/-- `fuse`: source planes merged into a destination plane in order. -/
def fuseOp (req : Document) : Step Document := do
  let f ← fuserOf (← strArg req "fuser")
  let nodata ← floatArg req "nodata"
  let dst ← rasterOf (← arg req "dst")
  let srcs ← (← listArg req "srcs").mapM rasterOf
  let out ← match f.fuseAll nodata dst srcs with
    | some r => pure r
    | none => throw panicDoc
  let base : List (String × Document) := [("name", .str f.name), ("result", rasterDoc out)]
  if ← boolArgOr req "debug" false then
    return .ofPairs (base ++ [("debug", .str f.text), ("default", .str Fuser.copyFirst.name)])
  return .ofPairs base

/-- `names`: the resampling, failure policy and fuser that names select. -/
def namesOp (req : Document) : Step Document := do
  let mut fields : List (String × Document) := []
  if let some r ← strArg? req "resampling" then
    fields := fields ++ [("resampling", .str (Resampling.ofName r).name)]
  if let some p ← strArg? req "policy" then
    fields := fields ++ [("policy", .str (IoErrorPolicy.ofName p).name)]
  if let some f ← strArg? req "fuser" then
    fields := fields ++ [("fuser", optDoc (Fuser.byName? f) fun f => .str f.name)]
  return .ofPairs fields

def maskDoc (m : Mask) : Document := .arr (m.toRows.map fun row => .arr (row.map .bool))

/-- `mask`: the flags of a band described, and the pixels meeting conditions. -/
def maskOp (req : Document) : Step Document := do
  let flags ← match Decode.mapOf FlagDefinition.decoder (← arg req "flags") with
    | .ok fs => pure fs
    | .error e => throw (catalogErrorDoc (.validation e.message))
  let plane ← rasterOf (← arg req "plane")
  let conditions ← (← listArg req "conditions").mapM fun c => do
    match ← (← list c).mapM str with
    | [f, w] => pure (f, w)
    | _ => throw (badInput "a condition is a flag and a value")
  return .ofPairs [("describe", .arr ((describeFlags flags).map flagDoc)),
    ("mask", inline (makeMask plane flags conditions) maskDoc loadErrorDoc)]

/-- A mask given as rows of booleans. -/
def maskOf (d : Document) : Step Mask := do
  let rows ← (← list d).mapM fun r => do (← list r).mapM bool
  match Plane.ofRows? rows with
  | some m => return m
  | none => throw (badInput "rows of a 2-D array differ in length")

/-- `valid_mask`: the pixels that are not nodata, and optionally a mask applied. -/
def validMaskOp (req : Document) : Step Document := do
  let plane ← rasterOf (← arg req "plane")
  let nodata ← floatArg req "nodata"
  let mut fields : List (String × Document) := [("valid", maskDoc (validDataMask plane nodata))]
  if let some m := arg? req "mask" then
    match applyMask plane (← maskOf m) nodata with
    | some r => fields := fields ++ [("applied", rasterDoc r)]
    | none => throw panicDoc
  return .ofPairs fields

end Api
end Geocube
