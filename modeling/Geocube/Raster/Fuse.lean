import Geocube.Raster.Basic
import Geocube.Text.Case

/-!
How overlapping observations merge into one plane.

A fuser merges a source plane into a destination plane pixel by pixel, given
the band's nodata value: a pixel is missing when it equals the nodata value or
is NaN (a NaN nodata value marks only NaN pixels). Datasets are merged one after
another, so the order-sensitive fusers depend on that order.
-/

namespace Geocube

/-- Whether a value counts as missing for a nodata value. -/
def isNodata (v nodata : Float) : Bool :=
  if nodata.isNaN then v.isNaN else v == nodata || v.isNaN

/-- A rule for merging one observation into another. -/
inductive Fuser where
  /-- The first valid observation wins. -/
  | copyFirst
  /-- The last valid observation wins. -/
  | copyLast
  | max
  | min
  deriving Inhabited, DecidableEq, Repr

namespace Fuser

def name : Fuser → String
  | .copyFirst => "copy_first"
  | .copyLast => "copy_last"
  | .max => "max"
  | .min => "min"

/-- The fuser a product's `fuse` property names, ignoring case. -/
def byName? (s : String) : Option Fuser :=
  match Text.lower s with
  | "copy_first" | "first" => some .copyFirst
  | "copy_last" | "last" | "most_recent" => some .copyLast
  | "max" => some .max
  | "min" => some .min
  | _ => none

/-- The merged value of a destination pixel `d` and a source pixel `s`. -/
def pick (f : Fuser) (nodata d s : Float) : Float :=
  let valid := !isNodata s nodata
  match f with
  | .copyFirst => if isNodata d nodata && valid then s else d
  | .copyLast => if valid then s else d
  | .max => if valid && (isNodata d nodata || s > d) then s else d
  | .min => if valid && (isNodata d nodata || s < d) then s else d

/-- Merge a source plane into a destination plane of the same shape. -/
def apply (f : Fuser) (dst src : Raster) (nodata : Float) : Option Raster :=
  Plane.zipWith? (f.pick nodata) dst src

/-- Merge source planes into a destination plane one after another; `none` when
a source's shape differs from the destination's. -/
def fuseAll (f : Fuser) (nodata : Float) (dst : Raster) (srcs : List Raster) : Option Raster :=
  srcs.foldlM (fun out s => f.apply out s nodata) dst

/-- The text diagnostics show for a fuser. -/
def text (f : Fuser) : String := "Fuser(\"" ++ f.name ++ "\")"

theorem byName_name (f : Fuser) : byName? f.name = some f := by
  cases f <;> rfl

end Fuser
end Geocube
