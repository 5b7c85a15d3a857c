import Geocube.Raster.Basic
import Geocube.Grid.GeoBox
import Geocube.Text.Case

/-!
Resampling kernels.

Kernels read a raster at positions in index space, where pixel `i` is centred
on `i`; a position off the block, or a NaN position, reads as NaN. Nearest
neighbour takes the pixel whose square holds the position, found by rounding the
position half up in doubles; where that rounding carries a position past the last
pixel, the read fails. Bilinear interpolation clamps the position into the
centres of the outer pixels and blends the four pixels around it; any NaN among
them gives NaN. The cubic
kernel is a Catmull-Rom spline through the 4 × 4 pixels around the position,
with indices clamped to the block; next to a NaN it gives the bilinear value.

An area average is the mean of the non-NaN pixels whose centres lie in a
half-open box of pixel corners; a box holding no centre has no average, and a
box holding only NaN pixels averages to NaN.
-/

namespace Geocube

/-- How values are read between pixel centres. -/
inductive Resampling where
  | nearest
  | bilinear
  | cubic
  | average
  deriving Inhabited, DecidableEq, Repr

namespace Resampling

/-- The method a name selects, ignoring case; unknown names select nearest
neighbour. -/
def ofName (s : String) : Resampling :=
  match Text.lower s with
  | "bilinear" => .bilinear
  | "cubic" | "bicubic" => .cubic
  | "average" | "mean" => .average
  | _ => .nearest

def name : Resampling → String
  | .nearest => "nearest"
  | .bilinear => "bilinear"
  | .cubic => "cubic"
  | .average => "average"

section Kernels

variable {α : Type} [Add α] [Sub α] [Mul α] [Neg α] [OfScientific α] [LT α] [LE α]
  [DecidableRel (α := α) (· < ·)] [DecidableRel (α := α) (· ≤ ·)] [Scalar α]

/-- The value of pixel `(row, col)`; NaN outside the block. -/
def pixel (r : Plane α) (row col : Nat) : α := (r.get? row col).getD Scalar.nan

/-- Whether `(x, y)` falls on some pixel of the raster. -/
def onGrid (r : Plane α) (x y : α) : Bool :=
  x ≥ -0.5 && y ≥ -0.5 && x < Scalar.ofInt r.width - 0.5 && y < Scalar.ofInt r.height - 0.5

/-- A number that is a valid index, as a count. -/
def index (x : α) : Nat := Scalar.toNatClamped x

/-- The pixel whose square holds the position, NaN off the grid; `none` when
the rounded position names no pixel of the block. -/
def nearestAt (r : Plane α) (x y : α) : Option α :=
  if !onGrid r x y then some Scalar.nan
  else r.get? (index (Scalar.floor (y + 0.5))) (index (Scalar.floor (x + 0.5)))

/-- Clamp into `[lo, hi]`. -/
def clampTo (x lo hi : α) : α := if x < lo then lo else if x > hi then hi else x

/-- The blend of the four pixels around the position. -/
def bilinearAt (r : Plane α) (x y : α) : α :=
  if !onGrid r x y then Scalar.nan
  else
    let x := clampTo x 0.0 (Scalar.ofInt (r.width - 1 : Nat))
    let y := clampTo y 0.0 (Scalar.ofInt (r.height - 1 : Nat))
    let x0 := index (Scalar.floor x)
    let y0 := index (Scalar.floor y)
    let x1 := min (x0 + 1) (r.width - 1)
    let y1 := min (y0 + 1) (r.height - 1)
    let xf := x - Scalar.ofInt x0
    let yf := y - Scalar.ofInt y0
    let v00 := pixel r y0 x0
    let v10 := pixel r y0 x1
    let v01 := pixel r y1 x0
    let v11 := pixel r y1 x1
    if Scalar.isNaN v00 || Scalar.isNaN v10 || Scalar.isNaN v01 || Scalar.isNaN v11 then Scalar.nan
    else
      let top := v00 * (1.0 - xf) + v10 * xf
      let bottom := v01 * (1.0 - xf) + v11 * xf
      top * (1.0 - yf) + bottom * yf

/-- The Catmull-Rom spline through four values, at `t` between the middle two. -/
def cubic1 (p0 p1 p2 p3 t : α) : α :=
  let t2 := t * t
  let t3 := t2 * t
  let a := -0.5 * p0 + 1.5 * p1 - 1.5 * p2 + 0.5 * p3
  let b := p0 - 2.5 * p1 + 2.0 * p2 - 0.5 * p3
  let c := -0.5 * p0 + 0.5 * p2
  a * t3 + b * t2 + c * t + p1

/-- The spline through a row of four values, at `t` between the middle two. -/
def spline (vs : List α) (t : α) : α :=
  match vs with
  | [p0, p1, p2, p3] => cubic1 p0 p1 p2 p3 t
  | _ => Scalar.nan

/-- An index shifted by `d` and clamped into `[0, n)`. -/
def clampIndex (i d : Int) (n : Nat) : Nat := (max 0 (min (i + d) ((n : Int) - 1))).toNat

/-- The cubic spline through the 4 × 4 pixels around the position, or the
bilinear blend when one of them is NaN. -/
def cubicAt (r : Plane α) (x y : α) : α :=
  if !onGrid r x y then Scalar.nan
  else
    let xi := Scalar.toIntClamped (Scalar.floor x) (-(pow2 63)) (pow2 63 - 1)
    let yi := Scalar.toIntClamped (Scalar.floor y) (-(pow2 63)) (pow2 63 - 1)
    let xf := x - Scalar.ofInt xi
    let yf := y - Scalar.ofInt yi
    let offsets : List Int := [-1, 0, 1, 2]
    let values := offsets.map fun dj => offsets.map fun di =>
      pixel r (clampIndex yi dj r.height) (clampIndex xi di r.width)
    if values.any (·.any Scalar.isNaN) then bilinearAt r x y
    else spline (values.map fun row => spline row xf) yf

/-- Read the raster at a position with a method; averaging reads the nearest
pixel. `none` when a nearest read names no pixel of the block. -/
def sample (m : Resampling) (r : Plane α) (x y : α) : Option α :=
  match m with
  | .nearest | .average => nearestAt r x y
  | .bilinear => some (bilinearAt r x y)
  | .cubic => some (cubicAt r x y)

end Kernels

end Resampling

section Reduce

variable {α : Type} [Add α] [Sub α] [Mul α] [Div α] [Neg α] [OfScientific α] [LT α] [LE α]
  [DecidableRel (α := α) (· < ·)] [DecidableRel (α := α) (· ≤ ·)] [Scalar α]

/-- A corner coordinate as the first pixel index whose centre is at or after it. -/
def firstCentre (v : α) : Nat := Resampling.index (Scalar.fmax (Scalar.ceil (v - 0.5)) 0.0)

/-- The mean of the non-NaN pixels whose centres lie in `[x0, x1) × [y0, y1)`;
none when no centre lies there, NaN when all those pixels are NaN. -/
def areaAverage (r : Plane α) (x0 y0 x1 y1 : α) : Option α :=
  let c0 := firstCentre x0
  let r0 := firstCentre y0
  let c1 := min (firstCentre x1) r.width
  let r1 := min (firstCentre y1) r.height
  if c1 ≤ c0 || r1 ≤ r0 then none
  else
    let vs := ((List.range (r1 - r0)).flatMap fun i =>
      (List.range (c1 - c0)).map fun j => Resampling.pixel r (r0 + i) (c0 + j)).filter
        (!Scalar.isNaN ·)
    let sum := vs.foldl (· + ·) 0.0
    some (if vs.isEmpty then Scalar.nan else sum / Scalar.ofInt (vs.length : Int))

/-- Reduce by whole `kx × ky` blocks (a zero counts as one), each block read by
the method at its centre or, for averaging, as the mean of its pixels. The
result has `height / ky` rows and `width / kx` columns. -/
def decimate (r : Plane α) (kx ky : Nat) (m : Resampling) : Plane α :=
  let kx := max kx 1
  let ky := max ky 1
  Plane.ofFn (r.height / ky) (r.width / kx) fun row col =>
    let x0 : α := Scalar.ofInt ((col * kx : Nat) : Int)
    let y0 : α := Scalar.ofInt ((row * ky : Nat) : Int)
    match m with
    | .average =>
      (areaAverage r x0 y0 (x0 + Scalar.ofInt (kx : Int)) (y0 + Scalar.ofInt (ky : Int))).getD
        Scalar.nan
    -- a block centre names a pixel of the block unless the raster is over 2^52
    -- pixels wide; a read that names none gives NaN
    | _ => (m.sample r (x0 + (Scalar.ofInt (kx : Int) - 1.0) / 2.0)
      (y0 + (Scalar.ofInt (ky : Int) - 1.0) / 2.0)).getD Scalar.nan

/-- The smallest box `(minX, minY, maxX, maxY)` holding the finite points;
`none` when there is none. -/
def finiteSpan (ps : List (α × α)) : Option (α × α × α × α) :=
  match ps.filter (fun p => Scalar.isFinite p.1 && Scalar.isFinite p.2) with
  | [] => none
  | p :: rest => some (rest.foldl (fun (x0, y0, x1, y1) q =>
      (Scalar.fmin x0 q.1, Scalar.fmin y0 q.2, Scalar.fmax x1 q.1, Scalar.fmax y1 q.2))
      (p.1, p.2, p.1, p.2))

/-- Resample onto a grid of `height × width` pixels whose pixel corners `toSrc`
carries into the pixel space of the source: each pixel centre is read there,
and averaging takes the mean over the source box its corners span. A centre
with no image stays NaN. -/
def warpWith (src : Plane α) (height width : Nat) (toSrc : α → α → α × α) (m : Resampling) :
    Plane α :=
  Plane.ofFn height width fun row col =>
    let c : α := Scalar.ofInt (col : Int)
    let r : α := Scalar.ofInt (row : Int)
    let (px, py) := toSrc (c + 0.5) (r + 0.5)
    if Scalar.isNaN px then Scalar.nan
    else match m with
      | .average =>
        let corners := [toSrc c r, toSrc (c + 1.0) r, toSrc c (r + 1.0), toSrc (c + 1.0) (r + 1.0)]
        match (finiteSpan corners).bind fun (x0, y0, x1, y1) => areaAverage src x0 y0 x1 y1 with
        | some v => v
        | none => (Resampling.nearestAt src (px - 0.5) (py - 0.5)).getD Scalar.nan
      -- `px - 0.5` is exact below 2^52, so a read names no pixel only on a raster
      -- over 2^52 pixels wide; it then gives NaN
      | _ => (m.sample src (px - 0.5) (py - 0.5)).getD Scalar.nan

end Reduce

/-- Warp a raster covering `srcGrid` onto `dstGrid`: each destination pixel
corner is carried into the source system and pixel space, and the raster is
resampled through that map (`warpWith`). Pixels with no image stay NaN. A
source transform without an inverse is refused. -/
def warp (src : Raster) (srcGrid dstGrid : GeoBox) (m : Resampling) : Except GeoError Raster := do
  let srcInv ← srcGrid.affine.inverse
  let toSrcCrs : Transformer := ⟨dstGrid.crs, srcGrid.crs⟩
  let toSrc := fun (col row : Float) =>
    let (x, y) := dstGrid.affine.apply col row
    let (sx, sy) := toSrcCrs.apply x y
    if !sx.isFinite || !sy.isFinite then (Binary64.nan, Binary64.nan) else srcInv.apply sx sy
  return warpWith src dstGrid.height dstGrid.width toSrc m

theorem Resampling.ofName_name (m : Resampling) : Resampling.ofName m.name = m := by
  cases m <;> rfl

end Geocube
