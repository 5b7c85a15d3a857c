import Geocube.Grid.GeoBox
import Geocube.Projection.Transformer

/-!
Which source pixels feed which destination pixels.

When both grids are in one system and the destination's pixels are whole
blocks of `kx × ky` source pixels at a whole-pixel offset, the source block is
read as it is: copied when the blocks are single pixels, decimated otherwise.
Blocks that would overlap the source only in part rule this out. In every other
case each grid's outline is traced, sixteen points an edge, into the other
grid's pixel space, the destination part is the traced box rounded outwards and
clipped, and the source part is the traced box of that destination part with a
margin of two pixels for the resampling kernels.

No window is found when either grid is empty or has a transform without an
inverse, or when the grids do not overlap.
-/

namespace Geocube

/-- How source pixels become destination pixels. -/
inductive ReadStrategy where
  /-- Same system and pixel size at a whole-pixel offset: a plain copy. -/
  | copy
  /-- Each destination pixel covers exactly `x × y` source pixels. -/
  | decimate (x y : Nat)
  /-- Anything else: a resampling warp per pixel. -/
  | resample
  deriving Inhabited, DecidableEq, Repr

/-- The source block to read and the destination block it fills. -/
structure ReadWindow where
  src : Window
  dst : Window
  strategy : ReadStrategy
  deriving Inhabited, DecidableEq

namespace ReadWindow

def needsResampling (r : ReadWindow) : Bool := r.strategy == .resample

/-- Points per edge when tracing a grid outline through a reprojection. -/
def edgeSegments : Nat := 16

/-- Extra source pixels read around a resampled window. -/
def resampleMargin : Float := 2.0

/-- How the destination indices whose blocks `[t + j*k, t + (j+1)*k)` meet the
source `[0, srcLen)` relate to it: none meet it, all that meet it lie inside,
or some only overlap it. -/
inductive BlockSpan where
  | empty
  | full (lo hi : Int)
  | straddling
  deriving DecidableEq

/-- The signed 64-bit word congruent to `x` modulo `2^64`: what a wrapping
operation on words leaves, and what a count becomes as a signed word. -/
def Word.wrap (x : Int) : Int := (x + (pow2 63 : Int)) % (pow2 64 : Int) - (pow2 63 : Int)

/-- A signed word as an unsigned count: its residue modulo `2^64`. A chain of
wrapping operations cast to a count gives the residue of the exact result, so a
window field is computed as that. -/
def Word.toUsize (x : Int) : Nat := (x % (pow2 64 : Int)).toNat

/-- Division rounding down and up, for a positive divisor, on words: the two
negations around the ceiling wrap. -/
def floorDiv (a k : Int) : Int := a / k

def ceilDiv (a k : Int) : Int := Word.wrap (-(Word.wrap (-a) / k))

/-- The destination range `[lo, hi)` of blocks of `k` source pixels starting at
source pixel `t` that meet a source of `srcLen` pixels, clipped to `dstLen`, in
word arithmetic: `-t` and `srcLen - t` wrap. -/
def blockSpan (t k srcLen dstLen : Int) : BlockSpan :=
  let anyLo := max (floorDiv (Word.wrap (-t)) k) 0
  let anyHi := min (ceilDiv (Word.wrap (srcLen - t)) k) dstLen
  if anyHi ≤ anyLo then .empty
  else
    let fullLo := max (ceilDiv (Word.wrap (-t)) k) 0
    let fullHi := min (floorDiv (Word.wrap (srcLen - t)) k) dstLen
    if fullLo == anyLo && fullHi == anyHi then .full fullLo fullHi else .straddling

/-- A rounded double as a signed 64-bit count, saturating. -/
def roundedWord (x : Float) : Int :=
  Binary64.toIntClamped (Binary64.roundHalfAway x) (-(pow2 63)) (pow2 63 - 1)

/-- A copy or decimation when `rel` (destination pixels to source pixels) maps
pixels onto whole blocks: the outer `none` means the grids are not block
aligned, `some none` that they are but do not overlap. -/
def aligned (src dst : GeoBox) (rel : Affine) : Option (Option ReadWindow) :=
  if !rel.isRectilinear || !rel.hasIntegerTranslation then none
  else
    let (sx, sy) := rel.resolution
    if sx < 0.5 || sy < 0.5 || !Affine.isWhole sx || !Affine.isWhole sy then none
    else
      let kx := roundedWord sx
      let ky := roundedWord sy
      let tx := roundedWord rel.origin.1
      let ty := roundedWord rel.origin.2
      match blockSpan tx kx (Word.wrap src.width) (Word.wrap dst.width),
          blockSpan ty ky (Word.wrap src.height) (Word.wrap dst.height) with
      | .full c0 c1, .full r0 r1 =>
        let strategy := if kx == 1 && ky == 1 then ReadStrategy.copy
          else .decimate (Word.toUsize kx) (Word.toUsize ky)
        some (some ⟨⟨Word.toUsize (ty + r0 * ky), Word.toUsize (tx + c0 * kx),
            Word.toUsize ((r1 - r0) * ky), Word.toUsize ((c1 - c0) * kx)⟩,
          ⟨Word.toUsize r0, Word.toUsize c0, Word.toUsize (r1 - r0), Word.toUsize (c1 - c0)⟩, strategy⟩)
      | .empty, _ | _, .empty => some none
      | _, _ => none

/-- The densified outline of a window of a grid, in map coordinates. -/
def outline (g : GeoBox) (w : Window) : List (Float × Float) :=
  let pixels : BoundingBox := ⟨pixelsF w.colOff, pixelsF w.rowOff, pixelsF w.colEnd, pixelsF w.rowEnd⟩
  (pixels.densified edgeSegments).map fun (col, row) => g.affine.apply col row

/-- The box around map points in the pixel space of an inverse transform. -/
def pixelBounds (ps : List (Float × Float)) (inverse : Affine) : Option BoundingBox :=
  BoundingBox.ofPoints (ps.map fun (x, y) => inverse.apply x y)

/-- Pixel bounds rounded outwards and clipped to a grid of `shape`; nothing
when no pixel is left. -/
def clip (b : BoundingBox) (shape : Nat × Nat) : Option Window :=
  let c0 := fmax (Affine.snapFloor b.minX) 0.0
  let r0 := fmax (Affine.snapFloor b.minY) 0.0
  let c1 := fmin (Affine.snapCeil b.maxX) (pixelsF shape.2)
  let r1 := fmin (Affine.snapCeil b.maxY) (pixelsF shape.1)
  if c1 ≤ c0 || r1 ≤ r0 then none
  else some ⟨Binary64.toNatClamped r0, Binary64.toNatClamped c0,
    Binary64.toNatClamped (r1 - r0), Binary64.toNatClamped (c1 - c0)⟩

/-- The general case: trace each grid's outline into the other's pixels. -/
def warped (src dst : GeoBox) (srcInv dstInv : Affine) : Option ReadWindow := do
  let toDst : Transformer := ⟨src.crs, dst.crs⟩
  let toSrc : Transformer := ⟨dst.crs, src.crs⟩
  let inDst ← pixelBounds (toDst.applyAll (outline src src.fullWindow)) dstInv
  let dstWindow ← clip inDst dst.shape
  let inSrc := match pixelBounds (toSrc.applyAll (outline dst dstWindow)) srcInv with
    | some b => b.buffered resampleMargin
    | none => ⟨0.0, 0.0, pixelsF src.width, pixelsF src.height⟩
  let srcWindow ← clip inSrc src.shape
  return ⟨srcWindow, dstWindow, .resample⟩

end ReadWindow

/-- The part of `src` to read to fill part of `dst`, and how. -/
def computeReadWindow (src dst : GeoBox) : Option ReadWindow :=
  if src.isEmpty || dst.isEmpty then none
  else
    match src.affine.inverse, dst.affine.inverse with
    | .ok srcInv, .ok dstInv =>
      let blocks := if src.crs == dst.crs then ReadWindow.aligned src dst (srcInv * dst.affine) else none
      match blocks with
      | some r => r
      | none => ReadWindow.warped src dst srcInv dstInv
    | _, _ => none

end Geocube
