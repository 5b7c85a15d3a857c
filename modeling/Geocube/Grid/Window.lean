/-!
Rectangular blocks of pixels.

A window is a row and column offset together with a height and a width; it
covers the rows `[rowOff, rowOff + height)` and the columns
`[colOff, colOff + width)`. Windows with no rows or no columns are allowed and
are empty. Two windows intersect only when the common block has at least one
pixel.
-/

namespace Geocube

/-- A block of `height × width` pixels whose top-left pixel is `(rowOff, colOff)`. -/
structure Window where
  rowOff : Nat
  colOff : Nat
  height : Nat
  width : Nat
  deriving Inhabited, DecidableEq, Repr

namespace Window

/-- The first row below the block. -/
def rowEnd (w : Window) : Nat := w.rowOff + w.height

/-- The first column right of the block. -/
def colEnd (w : Window) : Nat := w.colOff + w.width

def isEmpty (w : Window) : Bool := w.height == 0 || w.width == 0

/-- `(height, width)`. -/
def shape (w : Window) : Nat × Nat := (w.height, w.width)

/-- The pixels both windows cover, when there is at least one. -/
def intersection (v w : Window) : Option Window :=
  let r0 := max v.rowOff w.rowOff
  let c0 := max v.colOff w.colOff
  let r1 := min v.rowEnd w.rowEnd
  let c1 := min v.colEnd w.colEnd
  if r1 > r0 && c1 > c0 then some ⟨r0, c0, r1 - r0, c1 - c0⟩ else none

/-- Whether `w` lies entirely inside `v`. -/
def contains (v w : Window) : Bool :=
  w.rowOff ≥ v.rowOff && w.colOff ≥ v.colOff && w.rowEnd ≤ v.rowEnd && w.colEnd ≤ v.colEnd

/-- The same block with offsets counted from `origin`'s top-left pixel; an
offset before the origin counts as zero. -/
def relativeTo (w origin : Window) : Window :=
  ⟨w.rowOff - origin.rowOff, w.colOff - origin.colOff, w.height, w.width⟩

/-- Consecutive pieces of at most `step` (at least one) covering `[0, total)`,
each as its start and its length. -/
def pieces (total step : Nat) : List (Nat × Nat) :=
  let step := max step 1
  (List.range ((total + step - 1) / step)).map fun k => (k * step, min step (total - k * step))

/-- How many pieces `pieces total step` has. -/
def pieceCount (total step : Nat) : Nat := (total + max step 1 - 1) / max step 1

/-- The blocks of at most `rows × cols` pixels that tile a `height × width`
grid, row by row. -/
def tiles (height width rows cols : Nat) : List Window :=
  (pieces height rows).flatMap fun (r, h) =>
    (pieces width cols).map fun (c, w) => ⟨r, c, h, w⟩

theorem intersection_comm (v w : Window) : intersection v w = intersection w v := by
  simp only [intersection, rowEnd, colEnd, Nat.max_comm v.rowOff, Nat.max_comm v.colOff,
    Nat.min_comm (v.rowOff + v.height), Nat.min_comm (v.colOff + v.width)]
  rfl

theorem pieces_length (total step : Nat) : (pieces total step).length = pieceCount total step := by
  simp [pieces, pieceCount]

end Window
end Geocube
