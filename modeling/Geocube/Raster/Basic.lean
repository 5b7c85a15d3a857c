import Geocube.Binary64

/-!
Two-dimensional blocks of pixels.

A plane stores `height × width` values row by row. A raster is a plane of
doubles in which NaN stands for a missing value, and reading outside the block
gives NaN as well; a mask is a plane of booleans.
-/

namespace Geocube

/-- A `height × width` block of values stored row by row. -/
structure Plane (α : Type) where
  height : Nat
  width : Nat
  cells : Array α
  size_eq : cells.size = height * width

namespace Plane

variable {α β γ : Type}

/-- The plane whose pixel `(row, col)` is `f row col`. -/
def ofFn (height width : Nat) (f : Nat → Nat → α) : Plane α :=
  ⟨height, width, Array.ofFn (n := height * width) fun i => f (i.val / width) (i.val % width),
    Array.size_ofFn⟩

/-- `(height, width)`. -/
def shape (p : Plane α) : Nat × Nat := (p.height, p.width)

/-- The value of pixel `(row, col)`, if it is inside the block. -/
def get? (p : Plane α) (row col : Nat) : Option α :=
  if row < p.height && col < p.width then p.cells[row * p.width + col]? else none

/-- Rows of equal length; `none` when they differ. The empty list is the
`0 × 0` plane. -/
def ofRows? (rows : List (List α)) : Option (Plane α) :=
  let width := (rows.head?.map List.length).getD 0
  if rows.all (·.length == width) then
    let flat := rows.flatten.toArray
    if h : flat.size = rows.length * width then some ⟨rows.length, width, flat, h⟩ else none
  else none

/-- The rows, top first. -/
def toRows (p : Plane α) : List (List α) :=
  (List.range p.height).map fun row => (p.cells.extract (row * p.width) (row * p.width + p.width)).toList

/-- The same shape with every value mapped. -/
def map (f : α → β) (p : Plane α) : Plane β :=
  ⟨p.height, p.width, p.cells.map f, by simp [p.size_eq]⟩

/-- Two planes of one shape combined pixel by pixel; `none` when the shapes differ. -/
def zipWith? (f : α → β → γ) (p : Plane α) (q : Plane β) : Option (Plane γ) :=
  if h : p.height = q.height ∧ p.width = q.width then
    some ⟨p.height, p.width, Array.zipWith f p.cells q.cells, by
      simp [p.size_eq, q.size_eq, h.1, h.2]⟩
  else none

theorem shape_ofFn (height width : Nat) (f : Nat → Nat → α) :
    (ofFn height width f).shape = (height, width) := rfl

theorem toRows_length (p : Plane α) : p.toRows.length = p.height := by
  simp [toRows]

theorem shape_map (f : α → β) (p : Plane α) : (p.map f).shape = p.shape := rfl

/-- Pixel `(row, col)` of a plane built from a function is the function's value
there. -/
theorem get?_ofFn {height width row col : Nat} {f : Nat → Nat → α} (hr : row < height)
    (hc : col < width) : (ofFn height width f).get? row col = some (f row col) := by
  have hw : 0 < width := by omega
  have hrows : (row + 1) * width ≤ height * width := Nat.mul_le_mul_right width hr
  have hidx : row * width + col < height * width := by
    rw [Nat.succ_mul] at hrows
    omega
  have hdiv : (row * width + col) / width = row := by
    rw [Nat.add_comm, Nat.add_mul_div_right col row hw, Nat.div_eq_of_lt hc, Nat.zero_add]
  simp [get?, ofFn, hr, hc, hidx, hdiv, Nat.mod_eq_of_lt hc]

end Plane

/-- A block of doubles in which NaN marks a missing value. -/
abbrev Raster := Plane Float

/-- A block of pixel selections. -/
abbrev Mask := Plane Bool

namespace Raster

/-- A raster with every pixel equal to `v`. -/
def filled (height width : Nat) (v : Float) : Raster := Plane.ofFn height width fun _ _ => v

/-- The value of pixel `(row, col)`; NaN outside the block. -/
def get (r : Raster) (row col : Nat) : Float := (r.get? row col).getD Binary64.nan

theorem get_ofFn {height width row col : Nat} {f : Nat → Nat → Float} (hr : row < height)
    (hc : col < width) : Raster.get (Plane.ofFn height width f) row col = f row col := by
  rw [get, Plane.get?_ofFn hr hc, Option.getD_some]

end Raster

instance : Inhabited Raster := ⟨Raster.filled 0 0 0.0⟩

end Geocube
