import Geocube.Geo.Error
import Geocube.Geo.Scalar

/-!
Affine transforms from pixel positions to map coordinates.

A transform is kept as the full homogeneous matrix
`[[a, b, c], [d, e, f], [g, h, i]]`, so that `x = a*col + b*row + c` and
`y = d*col + e*row + f` when the last row is `[0, 0, 1]`. The last row is kept
rather than assumed because an inverse or a product computes it like any other
entry, and a non-finite coefficient can spoil it.

Every entry of a product is the dot product of a row and a column summed left to
right, and the inverse is the adjugate divided by the determinant, which is
expanded along the first row; a zero determinant has no inverse. Applying a
transform divides by the homogeneous coordinate whenever it is not zero.
-/

namespace Geocube

/-- A homogeneous 3 × 3 matrix acting on pixel positions. -/
structure Affine where
  a : Float
  b : Float
  c : Float
  d : Float
  e : Float
  f : Float
  g : Float
  h : Float
  i : Float
  deriving Inhabited

namespace Affine

/-- The transform with coefficients `[a, b, c, d, e, f]` and last row `[0, 0, 1]`. -/
def new (a b c d e f : Float) : Affine := ⟨a, b, c, d, e, f, 0.0, 0.0, 1.0⟩

/-- The transform of six listed coefficients `[a, b, c, d, e, f]`. -/
def ofList? : List Float → Option Affine
  | [a, b, c, d, e, f] => some (new a b c d e f)
  | _ => none

def identity : Affine := new 1.0 0.0 0.0 0.0 1.0 0.0

def translation (x y : Float) : Affine := new 1.0 0.0 x 0.0 1.0 y

def scale (x y : Float) : Affine := new x 0.0 0.0 0.0 y 0.0

/-- The six coefficients `[a, b, c, d, e, f]`. -/
def coeffs (t : Affine) : List Float := [t.a, t.b, t.c, t.d, t.e, t.f]

/-- The rows of the matrix. -/
def rows (t : Affine) : List (Float × Float × Float) :=
  [(t.a, t.b, t.c), (t.d, t.e, t.f), (t.g, t.h, t.i)]

/-- `x*p + y*q + z*r`, summed left to right. -/
def dot3 (x y z p q r : Float) : Float := x * p + y * q + z * r

/-- `s ∘ t`: the transform that applies `t` first, then `s`. -/
def compose (s t : Affine) : Affine where
  a := dot3 s.a s.b s.c t.a t.d t.g
  b := dot3 s.a s.b s.c t.b t.e t.h
  c := dot3 s.a s.b s.c t.c t.f t.i
  d := dot3 s.d s.e s.f t.a t.d t.g
  e := dot3 s.d s.e s.f t.b t.e t.h
  f := dot3 s.d s.e s.f t.c t.f t.i
  g := dot3 s.g s.h s.i t.a t.d t.g
  h := dot3 s.g s.h s.i t.b t.e t.h
  i := dot3 s.g s.h s.i t.c t.f t.i

instance : Mul Affine := ⟨compose⟩

/-- The coefficients as failure messages show them: `[a, b, c, d, e, f]`, each
number in its shortest form with no exponent sign. -/
def coeffsText (t : Affine) : String :=
  "[" ++ ", ".intercalate (t.coeffs.map Decimal.inspectText) ++ "]"

/-- The inverse matrix, by cofactors over the determinant; a zero determinant
(of either sign) has none. A NaN determinant is not zero and gives NaN entries. -/
def inverse (t : Affine) : Except GeoError Affine :=
  let minor0 := t.e * t.i - t.h * t.f
  let minor1 := t.d * t.i - t.g * t.f
  let minor2 := t.d * t.h - t.g * t.e
  let det := t.a * minor0 - t.b * minor1 + t.c * minor2
  if det == 0.0 then .error (.nonInvertible t.coeffsText)
  else .ok {
    a := minor0 / det
    b := (t.c * t.h - t.i * t.b) / det
    c := (t.b * t.f - t.e * t.c) / det
    d := (-minor1) / det
    e := (t.a * t.i - t.g * t.c) / det
    f := (t.c * t.d - t.f * t.a) / det
    g := minor2 / det
    h := (t.b * t.g - t.h * t.a) / det
    i := (t.a * t.e - t.d * t.b) / det }

/-- The image of a point: the linear part plus the translation, divided by the
homogeneous coordinate when that is not zero. -/
def apply (t : Affine) (x y : Float) : Float × Float :=
  let n := 0.0 + t.g * x + t.h * y + t.i
  let px := t.a * x + t.b * y + t.c
  let py := t.d * x + t.e * y + t.f
  if n == 0.0 then (px, py) else (px / n, py / n)

section Snap

variable {α : Type} [Sub α] [LT α] [DecidableRel (α := α) (· < ·)] [OfScientific α] [Scalar α]

/-- Tolerance, in pixels, for treating a computed grid coordinate as whole. -/
def pixelEpsilon : α := 1e-6

/-- Within `pixelEpsilon` of the nearest whole number (halves rounded away
from zero). -/
def isWhole (v : α) : Bool := Scalar.abs (v - Scalar.roundHalfAway v) < pixelEpsilon

/-- `floor` that absorbs float noise just below a whole number. -/
def snapFloor (v : α) : α := if isWhole v then Scalar.roundHalfAway v else Scalar.floor v

/-- `ceil` that absorbs float noise just above a whole number. -/
def snapCeil (v : α) : α := if isWhole v then Scalar.roundHalfAway v else Scalar.ceil v

end Snap

/-- No rotation or shear: both off-diagonal coefficients are below `1e-12` in size. -/
def isRectilinear (t : Affine) : Bool := t.b.abs < 1e-12 && t.d.abs < 1e-12

/-- Both translation coefficients are whole numbers within `pixelEpsilon`. -/
def hasIntegerTranslation (t : Affine) : Bool := isWhole t.c && isWhole t.f

/-- The pixel size `(a, e)` of a rectilinear transform. -/
def resolution (t : Affine) : Float × Float := (t.a, t.e)

/-- The map coordinate of the top-left corner of pixel `(0, 0)`. -/
def origin (t : Affine) : Float × Float := (t.c, t.f)

theorem coeffs_new (a b c d e f : Float) : (new a b c d e f).coeffs = [a, b, c, d, e, f] := rfl

theorem coeffs_length (t : Affine) : t.coeffs.length = 6 := rfl

end Affine
end Geocube
