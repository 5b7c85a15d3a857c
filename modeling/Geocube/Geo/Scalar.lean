import Geocube.Binary64
import Geocube.Decimal.Layout

/-!
Numbers the grid and kernel formulas are written over, and comparisons of
doubles that treat NaN as missing.

Snapping a box onto a pixel lattice and the resampling kernels are written once
over a type of numbers. Its arithmetic and order come from the usual classes;
`Scalar` adds the few other operations the formulas make: whole parts and
rounding, the saturating conversion to an integer, the NaN that marks a missing
value, and the text of a number in a message. The formulas run on doubles, with
the instance below.

On doubles, `fmin` and `fmax` return the other operand when one is NaN, so a
NaN never wins a minimum or a maximum; `fclamp` leaves NaN unchanged.
-/

namespace Geocube

/-- The smaller of two doubles, ignoring a NaN operand. -/
def fmin (a b : Float) : Float :=
  if a.isNaN then b else if b.isNaN then a else if a < b then a else b

/-- The larger of two doubles, ignoring a NaN operand. -/
def fmax (a b : Float) : Float :=
  if a.isNaN then b else if b.isNaN then a else if a > b then a else b

/-- Restrict to `[lo, hi]`; NaN stays NaN. -/
def fclamp (x lo hi : Float) : Float :=
  let x := if x < lo then lo else x
  if x > hi then hi else x

/-- Degrees to radians, multiplying by the double nearest `π/180`. -/
def toRadians (x : Float) : Float := x * (3.141592653589793 / 180.0)

/-- Radians to degrees, multiplying by the double nearest `180/π`. -/
def toDegrees (x : Float) : Float := x * (180.0 / 3.141592653589793)

/-- The double nearest `π`. -/
def piF : Float := 3.141592653589793

theorem fmin_nan_left (b : Float) : fmin Binary64.nan b = b := by
  have h : Binary64.nan.isNaN = true := by rfl
  unfold fmin
  rw [if_pos h]

/-- The operations of a number type that the grid and kernel formulas use
besides its arithmetic and order. -/
class Scalar (α : Type) where
  ofInt : Int → α
  abs : α → α
  floor : α → α
  ceil : α → α
  /-- The nearest whole number, halves away from zero. -/
  roundHalfAway : α → α
  /-- Truncation toward zero into `[lo, hi]`, saturating at the ends; NaN gives zero. -/
  toIntClamped : α → Int → Int → Int
  isNaN : α → Bool
  isFinite : α → Bool
  /-- The value that marks a missing number. -/
  nan : α
  /-- How a number is written in a message. -/
  text : α → String

instance : Scalar Float where
  ofInt := Binary64.ofInt
  abs := Float.abs
  floor := Binary64.floor
  ceil := Float.ceil
  roundHalfAway := Binary64.roundHalfAway
  toIntClamped := Binary64.toIntClamped
  isNaN := Float.isNaN
  isFinite := Float.isFinite
  nan := Binary64.nan
  text := Decimal.plainText

namespace Scalar

variable {α : Type} [Scalar α]

/-- Truncation to a machine-sized count: negatives and NaN to zero, saturating
at `2^64 - 1`. -/
def toNatClamped (x : α) : Nat := (toIntClamped x 0 (pow2 64 - 1)).toNat

/-- The smaller of two numbers, ignoring a NaN operand. -/
def fmin [LT α] [DecidableRel (α := α) (· < ·)] (a b : α) : α :=
  if isNaN a then b else if isNaN b then a else if a < b then a else b

/-- The larger of two numbers, ignoring a NaN operand. -/
def fmax [LT α] [DecidableRel (α := α) (· < ·)] (a b : α) : α :=
  if isNaN a then b else if isNaN b then a else if a > b then a else b

end Scalar
end Geocube
