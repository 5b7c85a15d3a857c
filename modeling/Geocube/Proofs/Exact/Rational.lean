import Geocube.Raster.Resampling
import Mathlib.Data.Rat.Floor
import Mathlib.Tactic.Ring
import Mathlib.Tactic.NormNum
import Mathlib.Tactic.Linarith

/-!
Exact arithmetic.

The grid and kernel formulas are written over any `Scalar` number type. Over
the rationals they are the formulas of exact arithmetic: no number is NaN or
infinite, whole parts and rounding are those of the rationals (halves rounded
away from zero), and the conversion to an integer truncates toward zero and
saturates at the ends of its range, as the conversion of a double does.

The lemmas here read each operation back as the rational one, so that later
proofs never unfold the instance, and say when the saturating conversions of a
whole number leave it alone (`Scalar.toIntClamped_intCast`,
`Resampling.index_floor`).
-/

namespace Geocube

/-- The rationals, read as the exact arithmetic of the formulas. -/
instance : Scalar ℚ where
  ofInt := Int.cast
  abs x := |x|
  floor x := ⌊x⌋
  ceil x := ⌈x⌉
  roundHalfAway x := if 0 ≤ x then ⌊x + 1 / 2⌋ else -⌊-x + 1 / 2⌋
  toIntClamped x lo hi :=
    let t := if 0 ≤ x then ⌊x⌋ else ⌈x⌉
    if t < lo then lo else if t > hi then hi else t
  isNaN _ := false
  isFinite _ := true
  nan := 0
  text x := toString x

namespace Scalar

@[simp] theorem ofInt_rat (i : Int) : (ofInt i : ℚ) = i := rfl

@[simp] theorem abs_rat (x : ℚ) : abs x = |x| := rfl

@[simp] theorem floor_rat (x : ℚ) : floor x = (⌊x⌋ : ℚ) := rfl

@[simp] theorem ceil_rat (x : ℚ) : ceil x = (⌈x⌉ : ℚ) := rfl

@[simp] theorem roundHalfAway_rat (x : ℚ) :
    roundHalfAway x = if 0 ≤ x then (⌊x + 1 / 2⌋ : ℚ) else -(⌊-x + 1 / 2⌋ : ℚ) := rfl

@[simp] theorem isNaN_rat (x : ℚ) : isNaN x = false := rfl

@[simp] theorem isFinite_rat (x : ℚ) : isFinite x = true := rfl

@[simp] theorem nan_rat : (nan : ℚ) = 0 := rfl

/-- Rounding leaves a whole number as it is. -/
@[simp] theorem roundHalfAway_intCast (k : Int) : roundHalfAway (k : ℚ) = k := by
  rw [roundHalfAway_rat]
  split_ifs with h
  · rw [Int.floor_intCast_add]
    norm_num
  · have hk : -(k : ℚ) + 1 / 2 = ((-k : Int) : ℚ) + 1 / 2 := by push_cast; ring
    rw [hk, Int.floor_intCast_add]
    norm_num

/-- A rounded rational is a whole number. -/
theorem roundHalfAway_rat_int (x : ℚ) : ∃ k : Int, roundHalfAway x = k := by
  rw [roundHalfAway_rat]
  split_ifs
  · exact ⟨_, rfl⟩
  · exact ⟨-⌊-x + 1 / 2⌋, by push_cast; rfl⟩

/-- With no NaN among the rationals, the NaN-ignoring maximum is the maximum. -/
@[simp] theorem fmax_rat (a b : ℚ) : fmax a b = max a b := by
  simp only [fmax, isNaN_rat, Bool.false_eq_true, if_false, gt_iff_lt]
  split_ifs with h
  · exact (max_eq_left h.le).symm
  · exact (max_eq_right (not_lt.1 h)).symm

@[simp] theorem fmin_rat (a b : ℚ) : fmin a b = min a b := by
  simp only [fmin, isNaN_rat, Bool.false_eq_true, if_false]
  split_ifs with h
  · exact (min_eq_left h.le).symm
  · exact (min_eq_right (not_lt.1 h)).symm

/-- A whole number inside the range converts to itself. -/
theorem toIntClamped_intCast {i lo hi : Int} (hlo : lo ≤ i) (hhi : i ≤ hi) :
    toIntClamped (i : ℚ) lo hi = i := by
  have ht : (if (0 : ℚ) ≤ i then ⌊(i : ℚ)⌋ else ⌈(i : ℚ)⌉) = i := by
    split <;> simp
  change (let t := if (0 : ℚ) ≤ i then ⌊(i : ℚ)⌋ else ⌈(i : ℚ)⌉
    if t < lo then lo else if t > hi then hi else t) = i
  simp only [ht]
  rw [if_neg (not_lt.2 hlo), if_neg (not_lt.2 hhi)]

theorem toNatClamped_intCast {i : Int} (h0 : 0 ≤ i) (h : i < 2 ^ 64) :
    toNatClamped (i : ℚ) = i.toNat := by
  have hpow : ((pow2 64 : Nat) : Int) = 2 ^ 64 := rfl
  rw [toNatClamped, toIntClamped_intCast h0 (by omega)]

end Scalar

/-- The whole part of a non-negative position below `2^64`, as an index, is its floor. -/
theorem Resampling.index_floor {x : ℚ} (h0 : 0 ≤ x) (h : ⌊x⌋ < 2 ^ 64) :
    Resampling.index (Scalar.floor x) = ⌊x⌋.toNat := by
  rw [Resampling.index, Scalar.floor_rat, Scalar.toNatClamped_intCast (Int.floor_nonneg.2 h0) h]

end Geocube
