import Geocube.Proofs.Exact.Rational
import Mathlib.Tactic.LinearCombination

/-!
The resampling kernels on affine data.

On a raster whose value at `(row, col)` is `a + b·col + c·row`, the kernels
give back that affine function, in exact arithmetic. Bilinear interpolation
picks, along each axis, the pixel below the clamped position, the next one (the
same at the last pixel) and the fraction between them, and these interpolate
the position itself (`lerp_neighbours`); blending affine values along both
axes then gives the affine function at the clamped position. The Catmull-Rom
spline through four equally spaced values on a line is that line
(`spline_line`), so where no neighbour index is clamped the bicubic kernel
gives the affine function at the position itself. Main statement:
`kernels_reproduce_affine`.
-/

namespace Geocube
namespace Resampling

/-- A raster whose value at `(row, col)` is `a + b·col + c·row`. -/
def IsRamp (r : Plane ℚ) (a b c : ℚ) : Prop :=
  ∀ row col, row < r.height → col < r.width → r.get? row col = some (a + b * col + c * row)

/-- The plane built from an affine function is a ramp. -/
theorem isRamp_ofFn (height width : Nat) (a b c : ℚ) :
    IsRamp (Plane.ofFn height width fun row col => a + b * col + c * row) a b c :=
  fun _ _ hr hc => Plane.get?_ofFn hr hc

variable {r : Plane ℚ} {a b c : ℚ}

theorem IsRamp.pixel (h : IsRamp r a b c) {row col : Nat} (hr : row < r.height)
    (hc : col < r.width) : pixel r row col = a + b * col + c * row := by
  simp [Resampling.pixel, h row col hr hc]

theorem clampTo_eq {x lo hi : ℚ} (h : lo ≤ hi) : clampTo x lo hi = max lo (min x hi) := by
  unfold clampTo
  split_ifs with h₁ h₂
  · rw [max_eq_left (min_le_of_left_le h₁.le)]
  · rw [min_eq_right h₂.le, max_eq_right h]
  · rw [min_eq_left (not_lt.1 h₂), max_eq_right (not_lt.1 h₁)]

/-- Clamping into the outer pixel centres of an axis of `n ≥ 1` pixels. -/
theorem clampTo_centres {n : Nat} (hn : 1 ≤ n) (x : ℚ) :
    clampTo x 0.0 (Scalar.ofInt ((n - 1 : Nat) : Int)) = max 0 (min x ((n : ℚ) - 1)) := by
  have hc : (((n - 1 : Nat) : Int) : ℚ) = (n : ℚ) - 1 := by push_cast [hn]; ring
  have hzero : (0.0 : ℚ) = 0 := by norm_num
  have hn' : (1 : ℚ) ≤ n := by exact_mod_cast hn
  rw [Scalar.ofInt_rat, hc, hzero, clampTo_eq (by linarith)]

/-- A position on the grid lies within half a pixel of the outer centres. -/
theorem onGrid_bounds {x y : ℚ} (h : onGrid r x y = true) :
    -(1 / 2) ≤ x ∧ x < r.width - 1 / 2 ∧ -(1 / 2) ≤ y ∧ y < r.height - 1 / 2 := by
  simp only [onGrid, Scalar.ofInt_rat, Int.cast_natCast, Bool.and_eq_true, decide_eq_true_eq] at h
  obtain ⟨⟨⟨hx, hy⟩, hx'⟩, hy'⟩ := h
  norm_num at hx hy hx' hy'
  exact ⟨hx, hx', hy, hy'⟩

/-- The lower neighbour of a position in `[0, n - 1]`, the upper one (the same
at the last pixel) and the fraction between them interpolate the position. -/
theorem lerp_neighbours {n : Nat} {x : ℚ} (h0 : 0 ≤ x) (hx : x ≤ (n : ℚ) - 1)
    (hn : n ≤ 2 ^ 63) :
    let i := index (Scalar.floor x)
    let j := min (i + 1) (n - 1)
    i < n ∧ j < n ∧ (i : ℚ) * (1 - (x - i)) + j * (x - i) = x := by
  intro i j
  have hfloor : (⌊x⌋ : ℚ) ≤ x := Int.floor_le x
  have hn' : (n : ℚ) ≤ 2 ^ 63 := by exact_mod_cast hn
  have hlt : ⌊x⌋ < 2 ^ 64 := by
    have : (⌊x⌋ : ℚ) < 2 ^ 64 := by linarith
    exact_mod_cast this
  have hi : (i : ℚ) = ⌊x⌋ := by
    simp only [i, index_floor h0 hlt]
    exact_mod_cast Int.toNat_of_nonneg (Int.floor_nonneg.2 h0)
  have hin : (i : ℚ) ≤ n - 1 := by linarith
  have hi_lt : i < n := by
    have : (i : ℚ) + 1 ≤ n := by linarith
    exact_mod_cast (show i + 1 ≤ n by exact_mod_cast this)
  have hn1 : 1 ≤ n := by omega
  refine ⟨hi_lt, lt_of_le_of_lt (min_le_right _ _) (by omega), ?_⟩
  by_cases hnext : i + 1 ≤ n - 1
  · -- an upper neighbour exists: the blend moves from `i` by the fraction
    have hj : (j : ℚ) = i + 1 := by simp only [j, min_eq_left hnext]; push_cast; ring
    rw [hj]
    ring
  · -- the position is the last centre, so the fraction is zero
    have hlast : i = n - 1 := by omega
    have hj : j = i := by simp only [j]; omega
    have hx' : x = i := by
      have : (i : ℚ) = n - 1 := by rw [hlast, Nat.cast_sub hn1, Nat.cast_one]
      linarith [Int.lt_floor_add_one x]
    rw [hj, hx']
    ring

/-- Bilinear interpolation of affine data is the affine function at the
position clamped into the outer pixel centres. -/
theorem bilinearAt_ramp (h : IsRamp r a b c) (hw : r.width ≤ 2 ^ 63) (hh : r.height ≤ 2 ^ 63)
    {x y : ℚ} (hg : onGrid r x y = true) :
    bilinearAt r x y =
      a + b * max 0 (min x ((r.width : ℚ) - 1)) + c * max 0 (min y ((r.height : ℚ) - 1)) := by
  obtain ⟨hx0, hx1, hy0, hy1⟩ := onGrid_bounds hg
  have hw1 : 1 ≤ r.width := Nat.cast_pos.1 (by linarith : (0 : ℚ) < r.width)
  have hh1 : 1 ≤ r.height := Nat.cast_pos.1 (by linarith : (0 : ℚ) < r.height)
  have hw1' : (1 : ℚ) ≤ r.width := by exact_mod_cast hw1
  have hh1' : (1 : ℚ) ≤ r.height := by exact_mod_cast hh1
  set x' := max 0 (min x ((r.width : ℚ) - 1)) with hx'
  set y' := max 0 (min y ((r.height : ℚ) - 1)) with hy'
  have hone : (1.0 : ℚ) = 1 := by norm_num
  have hcx : clampTo x 0.0 (Scalar.ofInt ((r.width - 1 : Nat) : Int)) = x' :=
    clampTo_centres hw1 x
  have hcy : clampTo y 0.0 (Scalar.ofInt ((r.height - 1 : Nat) : Int)) = y' :=
    clampTo_centres hh1 y
  obtain ⟨hi, hj, hlx⟩ := lerp_neighbours (n := r.width) (x := x') (le_max_left _ _)
    (max_le (by linarith) (min_le_right _ _)) hw
  obtain ⟨hk, hl, hly⟩ := lerp_neighbours (n := r.height) (x := y') (le_max_left _ _)
    (max_le (by linarith) (min_le_right _ _)) hh
  simp only [bilinearAt, hg, Bool.not_true, Bool.false_eq_true, if_false, hcx, hcy]
  rw [h.pixel hk hi, h.pixel hk hj, h.pixel hl hi, h.pixel hl hj]
  simp only [Scalar.isNaN_rat, Bool.or_false, Bool.false_eq_true, if_false, Scalar.ofInt_rat,
    Int.cast_natCast, hone]
  linear_combination b * hlx + c * hly

/-- The Catmull-Rom spline through four equally spaced values on a line is that
line. -/
theorem spline_line (u v t : ℚ) :
    spline ([-1, 0, 1, 2].map fun d : Int => u + v * d) t = u + v * t := by
  simp only [List.map_cons, List.map_nil, spline, cubic1]
  norm_num
  ring

/-- The spline down the column of splines along the rows of a 4 × 4 block of
values on a plane is that plane. -/
theorem spline_block (u v w s t : ℚ) :
    spline ((([-1, 0, 1, 2] : List Int).map fun dj : Int => ([-1, 0, 1, 2] : List Int).map
      fun di : Int => (u + w * dj) + v * di).map fun row => spline row s) t =
      u + v * s + w * t := by
  have hrows : ((([-1, 0, 1, 2] : List Int).map fun dj : Int => ([-1, 0, 1, 2] : List Int).map
      fun di : Int => (u + w * dj) + v * di).map fun row => spline row s) =
      ([-1, 0, 1, 2] : List Int).map fun dj : Int => (u + v * s) + w * dj := by
    rw [List.map_map]
    refine List.map_congr_left fun dj _ => ?_
    simp only [Function.comp, spline_line]
    ring
  rw [hrows, spline_line]

theorem natCast_toNat_rat {n : Int} (h : 0 ≤ n) : ((n.toNat : Nat) : ℚ) = n := by
  exact_mod_cast Int.toNat_of_nonneg h

theorem clampIndex_of_inside {i d : Int} {n : Nat} (h0 : 0 ≤ i + d) (h1 : i + d < n) :
    clampIndex i d n = (i + d).toNat := by
  unfold clampIndex
  rw [min_eq_left (by omega), max_eq_right h0]

/-- The whole part of a position, within the range of a machine index, is
taken as it is. -/
theorem toIntClamped_floor_rat {x : ℚ} (h0 : 0 ≤ ⌊x⌋) (h1 : ⌊x⌋ < 2 ^ 63) :
    Scalar.toIntClamped (Scalar.floor x) (-(pow2 63 : Int)) (pow2 63 - 1) = ⌊x⌋ := by
  have hp : ((pow2 63 : Nat) : Int) = 2 ^ 63 := rfl
  rw [Scalar.floor_rat, Scalar.toIntClamped_intCast (by omega) (by omega)]

/-- Away from the edges, where no neighbour index is clamped, the bicubic kernel
on affine data is the affine function at the position. -/
theorem cubicAt_ramp (h : IsRamp r a b c) (hw : r.width ≤ 2 ^ 63) (hh : r.height ≤ 2 ^ 63)
    {x y : ℚ} (hx1 : 1 ≤ ⌊x⌋) (hx2 : ⌊x⌋ + 3 ≤ r.width) (hy1 : 1 ≤ ⌊y⌋)
    (hy2 : ⌊y⌋ + 3 ≤ r.height) :
    cubicAt r x y = a + b * x + c * y := by
  have hfx := Int.floor_le x
  have hfx' := Int.lt_floor_add_one x
  have hfy := Int.floor_le y
  have hfy' := Int.lt_floor_add_one y
  have hx1' : (1 : ℚ) ≤ ⌊x⌋ := by exact_mod_cast hx1
  have hy1' : (1 : ℚ) ≤ ⌊y⌋ := by exact_mod_cast hy1
  have hx2' : (⌊x⌋ : ℚ) + 3 ≤ r.width := by exact_mod_cast hx2
  have hy2' : (⌊y⌋ : ℚ) + 3 ≤ r.height := by exact_mod_cast hy2
  have hg : onGrid r x y = true := by
    simp only [onGrid, Scalar.ofInt_rat, Int.cast_natCast, Bool.and_eq_true, decide_eq_true_eq]
    norm_num
    refine ⟨⟨⟨?_, ?_⟩, ?_⟩, ?_⟩ <;> linarith
  have hxi := toIntClamped_floor_rat (x := x) (by omega) (by omega)
  have hyi := toIntClamped_floor_rat (x := y) (by omega) (by omega)
  -- every pixel of the 4 × 4 neighbourhood is inside, at the unclamped index
  have hpix : ∀ dj ∈ ([-1, 0, 1, 2] : List Int), ∀ di ∈ ([-1, 0, 1, 2] : List Int),
      pixel r (clampIndex ⌊y⌋ dj r.height) (clampIndex ⌊x⌋ di r.width) =
        (a + b * ⌊x⌋ + c * ⌊y⌋ + c * dj) + b * di := by
    intro dj hdj di hdi
    have hdj' : -1 ≤ dj ∧ dj ≤ 2 := by simp at hdj; omega
    have hdi' : -1 ≤ di ∧ di ≤ 2 := by simp at hdi; omega
    rw [clampIndex_of_inside (by omega) (by omega), clampIndex_of_inside (by omega) (by omega),
      h.pixel (by omega) (by omega), natCast_toNat_rat (by omega), natCast_toNat_rat (by omega)]
    push_cast
    ring
  have hvalues : (([-1, 0, 1, 2] : List Int).map fun dj : Int =>
      ([-1, 0, 1, 2] : List Int).map fun di : Int =>
        pixel r (clampIndex ⌊y⌋ dj r.height) (clampIndex ⌊x⌋ di r.width)) =
      ([-1, 0, 1, 2] : List Int).map fun dj : Int => ([-1, 0, 1, 2] : List Int).map
        fun di : Int => (a + b * ⌊x⌋ + c * ⌊y⌋ + c * dj) + b * di :=
    List.map_congr_left fun dj hdj => List.map_congr_left fun di hdi => hpix dj hdj di hdi
  simp only [cubicAt, hg, Bool.not_true, Bool.false_eq_true, if_false, hxi, hyi, Scalar.ofInt_rat,
    hvalues]
  rw [if_neg (by simp), spline_block]
  ring

/-- Interpolation kernels reproduce affine data, in exact arithmetic. On a
raster whose value at `(row, col)` is `a + b·col + c·row`, bilinear
interpolation at every position on the grid is the affine function at the
position clamped into `[0, width - 1] × [0, height - 1]`, and the bicubic kernel
at every position whose whole parts leave a pixel on each side and two beyond
is the affine function at the position. A raster's sides are below `2^63`, as
an array of doubles in memory is. -/
theorem kernels_reproduce_affine (r : Plane ℚ) (a b c : ℚ) (h : IsRamp r a b c)
    (hw : r.width ≤ 2 ^ 63) (hh : r.height ≤ 2 ^ 63) :
    (∀ x y, onGrid r x y = true →
      bilinearAt r x y =
        a + b * max 0 (min x ((r.width : ℚ) - 1)) + c * max 0 (min y ((r.height : ℚ) - 1))) ∧
    (∀ x y : ℚ, 1 ≤ ⌊x⌋ → ⌊x⌋ + 3 ≤ r.width → 1 ≤ ⌊y⌋ → ⌊y⌋ + 3 ≤ r.height →
      cubicAt r x y = a + b * x + c * y) :=
  ⟨fun _ _ hg => bilinearAt_ramp h hw hh hg,
    fun _ _ hx1 hx2 hy1 hy2 => cubicAt_ramp h hw hh hx1 hx2 hy1 hy2⟩

/-- On the 4 × 4 ramp `1 + 2·col + 3·row`, the bilinear blend at the last
column and the bicubic kernel inside give the ramp's values. -/
theorem ramp_kernels_four_by_four :
    IsRamp (Plane.ofFn 4 4 fun row col => 1 + 2 * (col : ℚ) + 3 * row) 1 2 3 ∧
    bilinearAt (Plane.ofFn 4 4 fun row col => 1 + 2 * (col : ℚ) + 3 * row) 3 (1 / 2) =
      1 + 2 * 3 + 3 * (1 / 2) ∧
    cubicAt (Plane.ofFn 4 4 fun row col => 1 + 2 * (col : ℚ) + 3 * row) (3 / 2) (5 / 4) =
      1 + 2 * (3 / 2) + 3 * (5 / 4) := by
  have hr := isRamp_ofFn 4 4 (1 : ℚ) 2 3
  have hk := kernels_reproduce_affine _ 1 2 3 hr (by decide) (by decide)
  have hx : ⌊(3 / 2 : ℚ)⌋ = 1 := by norm_num [Int.floor_eq_iff]
  have hy : ⌊(5 / 4 : ℚ)⌋ = 1 := by norm_num [Int.floor_eq_iff]
  refine ⟨hr, ?_, ?_⟩
  · have hg : onGrid (Plane.ofFn 4 4 fun row col => 1 + 2 * (col : ℚ) + 3 * row) 3 (1 / 2) =
        true := by
      simp only [onGrid, Scalar.ofInt_rat, Bool.and_eq_true, decide_eq_true_eq]
      norm_num [Plane.ofFn]
    rw [hk.1 3 (1 / 2) hg]
    norm_num [Plane.ofFn]
  · exact hk.2 _ _ (by rw [hx]) (by rw [hx]; decide) (by rw [hy]) (by rw [hy]; decide)

end Resampling
end Geocube
