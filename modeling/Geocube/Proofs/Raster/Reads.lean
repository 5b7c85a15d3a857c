import Geocube.Proofs.Binary64.Floor
import Geocube.Proofs.Raster.Fuse
import Geocube.Raster.Resampling
import Mathlib.Data.Int.Log

/-!
Where the resampling kernels read.

The grid test takes a position from `-1/2` to below each side less a half, in
doubles. Nearest neighbour then reads the pixel counted by the whole part of the
position plus a half, rounded to a double. On an axis of two to `2^52` pixels
that pixel exists: the side less a half is exact (`edge_exact`), and the rounded
sum stays below the side (`add_half_lt`), because below one it is off by at most
`2^-54`, from one half up it is exact unless it passes a power of two
(`add_half_exact`), and a power of two it passes is a whole number at least one
below the side (`add_half_cross_lt`).
Bilinear interpolation clamps the position into the outer centres first, so its
pixels exist on any axis of up to `2^53` pixels (`clamped_index_lt`); the cubic
kernel clamps its indices and the area average its ranges. Main statement:
`kernels_read_inside`.

On one pixel the test passes the last double below one half, and that double
plus a half rounds to one, past the pixel (`one_pixel_nearest_reads_past`).
-/

namespace Geocube
namespace Binary64

variable {x : Float}

theorem value_half : value (0.5 : Float) = 1 / 2 := by decide +kernel

theorem half_isFinite : (0.5 : Float).isFinite = true := by decide +kernel

theorem value_neg_half : value (-0.5 : Float) = -(1 / 2) := by decide +kernel

theorem neg_half_isFinite : (-0.5 : Float).isFinite = true := by decide +kernel

theorem value_zero : value (0.0 : Float) = 0 := by decide +kernel

theorem zero_isFinite : (0.0 : Float).isFinite = true := by decide +kernel

/-- Half a pixel short of the end of an axis of up to `2^52` pixels, computed in
doubles, is exact. -/
theorem edge_exact {n : Nat} (hn : 1 ≤ n) (hn' : n ≤ 2 ^ 52) :
    (ofInt n - 0.5).isFinite = true ∧ value (ofInt n - 0.5) = n - 1 / 2 := by
  have hw := isWhole_ofInt (i := n) (by simp; omega)
  have hn1 : (1 : ℚ) ≤ n := by exact_mod_cast hn
  have hn2 : (n : ℚ) ≤ 2 ^ 52 := by exact_mod_cast hn'
  have hval : value (ofInt n) = n := by rw [hw.2]; simp
  rw [← value_half, ← hval]
  refine sub_exact_of_multiple hw.1 half_isFinite (by rw [hval]; positivity)
    (by rw [value_half]; norm_num) (K := 2 * n - 1) (g := -1) ?_ (by norm_num) (by norm_num) ?_
  · rw [hval, value_half]
    push_cast
    ring
  · rw [hval, value_half, abs_lt]
    constructor <;> norm_num <;> linarith

/-- A double of the binade `[2^k, 2^(k+1))`, for `-1 ≤ k ≤ 51`, plus a half that
stays below `2^(k+1)` adds exactly: both are whole numbers of steps `2^(k - 52)`. -/
theorem add_half_exact {k : Int} (hx : x.isFinite = true) (hk1 : -1 ≤ k) (hk2 : k ≤ 51)
    (hlow : 2 ^ k ≤ value x) (hcross : value x + 1 / 2 < 2 ^ (k + 1)) :
    (x + 0.5).isFinite = true ∧ value (x + 0.5) = value x + 1 / 2 := by
  have hxpos : 0 < value x := lt_of_lt_of_le (zpow_pos two_pos k) hlow
  have hh0 : value (0.5 : Float) ≠ 0 := by rw [value_half]; norm_num
  obtain ⟨K, hK⟩ := multiple_of_le_abs hx (g := k - 52)
    (by rw [abs_of_pos hxpos, show k - 52 + 52 = k by ring]; exact hlow)
  have hhalf : (1 / 2 : ℚ) = ((2 ^ (51 - k).toNat : Int) : ℚ) * 2 ^ (k - 52) := by
    rw [Int.cast_pow, Int.cast_ofNat, ← zpow_natCast, ← zpow_add₀ two_ne_zero,
      Int.toNat_of_nonneg (by omega)]
    norm_num
  rw [← value_half]
  refine add_exact_of_multiple hx half_isFinite hxpos.ne' hh0 (K := K + 2 ^ (51 - k).toNat) (g := k - 52)
    (by rw [value_half, hK, hhalf]; push_cast; ring) (by omega) (by omega) ?_
  rw [value_half, abs_of_pos (by linarith), show k - 52 + 53 = k + 1 by ring]
  exact hcross

/-- A positive double below `2^(k+1)`, for `-1 ≤ k`, plus a half that passes
`2^(k+1)` rounds to within `2^(k - 52) ≤ 1/2` of the sum; below `n - 1/2`, the
power of two passed is a whole number below `n`, so the rounded sum is too. -/
theorem add_half_cross_lt {k : Int} {n : Nat} (hx : x.isFinite = true) (hk1 : -1 ≤ k) (hk2 : k ≤ 51)
    (hxpos : 0 < value x) (hup : value x < 2 ^ (k + 1)) (hcross : 2 ^ (k + 1) ≤ value x + 1 / 2)
    (hhi : value x < n - 1 / 2) :
    (x + 0.5).isFinite = true ∧ value (x + 0.5) < n := by
  have hh0 : value (0.5 : Float) ≠ 0 := by rw [value_half]; norm_num
  have hpow : ((2 ^ (k + 1).toNat : Nat) : ℚ) = 2 ^ (k + 1) := by
    rw [Nat.cast_pow, Nat.cast_ofNat, ← zpow_natCast, Int.toNat_of_nonneg (by omega)]
  have hnext : 2 ^ (k + 1).toNat + 1 ≤ n := by
    have : ((2 ^ (k + 1).toNat : Nat) : ℚ) < n := by rw [hpow]; linarith
    exact_mod_cast this
  have hnext' : (2 : ℚ) ^ (k + 1) + 1 ≤ n := by rw [← hpow]; exact_mod_cast hnext
  have hdouble : (2 : ℚ) ^ (k + 2) = 2 * 2 ^ (k + 1) := by
    rw [show k + 2 = (k + 1) + 1 by ring, zpow_add_one₀ two_ne_zero]
    ring
  have hone : (1 : ℚ) ≤ 2 ^ (k + 1) := one_le_zpow₀ one_le_two (by omega)
  obtain ⟨hfin, herr⟩ := add_half_error hx half_isFinite hxpos.ne' hh0 (N := k + 2) (by omega)
    (by rw [value_half, abs_of_pos (by linarith), hdouble]; linarith)
  rw [value_half] at herr
  have hstep : (2 : ℚ) ^ max (k + 2 - 54) (-1075) ≤ 1 / 2 := by
    rw [max_eq_left (by omega)]
    calc (2 : ℚ) ^ (k + 2 - 54) ≤ 2 ^ (-1 : Int) := zpow_le_zpow_right₀ one_le_two (by omega)
      _ = 1 / 2 := by norm_num
  have hnear := herr.trans hstep
  exact ⟨hfin, by linarith [(abs_le.1 hnear).2]⟩

/-- A double from `-1/2` to below `n - 1/2`, moved up by a half and rounded to
nearest, stays below `n` on an axis of two to `2^52` pixels. -/
theorem add_half_lt {n : Nat} (hn : 2 ≤ n) (hn' : n ≤ 2 ^ 52) (hx : x.isFinite = true)
    (hlo : -(1 / 2) ≤ value x) (hhi : value x < n - 1 / 2) :
    (x + 0.5).isFinite = true ∧ value (x + 0.5) < n := by
  have hn2 : (2 : ℚ) ≤ n := by exact_mod_cast hn
  have hn52 : (n : ℚ) ≤ 2 ^ 52 := by exact_mod_cast hn'
  have hh0 : value (0.5 : Float) ≠ 0 := by rw [value_half]; norm_num
  by_cases h0 : value x = 0
  · rw [add_of_value_eq_zero hx h0 half_isFinite hh0, value_half]
    exact ⟨half_isFinite, by linarith⟩
  rcases lt_or_ge (value x) (1 / 2) with hsmall | hbig
  · -- below one the sum is off by at most `2^-54`
    obtain ⟨hfin, herr⟩ := add_half_error hx half_isFinite h0 hh0 (N := 0) (by norm_num)
      (by rw [value_half, abs_lt]; constructor <;> linarith)
    rw [value_half] at herr
    have hnear : |value (x + 0.5) - (value x + 1 / 2)| ≤ 1 := herr.trans (by norm_num)
    exact ⟨hfin, by linarith [(abs_le.1 hnear).2]⟩
  · -- from one half up, split on whether the sum leaves the binade `[2^k, 2^(k+1))` of `x`
    set k := Int.log 2 (value x) with hk
    have hxpos : 0 < value x := by linarith
    have hlow : (2 : ℚ) ^ k ≤ value x := Int.zpow_log_le_self (by norm_num) hxpos
    have hup : value x < (2 : ℚ) ^ (k + 1) := Int.lt_zpow_succ_log_self (by norm_num) _
    have hk1 : -1 ≤ k := by
      have : (2 : ℚ) ^ (-1 : Int) < 2 ^ (k + 1) := by norm_num; linarith
      have := (zpow_lt_zpow_iff_right₀ one_lt_two).1 this
      omega
    have hk2 : k ≤ 51 := by
      have : (2 : ℚ) ^ k < 2 ^ (52 : Int) := by norm_num; linarith
      have := (zpow_lt_zpow_iff_right₀ one_lt_two).1 this
      omega
    by_cases hcross : value x + 1 / 2 < 2 ^ (k + 1)
    · obtain ⟨hfin, hval⟩ := add_half_exact hx hk1 hk2 hlow hcross
      exact ⟨hfin, by rw [hval]; linarith⟩
    · exact add_half_cross_lt hx hk1 hk2 hxpos hup (not_lt.1 hcross) hhi

end Binary64

namespace Resampling
open Binary64

/-- The grid test on doubles: at least `-1/2` and below each side less a half. -/
theorem onGrid_iff {r : Raster} {x y : Float} :
    onGrid r x y = true ↔ -0.5 ≤ x ∧ -0.5 ≤ y ∧ x < ofInt r.width - 0.5 ∧
      y < ofInt r.height - 0.5 := by
  simp only [onGrid, Bool.and_eq_true, decide_eq_true_eq, and_assoc]
  rfl

/-- On an axis of two to `2^52` pixels, a position that passes the grid test,
moved up by a half and rounded, has a whole part that counts a pixel. -/
theorem nearest_index_lt {n : Nat} (hn : 2 ≤ n) (hn' : n ≤ 2 ^ 52) {x : Float} (hlo : -0.5 ≤ x)
    (hhi : x < ofInt n - 0.5) : index (Scalar.floor (x + 0.5)) < n := by
  obtain ⟨hG, hGv⟩ := edge_exact (by omega) hn'
  have hx := isFinite_of_le_of_lt neg_half_isFinite hG hlo hhi
  have hlo' := (le_iff_value neg_half_isFinite hx).1 hlo
  have hhi' := (lt_iff_value hx hG).1 hhi
  rw [value_neg_half] at hlo'
  rw [hGv] at hhi'
  obtain ⟨hfin, hlt⟩ := add_half_lt hn hn' hx hlo' hhi'
  exact toNatClamped_floor_lt (by omega) (by omega) hfin hlt

/-- On an axis of one to `2^53` pixels, the whole part of any position clamped
into the outer pixel centres counts a pixel. -/
theorem clamped_index_lt {n : Nat} (hn : 1 ≤ n) (hn' : n ≤ 2 ^ 53) (x : Float) :
    index (Scalar.floor (clampTo x 0.0 (Scalar.ofInt ((n - 1 : Nat) : Int)))) < n := by
  have hw := isWhole_ofInt (i := ((n - 1 : Nat) : Int)) (by simp; omega)
  have hhi : value (ofInt ((n - 1 : Nat) : Int)) = ((n - 1 : Nat) : ℚ) := by rw [hw.2]; simp
  have hlast : ((n - 1 : Nat) : ℚ) < n := by exact_mod_cast (show n - 1 < n by omega)
  change toNatClamped (floor (clampTo x 0.0 (ofInt ((n - 1 : Nat) : Int)))) < n
  unfold clampTo
  split_ifs with hbelow habove
  · exact toNatClamped_floor_lt (by omega) (by omega) zero_isFinite (by rw [value_zero]; positivity)
  · exact toNatClamped_floor_lt (by omega) (by omega) hw.1 (by rw [hhi]; exact hlast)
  · -- inside the centres, or NaN
    cases hd : decode x with
    | finite neg m e =>
      have hx := isFinite_of_decode hd
      have hle : value x ≤ value (ofInt ((n - 1 : Nat) : Int)) :=
        not_lt.1 fun h => habove ((lt_iff_value hw.1 hx).2 h)
      exact toNatClamped_floor_lt (by omega) (by omega) hx (by rw [hhi] at hle; linarith)
    | infinite neg =>
      obtain ⟨hlt, -⟩ := lt_of_decode_infinite hd zero_isFinite
      obtain ⟨hgt, -⟩ := lt_of_decode_infinite hd hw.1
      cases neg
      · exact absurd hgt habove
      · exact absurd hlt hbelow
    | nan =>
      have hfl : floor x = x := by unfold floor; rw [hd]
      rw [hfl, toNatClamped_of_nan hd]
      omega

/-- Nearest-neighbour reads on a raster whose sides have two to `2^52` pixels
always find their pixel. -/
theorem nearestAt_isSome {r : Raster} (hw : 2 ≤ r.width) (hw' : r.width ≤ 2 ^ 52)
    (hh : 2 ≤ r.height) (hh' : r.height ≤ 2 ^ 52) (x y : Float) : (nearestAt r x y).isSome := by
  unfold nearestAt
  by_cases hg : onGrid r x y = true
  · obtain ⟨hx0, hy0, hx1, hy1⟩ := onGrid_iff.1 hg
    rw [if_neg (by simp [hg])]
    exact Plane.get?_isSome (nearest_index_lt hh hh' hy0 hy1) (nearest_index_lt hw hw' hx0 hx1)
  · rw [if_pos (by simpa using hg)]
    rfl

/-- A shifted index clamped into an axis of at least one pixel is one of them. -/
theorem clampIndex_lt (i d : Int) {n : Nat} (hn : 1 ≤ n) : clampIndex i d n < n := by
  unfold clampIndex
  omega

/-- The sampling kernels read only pixels of the raster, on a raster whose sides
have two to `2^52` pixels. Nearest neighbour (and so averaging at a point) finds
the pixel it reads for every position. Bilinear interpolation reads at the whole
parts of the position clamped into the outer pixel centres and at the next
pixels (the same at the last one); the cubic kernel reads at indices shifted and
clamped into the sides; the area average reads the pixels from the first centre
in a box to the first centre past it, cut at the sides. Each of these reads
finds its pixel. -/
theorem kernels_read_inside (r : Raster) (hw : 2 ≤ r.width) (hw' : r.width ≤ 2 ^ 52)
    (hh : 2 ≤ r.height) (hh' : r.height ≤ 2 ^ 52) :
    (∀ x y : Float, (nearestAt r x y).isSome) ∧
    (∀ x y : Float,
      let col := index (Scalar.floor (clampTo x 0.0 (Scalar.ofInt ((r.width - 1 : Nat) : Int))))
      let row := index (Scalar.floor (clampTo y 0.0 (Scalar.ofInt ((r.height - 1 : Nat) : Int))))
      ∀ i ∈ [row, min (row + 1) (r.height - 1)], ∀ j ∈ [col, min (col + 1) (r.width - 1)],
        (r.get? i j).isSome) ∧
    (∀ xi yi di dj : Int, (r.get? (clampIndex yi dj r.height) (clampIndex xi di r.width)).isSome) ∧
    (∀ x0 y0 x1 y1 : Float, ∀ i j : Nat,
      i < min (firstCentre y1) r.height - firstCentre y0 →
      j < min (firstCentre x1) r.width - firstCentre x0 →
        (r.get? (firstCentre y0 + i) (firstCentre x0 + j)).isSome) := by
  refine ⟨nearestAt_isSome hw hw' hh hh', ?_, ?_, ?_⟩
  · intro x y
    dsimp only
    intro i hi j hj
    have hcol := clamped_index_lt (n := r.width) (by omega) (by omega) x
    have hrow := clamped_index_lt (n := r.height) (by omega) (by omega) y
    simp only [List.mem_cons, List.not_mem_nil, or_false] at hi hj
    exact Plane.get?_isSome (by omega) (by omega)
  · intro xi yi di dj
    exact Plane.get?_isSome (clampIndex_lt yi dj (by omega)) (clampIndex_lt xi di (by omega))
  · intro x0 y0 x1 y1 i j hi hj
    exact Plane.get?_isSome (by omega) (by omega)

/-- On the `2 × 2` raster the last double below one and a half passes the grid
test on both axes, and its nearest pixel is found. -/
theorem two_by_two_edge_read :
    (2 ≤ (Raster.filled 2 2 1.0).width ∧ (Raster.filled 2 2 1.0).width ≤ 2 ^ 52 ∧
      2 ≤ (Raster.filled 2 2 1.0).height ∧ (Raster.filled 2 2 1.0).height ≤ 2 ^ 52) ∧
    (nearestAt (Raster.filled 2 2 1.0) 1.4999999999999998 1.4999999999999998).isSome :=
  ⟨by decide, (kernels_read_inside (Raster.filled 2 2 1.0) (by decide) (by decide) (by decide)
    (by decide)).1 _ _⟩

/-- On a single pixel the last double below one half passes the grid test, but
that double plus a half rounds to one, so nearest neighbour reads past the
pixel. -/
theorem one_pixel_nearest_reads_past :
    nearestAt (Raster.filled 1 1 1.0) (0.49999999999999994 : Float) 0.0 = none := by
  decide +kernel

end Resampling
end Geocube
