import Geocube.Proofs.Exact.Rational

/-!
The grid around a box, in exact arithmetic.

`boxGrid` snaps each side of a box outwards onto the lattice of multiples of
the pixel size shifted by the alignment. `snapFloor` and `snapCeil` are whole
numbers within a pixel of what they snap, and within `pixelEpsilon` on the side
they absorb (`snapFloor_bounds`, `snapCeil_bounds`); the count of pixels between
two lattice points is their distance in steps (`stepsBetween_lattice`). So along
each axis the grid covers the box up to `pixelEpsilon` pixels and sticks out by
less than a pixel on each side, unless the snapped span is empty and one pixel
stands in for it (`snapSpan_axisCover`).

The count of pixels is a machine count, saturating at `2^64 - 1`: the grid
covers the box only when that count is not reached, which a box below
`2^64 - 2` pixels along each axis ensures (`boxGrid_smallest_cover`), and a box
wider than that is cut short (`boxGrid_width_saturates`).
-/

namespace Geocube

namespace Affine

theorem pixelEpsilon_rat : (pixelEpsilon : ℚ) = 1 / 1000000 := by
  norm_num [pixelEpsilon]

theorem isWhole_rat (u : ℚ) : isWhole u = true ↔ |u - Scalar.roundHalfAway u| < pixelEpsilon := by
  simp [isWhole]

/-- A value that counts as whole rounds to a whole number within
`pixelEpsilon` of it. -/
theorem roundHalfAway_of_isWhole {u : ℚ} (hw : isWhole u = true) :
    ∃ k : Int, Scalar.roundHalfAway u = k ∧ u - pixelEpsilon < k ∧ (k : ℚ) < u + pixelEpsilon := by
  obtain ⟨k, hk⟩ := Scalar.roundHalfAway_rat_int u
  have hnear := (isWhole_rat u).1 hw
  rw [hk, abs_sub_lt_iff] at hnear
  exact ⟨k, hk, by linarith, by linarith⟩

/-- Snapping down gives a whole number above the value less one, and at most
`pixelEpsilon` above the value. -/
theorem snapFloor_bounds (u : ℚ) :
    ∃ k : Int, snapFloor u = k ∧ u - 1 < k ∧ (k : ℚ) < u + pixelEpsilon := by
  have hε : (pixelEpsilon : ℚ) = 1 / 1000000 := pixelEpsilon_rat
  unfold snapFloor
  by_cases hw : isWhole u = true
  · obtain ⟨k, hk, hk1, hk2⟩ := roundHalfAway_of_isWhole hw
    rw [if_pos hw, hk]
    exact ⟨k, rfl, by linarith, by linarith⟩
  · rw [if_neg hw, Scalar.floor_rat]
    exact ⟨⌊u⌋, rfl, by linarith [Int.lt_floor_add_one u], by linarith [Int.floor_le u]⟩

/-- Snapping up gives a whole number at most `pixelEpsilon` below the value,
and below the value plus one. -/
theorem snapCeil_bounds (u : ℚ) :
    ∃ k : Int, snapCeil u = k ∧ u - pixelEpsilon < k ∧ (k : ℚ) < u + 1 := by
  have hε : (pixelEpsilon : ℚ) = 1 / 1000000 := pixelEpsilon_rat
  unfold snapCeil
  by_cases hw : isWhole u = true
  · obtain ⟨k, hk, hk1, hk2⟩ := roundHalfAway_of_isWhole hw
    rw [if_pos hw, hk]
    exact ⟨k, rfl, by linarith, by linarith⟩
  · rw [if_neg hw, Scalar.ceil_rat]
    exact ⟨⌈u⌉, rfl, by linarith [Int.le_ceil u], by linarith [Int.ceil_lt_add_one u]⟩

end Affine

/-- The pixels `[e, e + n·s)` along one axis of a grid, `n` of them of size
`s`, cover `[lo, hi]` as the smallest run on the lattice `a + ℤ·s` does: both
edges lie on the lattice, the run covers the span up to `pixelEpsilon` pixels
on each side, and it sticks out by less than a pixel on each side, unless the
span snapped onto the lattice is empty, when one pixel is used. -/
structure AxisCover (lo hi a s e : ℚ) (n : Nat) : Prop where
  one_le : 1 ≤ n
  low_on_lattice : ∃ k : Int, e = a + k * s
  high_on_lattice : ∃ k : Int, e + n * s = a + k * s
  covers_low : e ≤ lo + Affine.pixelEpsilon * s
  covers_high : hi - Affine.pixelEpsilon * s ≤ e + n * s
  tight : (lo - e < s ∧ e + n * s - hi < s) ∨
    (Affine.snapCeil ((hi - a) / s) ≤ Affine.snapFloor ((lo - a) / s) ∧ n = 1)

/-- From one lattice point to another `n` steps on, below the saturation of a
machine count, there are `n` pixels. -/
theorem stepsBetween_lattice {e s : ℚ} (hs : 0 < s) {n : Nat} (h1 : 0 < n) (h2 : n < 2 ^ 64) :
    stepsBetween e (e + n * s) s = n := by
  have hsteps : (e + n * s - e) / s = ((n : Int) : ℚ) := by
    rw [add_sub_cancel_left, mul_div_assoc, div_self hs.ne', mul_one, Int.cast_natCast]
  have hpos : (0.0 : ℚ) ≤ ((n : Int) : ℚ) := by norm_num
  rw [stepsBetween, hsteps, Scalar.roundHalfAway_intCast, Scalar.fmax_rat, max_eq_left hpos,
    Scalar.toNatClamped_intCast (by omega) (by omega), Int.toNat_natCast]

/-- Snapping one side of a box: the run from the snapped low edge, as many
pixels as `stepsBetween` counts, ends at the snapped high edge and covers the
side as the smallest lattice run does. -/
theorem snapSpan_axisCover {lo hi a s : ℚ} (hs : 0 < s)
    (hn : (hi - lo) / s + 2 ≤ 2 ^ 64) :
    let e := snapSpan lo hi s a
    e.2 = e.1 + stepsBetween e.1 e.2 s * s ∧ AxisCover lo hi a s e.1 (stepsBetween e.1 e.2 s) := by
  have hε : (0 : ℚ) < Affine.pixelEpsilon := by rw [Affine.pixelEpsilon_rat]; norm_num
  obtain ⟨p, hp, hp1, hp2⟩ := Affine.snapFloor_bounds ((lo - a) / s)
  obtain ⟨q, hq, hq1, hq2⟩ := Affine.snapCeil_bounds ((hi - a) / s)
  -- the bounds, scaled back from steps to lengths
  have hu : (lo - a) / s * s = lo - a := div_mul_cancel₀ _ hs.ne'
  have hw : (hi - a) / s * s = hi - a := div_mul_cancel₀ _ hs.ne'
  have hspan : (hi - a) / s - (lo - a) / s = (hi - lo) / s := by ring
  have hp1' := mul_lt_mul_of_pos_right hp1 hs
  have hp2' := mul_lt_mul_of_pos_right hp2 hs
  have hq1' := mul_lt_mul_of_pos_right hq1 hs
  have hq2' := mul_lt_mul_of_pos_right hq2 hs
  rw [sub_mul, hu, one_mul] at hp1'
  rw [add_mul, hu] at hp2'
  rw [sub_mul, hw] at hq1'
  rw [add_mul, hw, one_mul] at hq2'
  simp only [snapSpan, hp, hq]
  by_cases hempty : a + q * s ≤ a + p * s
  · -- the snapped span is empty: one pixel from the low edge
    have hqp : (q : ℚ) ≤ p := le_of_mul_le_mul_right (by linarith) hs
    have hone := stepsBetween_lattice (e := a + p * s) hs (n := 1) (by decide) (by decide)
    rw [Nat.cast_one, one_mul] at hone
    rw [if_pos hempty, hone, Nat.cast_one, one_mul]
    refine ⟨rfl, ⟨le_refl 1, ⟨p, rfl⟩, ⟨p + 1, by push_cast; ring⟩, by linarith,
      by push_cast; linarith, .inr ⟨by rw [hp, hq]; exact_mod_cast hqp, rfl⟩⟩⟩
  · -- the snapped edges are `q - p` steps apart
    rw [if_neg hempty]
    have hpq : (p : ℚ) < q := lt_of_mul_lt_mul_right (by linarith) hs.le
    have hpq' : p < q := by exact_mod_cast hpq
    have hfit : ((q - p : Int) : ℚ) < 2 ^ 64 := by push_cast; linarith
    obtain ⟨n, hn⟩ : ∃ n : Nat, q - p = n := Int.eq_ofNat_of_zero_le (by omega)
    have hnq : (n : ℚ) = q - p := by exact_mod_cast hn.symm
    have hn64 : n < 2 ^ 64 := by
      rw [hn, Int.cast_natCast] at hfit
      exact_mod_cast hfit
    have hstop : a + q * s = a + p * s + n * s := by rw [hnq]; ring
    rw [hstop, stepsBetween_lattice hs (by omega) hn64]
    refine ⟨rfl, ⟨by omega, ⟨p, rfl⟩, ⟨q, by rw [← hstop]⟩, by linarith, by linarith,
      .inl ⟨by linarith, by linarith⟩⟩⟩

/-- The grid around a box, in exact arithmetic. For every box, every non-zero
resolution `(rx, ry)` and every alignment, the grid is built; along each axis
its pixels, of size `|rx|` and `|ry|`, cover the side as the smallest run on
the shifted lattice does (`AxisCover`), and the origin is the low edge for a
positive resolution and the high edge for a negative one. `GeoBox.ofBox` puts
the transform `(rx, 0, originX, 0, ry, originY)` on it. The box spans fewer
than `2^64 - 2` pixels along each axis, so that no pixel count saturates. -/
theorem boxGrid_smallest_cover (minX minY maxX maxY rx ry : ℚ) (align : Option (ℚ × ℚ))
    (hrx : rx ≠ 0) (hry : ry ≠ 0)
    (hnx : (maxX - minX) / |rx| + 2 ≤ 2 ^ 64) (hny : (maxY - minY) / |ry| + 2 ≤ 2 ^ 64) :
    ∃ g x0 y0, boxGrid minX minY maxX maxY (rx, ry) align = .ok g ∧
      g.originX = (if 0 < rx then x0 else x0 + g.width * |rx|) ∧
      g.originY = (if 0 < ry then y0 else y0 + g.height * |ry|) ∧
      AxisCover minX maxX (align.getD (0, 0)).1 |rx| x0 g.width ∧
      AxisCover minY maxY (align.getD (0, 0)).2 |ry| y0 g.height := by
  obtain ⟨hx, hcx⟩ := snapSpan_axisCover (a := (align.getD (0, 0)).1) (abs_pos.2 hrx) hnx
  obtain ⟨hy, hcy⟩ := snapSpan_axisCover (a := (align.getD (0, 0)).2) (abs_pos.2 hry) hny
  set ex := snapSpan minX maxX |rx| (align.getD (0, 0)).1
  set ey := snapSpan minY maxY |ry| (align.getD (0, 0)).2
  have hzero : (0.0 : ℚ) = 0 := by norm_num
  refine ⟨{ originX := if 0 < rx then ex.1 else ex.2, originY := if 0 < ry then ey.1 else ey.2
            height := stepsBetween ey.1 ey.2 |ry|, width := stepsBetween ex.1 ex.2 |rx| },
    ex.1, ey.1, ?_, ?_, ?_, hcx, hcy⟩
  · simp only [boxGrid, hzero, Scalar.isFinite_rat, Bool.not_true, Bool.or_false,
      Scalar.abs_rat, gt_iff_lt]
    rw [if_neg (by simp [hrx, hry])]
  · by_cases h : 0 < rx
    · simp only [if_pos h]
    · simp only [if_neg h]
      exact hx
  · by_cases h : 0 < ry
    · simp only [if_pos h]
    · simp only [if_neg h]
      exact hy

/-- The grid of the box `[0.05, 0.95] × [-0.95, -0.05]` at a tenth of a unit,
north-up, covers it as the smallest lattice run does along both axes. -/
theorem tenth_unit_grid_covers :
    ∃ g x0 y0, boxGrid (0.05 : ℚ) (-0.95) 0.95 (-0.05) (0.1, -0.1) none = .ok g ∧
      g.originX = x0 ∧ g.originY = y0 + g.height * (0.1 : ℚ) ∧
      AxisCover 0.05 0.95 0 0.1 x0 g.width ∧ AxisCover (-0.95) (-0.05) 0 0.1 y0 g.height := by
  obtain ⟨g, x0, y0, hg, hox, hoy, hcx, hcy⟩ := boxGrid_smallest_cover (0.05 : ℚ) (-0.95) 0.95
    (-0.05) 0.1 (-0.1) none (by norm_num) (by norm_num) (by norm_num) (by norm_num)
  have hx : |(0.1 : ℚ)| = 0.1 := by norm_num
  have hy : |(-0.1 : ℚ)| = 0.1 := by norm_num
  have hpos : (0 : ℚ) < 0.1 := by norm_num
  have hneg : ¬(0 : ℚ) < -0.1 := by norm_num
  rw [if_pos hpos] at hox
  rw [if_neg hneg, hy] at hoy
  rw [hx] at hcx
  rw [hy] at hcy
  exact ⟨g, x0, y0, hg, hox, hoy, hcx, hcy⟩

/-- A box `3·10^19` pixels wide is cut short: its width saturates at
`2^64 - 1` pixels, and the grid ends before the box does. -/
theorem boxGrid_width_saturates :
    ∃ g, boxGrid (0 : ℚ) 0 (3 * 10 ^ 19) 1 (1, -1) none = .ok g ∧
      g.width = 2 ^ 64 - 1 ∧ g.originX + g.width * 1 < 3 * 10 ^ 19 := by
  have h : (boxGrid (0 : ℚ) 0 (3 * 10 ^ 19) 1 (1, -1) none).map (fun g => (g.originX, g.width)) =
      .ok (0, 2 ^ 64 - 1) := by
    decide +kernel
  cases hg : boxGrid (0 : ℚ) 0 (3 * 10 ^ 19) 1 (1, -1) none with
  | error e =>
    rw [hg] at h
    cases h
  | ok g =>
    rw [hg] at h
    simp only [Except.map, Except.ok.injEq, Prod.mk.injEq] at h
    refine ⟨g, rfl, h.2, ?_⟩
    rw [h.1, h.2]
    norm_num

end Geocube
