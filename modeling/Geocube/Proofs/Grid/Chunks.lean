import Geocube.Grid.GeoBox

/-!
Chunks tile their grid.

An axis of `total` pixels is cut into pieces of `s = max step 1` pixels, the
last one clipped: piece `k` starts at `k · s` (`mem_pieces`), so the pieces are
non-empty, end inside the axis, follow one another with no gap and no overlap,
and each pixel lies in exactly one of them, the one numbered `x / s`
(`pieces_countP_covers`). The chunks of a grid pair every piece of the rows
with every piece of the columns, rows outside (`mem_tiles`).

Main statement, `GeoBox.chunks_tile`: for every shape and every chunk size,
every chunk is non-empty, inside the grid and at most the chunk size (a zero
counting as one); chunks are pairwise disjoint and come in row-major order; and
every pixel of the grid lies in exactly one chunk.
-/

namespace Geocube
namespace Window

/-! ## Pieces of an axis -/

theorem contains_iff (v w : Window) :
    v.contains w = true ↔
      v.rowOff ≤ w.rowOff ∧ v.colOff ≤ w.colOff ∧ w.rowEnd ≤ v.rowEnd ∧ w.colEnd ≤ v.colEnd := by
  simp only [contains, Bool.and_eq_true, decide_eq_true_eq, ge_iff_le, and_assoc]

/-- The pixel `(row, col)` lies in the window. -/
theorem contains_pixel (w : Window) (row col : Nat) :
    w.contains ⟨row, col, 1, 1⟩ = true ↔
      (w.rowOff ≤ row ∧ row < w.rowOff + w.height) ∧ (w.colOff ≤ col ∧ col < w.colOff + w.width) := by
  rw [contains_iff]
  simp only [rowEnd, colEnd]
  omega

theorem intersection_eq_none_of_rowEnd_le {v w : Window} (h : v.rowEnd ≤ w.rowOff) :
    v.intersection w = none := by
  simp [intersection, rowEnd, colEnd] at h ⊢
  omega

theorem intersection_eq_none_of_colEnd_le {v w : Window} (h : v.colEnd ≤ w.colOff) :
    v.intersection w = none := by
  simp [intersection, rowEnd, colEnd] at h ⊢
  omega

section Pieces

variable {total step : Nat}

/-- There are as many pieces as steps of `s` start below the total. -/
theorem lt_pieceCount_iff {s k : Nat} (hs : 0 < s) : k < (total + s - 1) / s ↔ k * s < total := by
  rw [← Nat.add_one_le_iff, Nat.le_div_iff_mul_le hs, Nat.succ_mul]
  omega

/-- Piece `k` starts at `k · s` and runs to the next step or the end of the axis. -/
theorem mem_pieces {p : Nat × Nat} :
    p ∈ pieces total step ↔ ∃ k, k * max step 1 < total ∧
      p = (k * max step 1, min (max step 1) (total - k * max step 1)) := by
  simp only [pieces, List.mem_map, List.mem_range, lt_pieceCount_iff (Nat.le_max_right step 1)]
  constructor
  · rintro ⟨k, hk, rfl⟩
    exact ⟨k, hk, rfl⟩
  · rintro ⟨k, hk, rfl⟩
    exact ⟨k, hk, rfl⟩

/-- A piece has at least one pixel, at most a step of them, and ends inside the axis. -/
theorem piece_bounds {p : Nat × Nat} (hp : p ∈ pieces total step) :
    0 < p.2 ∧ p.2 ≤ max step 1 ∧ p.1 + p.2 ≤ total := by
  obtain ⟨k, hk, rfl⟩ := mem_pieces.1 hp
  have hs : 0 < max step 1 := Nat.le_max_right step 1
  refine ⟨?_, Nat.min_le_left _ _, ?_⟩ <;> simp only [Nat.min_def] <;> split <;> omega

/-- Each piece ends where or before the next one starts. -/
theorem pieces_pairwise : (pieces total step).Pairwise fun p q => p.1 + p.2 ≤ q.1 := by
  have hs : 0 < max step 1 := Nat.le_max_right step 1
  unfold pieces
  refine List.pairwise_map.2 (List.pairwise_lt_range.imp fun {k k'} hk => ?_)
  -- piece `k` ends by `(k + 1) · s`, where piece `k' > k` starts at the earliest
  have hstep : (k + 1) * max step 1 ≤ k' * max step 1 := Nat.mul_le_mul_right _ hk
  rw [Nat.succ_mul] at hstep
  dsimp only
  omega

/-- A pixel of the axis lies in exactly one piece: the one its position divided
by the step numbers. -/
theorem pieces_countP_covers {x : Nat} (hx : x < total) :
    (pieces total step).countP (fun p => decide (p.1 ≤ x ∧ x < p.1 + p.2)) = 1 := by
  have hs : 0 < max step 1 := Nat.le_max_right step 1
  simp only [pieces, List.countP_map, Function.comp_def]
  generalize max step 1 = s at hs ⊢
  have hq : x / s < (total + s - 1) / s :=
    (lt_pieceCount_iff hs).2 (Nat.lt_of_le_of_lt (Nat.div_mul_le_self x s) hx)
  -- piece `k` holds `x` exactly when `k = x / s`
  have hcov : ∀ k ∈ List.range ((total + s - 1) / s),
      decide (k * s ≤ x ∧ x < k * s + min s (total - k * s)) = true ↔ (k == x / s) = true := by
    intro k _
    rw [decide_eq_true_iff, beq_iff_eq]
    constructor
    · rintro ⟨hlo, hhi⟩
      have h₁ : k ≤ x / s := (Nat.le_div_iff_mul_le hs).2 hlo
      have h₂ : x / s < k + 1 := (Nat.div_lt_iff_lt_mul hs).2 (by rw [Nat.succ_mul]; omega)
      omega
    · rintro rfl
      have hnext := @Nat.lt_div_mul_add x s hs
      have hdiv := Nat.div_mul_le_self x s
      omega
  rw [List.countP_congr hcov, ← List.count_eq_countP, List.nodup_range.count,
    if_pos (List.mem_range.2 hq)]

end Pieces

/-! ## Tiles of a grid -/

section Tiles

variable {height width rows cols : Nat}

theorem tiles_eq : tiles height width rows cols =
    (pieces height rows).flatMap fun r => (pieces width cols).map fun c => ⟨r.1, c.1, r.2, c.2⟩ := rfl

theorem mem_tiles {v : Window} :
    v ∈ tiles height width rows cols ↔
      ∃ r c, r ∈ pieces height rows ∧ c ∈ pieces width cols ∧ v = ⟨r.1, c.1, r.2, c.2⟩ := by
  simp only [tiles_eq, List.mem_flatMap, List.mem_map]
  constructor
  · rintro ⟨r, hr, c, hc, rfl⟩
    exact ⟨r, c, hr, hc, rfl⟩
  · rintro ⟨r, c, hr, hc, rfl⟩
    exact ⟨r, hr, c, hc, rfl⟩

/-- A tile is a non-empty block inside the grid, of at most `rows × cols` pixels
(a zero counting as one). -/
theorem tile_bounds {v : Window} (hv : v ∈ tiles height width rows cols) :
    0 < v.height ∧ 0 < v.width ∧ v.rowEnd ≤ height ∧ v.colEnd ≤ width ∧
      v.height ≤ max rows 1 ∧ v.width ≤ max cols 1 := by
  obtain ⟨r, c, hr, hc, rfl⟩ := mem_tiles.1 hv
  obtain ⟨hr0, hrs, hre⟩ := piece_bounds hr
  obtain ⟨hc0, hcs, hce⟩ := piece_bounds hc
  exact ⟨hr0, hc0, hre, hce, hrs, hcs⟩

/-- Window `v` comes before `w` in row-major order of their top-left pixels. -/
def RowMajor (v w : Window) : Prop := v.rowOff < w.rowOff ∨ (v.rowOff = w.rowOff ∧ v.colOff < w.colOff)

/-- Tiles are pairwise disjoint and listed in row-major order: within a band of
rows the column pieces follow one another, and each band ends before the next. -/
theorem tiles_pairwise :
    (tiles height width rows cols).Pairwise fun v w => v.intersection w = none ∧ RowMajor v w := by
  rw [tiles_eq]
  refine List.pairwise_flatMap.2 ⟨fun r hr => List.pairwise_map.2 ?_, ?_⟩
  · -- one band: the columns separate the tiles
    refine (List.Pairwise.and_mem.1 pieces_pairwise).imp fun {c c'} h => ?_
    obtain ⟨hc, -, hcc'⟩ := h
    have hpos := (piece_bounds hc).1
    exact ⟨intersection_eq_none_of_colEnd_le hcc', .inr ⟨rfl, by dsimp only; omega⟩⟩
  · -- two bands: the rows separate the tiles
    refine (List.Pairwise.and_mem.1 pieces_pairwise).imp fun {r r'} h => ?_
    obtain ⟨hr, -, hrr'⟩ := h
    have hpos := (piece_bounds hr).1
    intro v hv w hw
    obtain ⟨c, -, rfl⟩ := List.mem_map.1 hv
    obtain ⟨c', -, rfl⟩ := List.mem_map.1 hw
    exact ⟨intersection_eq_none_of_rowEnd_le hrr', .inl (by dsimp only; omega)⟩

/-- Counting tiles by a test that reads their rows and their columns apart
multiplies a count of row pieces by a count of column pieces. -/
theorem tiles_countP {p : Window → Bool} {P Q : Nat × Nat → Bool}
    (hp : ∀ r c, p ⟨r.1, c.1, r.2, c.2⟩ = (P r && Q c)) :
    (tiles height width rows cols).countP p =
      (pieces height rows).countP P * (pieces width cols).countP Q := by
  rw [tiles_eq]
  generalize pieces height rows = rs
  induction rs with
  | nil => simp
  | cons r rs ih =>
    -- the band of `r` counts the column pieces when `P r`, and nothing otherwise
    have hband : ((pieces width cols).map fun c => (⟨r.1, c.1, r.2, c.2⟩ : Window)).countP p =
        if P r then (pieces width cols).countP Q else 0 := by
      rw [List.countP_map]
      cases hP : P r <;> simp [Function.comp_def, hp, hP]
    rw [List.flatMap_cons, List.countP_append, ih, hband, List.countP_cons]
    cases P r <;> simp [Nat.succ_mul, Nat.add_comm]

/-- Every pixel of the grid lies in exactly one tile. -/
theorem tiles_countP_contains {row col : Nat} (hr : row < height) (hc : col < width) :
    (tiles height width rows cols).countP (·.contains ⟨row, col, 1, 1⟩) = 1 := by
  rw [tiles_countP (P := fun r => decide (r.1 ≤ row ∧ row < r.1 + r.2))
    (Q := fun c => decide (c.1 ≤ col ∧ col < c.1 + c.2)), pieces_countP_covers hr,
    pieces_countP_covers hc]
  intro r c
  rw [Bool.eq_iff_iff, Bool.and_eq_true, decide_eq_true_iff, decide_eq_true_iff]
  exact contains_pixel ⟨r.1, c.1, r.2, c.2⟩ row col

end Tiles
end Window

namespace GeoBox

/-- The chunks of a grid tile it: for every shape and every chunk size, every
chunk is a non-empty block inside the whole grid's window, of at most the chunk
size (a zero counting as one); chunks are pairwise disjoint and listed in
row-major order; and every pixel of the grid lies in exactly one chunk. -/
theorem chunks_tile (g : GeoBox) (chunk : Nat × Nat) :
    (∀ w ∈ g.chunks chunk, 0 < w.height ∧ 0 < w.width ∧ g.fullWindow.contains w = true ∧
      w.height ≤ max chunk.1 1 ∧ w.width ≤ max chunk.2 1) ∧
    (g.chunks chunk).Pairwise (fun v w => v.intersection w = none ∧ Window.RowMajor v w) ∧
    (∀ row col, row < g.height → col < g.width →
      (g.chunks chunk).countP (·.contains ⟨row, col, 1, 1⟩) = 1) := by
  refine ⟨fun w hw => ?_, Window.tiles_pairwise, fun row col hr hc => Window.tiles_countP_contains hr hc⟩
  obtain ⟨hh, hw', hre, hce, hhs, hws⟩ := Window.tile_bounds hw
  refine ⟨hh, hw', ?_, hhs, hws⟩
  rw [Window.contains_iff]
  simp only [fullWindow, Window.rowEnd, Window.colEnd, height, width] at hre hce ⊢
  omega

end GeoBox
end Geocube
