import Geocube.Proofs.Grid.Chunks
import Geocube.Proofs.Load.Compute

/-!
Each pixel of a lazy cube comes from one unit.

A plan makes one unit per group, band and chunk, so for every group and band the
units' windows tile the grid as the chunks do: each pixel lies in the window of
exactly one of them (`new_countP_covers`). Assembling a cube writes every
computed chunk into its window over the band's fill, in plan order
(`assemble_plane`), so a pixel that one computed unit covers holds that unit's
chunk there, whatever the other units wrote (`foldl_assembleStep_of_single`).

Main statement, `chunks_partition_plan`: the chunks of every grid in every chunk
size tile it (non-empty, inside the grid, at most the chunk size, pairwise
disjoint, row-major, each pixel once); for every group and band of a plan
exactly one unit covers each pixel; and after a successful compute each pixel of
each plane is the pixel of that unit's own computed chunk.
-/

namespace Geocube

/-- A count over a `flatMap` to which only the block of `a₀` contributes. -/
theorem countP_flatMap_eq_of_single {α β : Type} [DecidableEq α] {p : β → Bool} {f : α → List β}
    {l : List α} {a₀ : α} {n : Nat} (hl : l.Nodup) (ha : a₀ ∈ l)
    (hf : ∀ a ∈ l, (f a).countP p = if a = a₀ then n else 0) : (l.flatMap f).countP p = n := by
  induction l with
  | nil => cases ha
  | cons a l ih =>
    obtain ⟨hal, hnd⟩ := List.nodup_cons.1 hl
    rw [List.flatMap_cons, List.countP_append, hf a List.mem_cons_self]
    by_cases h : a = a₀
    · subst h
      -- the block of `a` occurs once, so the later blocks count nothing
      have hrest : (l.flatMap f).countP p = 0 := by
        refine List.countP_eq_zero.2 fun x hx => ?_
        obtain ⟨a', ha', hx'⟩ := List.mem_flatMap.1 hx
        have hzero := hf a' (List.mem_cons_of_mem _ ha')
        rw [if_neg (fun (e : a' = a) => hal (e ▸ ha'))] at hzero
        exact List.countP_eq_zero.1 hzero x hx'
      rw [if_pos rfl, hrest, Nat.add_zero]
    · rw [if_neg h, Nat.zero_add]
      exact ih hnd ((List.mem_cons.1 ha).resolve_left (Ne.symm h))
        fun a' ha' => hf a' (List.mem_cons_of_mem _ ha')

namespace LazyCube

/-! ## Units of a plan -/

section New

variable (groups : List Group) (g : GeoBox) (ms : List Measurement) (ctx : PlaneContext)
  (chunk : Nat × Nat)

/-- For every group and band of a plan, each pixel of the grid lies in the window
of exactly one unit. -/
theorem new_countP_covers {gr b row col : Nat} (hgr : gr < groups.length) (hb : b < ms.length)
    (hr : row < g.height) (hc : col < g.width) :
    (new groups g ms ctx chunk).units.countP
      (fun u => u.group == gr && u.band == b && u.window.contains ⟨row, col, 1, 1⟩) = 1 := by
  simp only [new]
  refine countP_flatMap_eq_of_single List.nodup_range (List.mem_range.2 hgr) fun gr' _ => ?_
  by_cases hg : gr' = gr
  · -- the units of group `gr`: only band `b` counts, once per pixel
    subst hg
    rw [if_pos rfl]
    refine countP_flatMap_eq_of_single List.nodup_range (List.mem_range.2 hb) fun b' _ => ?_
    by_cases hbb : b' = b
    · subst hbb
      rw [if_pos rfl, List.countP_map]
      refine Eq.trans (List.countP_congr fun w _ => ?_) ((g.chunks_tile chunk).2.2 row col hr hc)
      simp
    · rw [if_neg hbb, List.countP_eq_zero]
      intro u hu
      obtain ⟨w, -, rfl⟩ := List.mem_map.1 hu
      simp [hbb]
  · rw [if_neg hg, List.countP_eq_zero]
    intro u hu
    obtain ⟨b', -, hu⟩ := List.mem_flatMap.1 hu
    obtain ⟨w, -, rfl⟩ := List.mem_map.1 hu
    simp [hg]

end New

/-! ## Assembling a plane -/

/-- One step of assembling plane `(gr, b)`: a computed unit of that group and band
writes its chunk into its window. -/
def assembleStep (gr b : Nat) (p : Raster) (e : ComputeUnit × Option (Raster × List SkippedRead)) :
    Raster :=
  match e.2 with
  | some (chunk, _) => if e.1.group == gr && e.1.band == b then assignWindow p e.1.window chunk else p
  | none => p

/-- Whether an entry of a cube writes pixel `(row, col)` of plane `(gr, b)`: a
computed unit of that group and band whose window holds the pixel. -/
def covers (gr b row col : Nat) (e : ComputeUnit × Option (Raster × List SkippedRead)) : Bool :=
  e.2.isSome && e.1.group == gr && e.1.band == b && e.1.window.contains ⟨row, col, 1, 1⟩

/-- Plane `(gr, b)` of an assembled cube: the band's fill, with the units written
into it in plan order. -/
theorem assemble_plane (c : LazyCube) {gr b : Nat} (hgr : gr < c.groups.length)
    (hb : b < c.measurements.length) :
    (c.assemble.data[gr]?).bind (·[b]?) = some ((c.units.zip c.results).foldl (assembleStep gr b)
      (Raster.filled c.geobox.height c.geobox.width
        ((c.measurements.map (·.fillValue)).getD b Binary64.nan))) := by
  simp only [assemble, List.getElem?_map, List.getElem?_range hgr, List.getElem?_range hb,
    Option.map_some, Option.bind_some]
  rfl

section Step

variable {gr b row col : Nat} {p : Raster}

theorem assembleStep_height (e : ComputeUnit × Option (Raster × List SkippedRead)) :
    (assembleStep gr b p e).height = p.height := by
  obtain ⟨u, _ | ⟨chunk, s⟩⟩ := e
  · rfl
  · simp only [assembleStep]
    split <;> rfl

theorem assembleStep_width (e : ComputeUnit × Option (Raster × List SkippedRead)) :
    (assembleStep gr b p e).width = p.width := by
  obtain ⟨u, _ | ⟨chunk, s⟩⟩ := e
  · rfl
  · simp only [assembleStep]
    split <;> rfl

/-- Writing a block into a window changes the pixels the window holds, to the
block's, and no other. -/
theorem assignWindow_get {dst block : Raster} {w : Window} (hr : row < dst.height) (hc : col < dst.width) :
    (assignWindow dst w block).get row col =
      if w.contains ⟨row, col, 1, 1⟩ then block.get (row - w.rowOff) (col - w.colOff) else dst.get row col := by
  have hcond : (w.rowOff ≤ row && row < w.rowEnd && w.colOff ≤ col && col < w.colEnd) =
      w.contains ⟨row, col, 1, 1⟩ := by
    rw [Bool.eq_iff_iff, Window.contains_pixel]
    simp only [Bool.and_eq_true, decide_eq_true_eq]
    simp only [Window.rowEnd, Window.colEnd, and_assoc]
  rw [assignWindow, Raster.get_ofFn hr hc, hcond]

/-- A step that does not cover a pixel leaves it. -/
theorem assembleStep_get_of_not_covers {e : ComputeUnit × Option (Raster × List SkippedRead)}
    (hr : row < p.height) (hc : col < p.width) (h : covers gr b row col e = false) :
    (assembleStep gr b p e).get row col = p.get row col := by
  obtain ⟨u, _ | ⟨chunk, s⟩⟩ := e
  · rfl
  · simp only [assembleStep]
    split
    · next hgb =>
      simp only [covers, hgb, Option.isSome_some, Bool.true_and] at h
      rw [assignWindow_get hr hc, if_neg (by simp [h])]
    · rfl

/-- A step that covers a pixel writes its chunk's pixel there. -/
theorem assembleStep_get_of_covers {u : ComputeUnit} {chunk : Raster} {s : List SkippedRead}
    (hr : row < p.height) (hc : col < p.width) (h : covers gr b row col (u, some (chunk, s)) = true) :
    (assembleStep gr b p (u, some (chunk, s))).get row col =
      chunk.get (row - u.window.rowOff) (col - u.window.colOff) := by
  simp only [covers, Option.isSome_some, Bool.true_and, Bool.and_eq_true] at h
  obtain ⟨hgb, hin⟩ := h
  dsimp only [assembleStep]
  rw [if_pos (by simpa using hgb), assignWindow_get hr hc, if_pos hin]

end Step

/-- Assembling over entries none of which covers a pixel leaves it, and keeps the
plane's shape. -/
theorem foldl_assembleStep_frame {gr b row col : Nat}
    (L : List (ComputeUnit × Option (Raster × List SkippedRead))) (hL : ∀ e ∈ L, covers gr b row col e = false)
    {p : Raster} (hr : row < p.height) (hc : col < p.width) :
    (L.foldl (assembleStep gr b) p).get row col = p.get row col := by
  induction L generalizing p with
  | nil => rfl
  | cons e L ih =>
    rw [List.foldl_cons, ih (fun e' he' => hL e' (List.mem_cons_of_mem _ he'))
      (by rw [assembleStep_height]; exact hr) (by rw [assembleStep_width]; exact hc)]
    exact assembleStep_get_of_not_covers hr hc (hL e List.mem_cons_self)

/-- Assembling over entries exactly one of which covers a pixel leaves that
entry's chunk pixel there. -/
theorem foldl_assembleStep_of_single {gr b row col : Nat} {u : ComputeUnit} {chunk : Raster}
    {s : List SkippedRead} (L : List (ComputeUnit × Option (Raster × List SkippedRead)))
    (hL : L.filter (covers gr b row col) = [(u, some (chunk, s))]) {p : Raster} (hr : row < p.height)
    (hc : col < p.width) :
    (L.foldl (assembleStep gr b) p).get row col = chunk.get (row - u.window.rowOff) (col - u.window.colOff) := by
  induction L generalizing p with
  | nil => cases hL
  | cons e L ih =>
    have hr' : row < (assembleStep gr b p e).height := by rw [assembleStep_height]; exact hr
    have hc' : col < (assembleStep gr b p e).width := by rw [assembleStep_width]; exact hc
    rw [List.foldl_cons]
    rw [List.filter_cons] at hL
    split at hL
    · -- `e` is the covering entry, and none after it covers the pixel
      next he =>
      obtain ⟨rfl, hrest⟩ := List.cons_eq_cons.1 hL
      rw [foldl_assembleStep_frame L (fun e' he' => by
          simpa using List.filter_eq_nil_iff.1 hrest e' he') hr' hc']
      exact assembleStep_get_of_covers hr hc he
    · exact ih hL hr' hc'

/-- With every unit stored, an entry covers a pixel exactly when its unit is of
the group and band and its window holds the pixel. -/
theorem countP_zip_covers {c : LazyCube} (hl : c.results.length = c.units.length)
    (hall : ∀ j < c.units.length, (c.stored j).isSome) (gr b row col : Nat) :
    (c.units.zip c.results).countP (covers gr b row col) =
      c.units.countP (fun u => u.group == gr && u.band == b && u.window.contains ⟨row, col, 1, 1⟩) := by
  have hsome : ∀ e ∈ c.units.zip c.results, e.2.isSome = true := by
    intro e he
    obtain ⟨j, hj⟩ := List.mem_iff_getElem?.1 he
    obtain ⟨hu, hr⟩ := List.getElem?_zip_eq_some.1 hj
    have hs := hall j (List.getElem?_eq_some_iff.1 hu).1
    unfold stored at hs
    rw [hr] at hs
    simpa using hs
  have hcongr : ∀ e ∈ c.units.zip c.results, covers gr b row col e = true ↔
      (e.1.group == gr && e.1.band == b && e.1.window.contains ⟨row, col, 1, 1⟩) = true := by
    intro e he
    simp [covers, hsome e he, Bool.and_assoc]
  calc (c.units.zip c.results).countP (covers gr b row col)
      _ = (c.units.zip c.results).countP
          (fun e => e.1.group == gr && e.1.band == b && e.1.window.contains ⟨row, col, 1, 1⟩) :=
        List.countP_congr hcongr
      _ = ((c.units.zip c.results).map Prod.fst).countP
          (fun u => u.group == gr && u.band == b && u.window.contains ⟨row, col, 1, 1⟩) := by
        rw [List.countP_map]
        rfl
      _ = _ := by rw [List.map_fst_zip (by omega)]

end LazyCube

/-- Lazy loading covers the grid once per group and band. The chunks of every
grid in every chunk size `(rows, cols)` tile it: each is a non-empty block inside
the grid of at most `max rows 1 × max cols 1` pixels, they are pairwise disjoint
and listed in row-major order, and each pixel lies in exactly one. In a plan, for
every group and band, each pixel lies in the window of exactly one unit; and
after any successful compute, from any state the plan reached, each pixel of each
plane is the pixel of that unit's chunk, as computing the unit from scratch
gives it. -/
theorem chunks_partition_plan (groups : List Group) (g : GeoBox) (ms : List Measurement)
    (ctx : PlaneContext) (chunk : Nat × Nat) :
    (∀ w ∈ g.chunks chunk, 0 < w.height ∧ 0 < w.width ∧ g.fullWindow.contains w = true ∧
      w.height ≤ max chunk.1 1 ∧ w.width ≤ max chunk.2 1) ∧
    (g.chunks chunk).Pairwise (fun v w => v.intersection w = none ∧ Window.RowMajor v w) ∧
    (∀ row col, row < g.height → col < g.width →
      (g.chunks chunk).countP (·.contains ⟨row, col, 1, 1⟩) = 1) ∧
    (∀ gr b row col, gr < groups.length → b < ms.length → row < g.height → col < g.width →
      (LazyCube.new groups g ms ctx chunk).units.countP
        (fun u => u.group == gr && u.band == b && u.window.contains ⟨row, col, 1, 1⟩) = 1) ∧
    (∀ t c s cancelled cube c', (LazyCube.new groups g ms ctx chunk).Runs t c →
      c.compute s cancelled = (.ok cube, c') →
      ∀ gr b row col, gr < groups.length → b < ms.length → row < g.height → col < g.width →
        ∃ j u block skipped, (LazyCube.new groups g ms ctx chunk).units[j]? = some u ∧
          u.group = gr ∧ u.band = b ∧ u.window.contains ⟨row, col, 1, 1⟩ = true ∧
          (LazyCube.new groups g ms ctx chunk).unitResult j = some (.ok (block, skipped)) ∧
          ((cube.data[gr]?).bind (·[b]?)).map (·.get row col) =
            some (block.get (row - u.window.rowOff) (col - u.window.colOff))) := by
  obtain ⟨hsize, hpair, hcount⟩ := g.chunks_tile chunk
  refine ⟨hsize, hpair, hcount, fun gr b row col hgr hb hr hc =>
    LazyCube.new_countP_covers groups g ms ctx chunk hgr hb hr hc, ?_⟩
  intro t c s cancelled cube c' hrun hcomp gr b row col hgr hb hr hc
  -- the compute finished every pending unit: the plan is computed in full
  have h₀ := LazyCube.new_fresh groups g ms ctx chunk
  have hm := hrun.memo h₀.memo
  obtain ⟨hruns, rfl⟩ := LazyCube.runs_of_compute_eq_ok hm hcomp
  have hm' := hruns.memo hm
  have hall := hruns.stored_of_perm hm h₀.valid (List.Perm.refl _)
  have hunits := hm'.units_eq
  have hplan : c'.groups = groups ∧ c'.measurements = ms ∧ c'.geobox = g := by
    rw [hm'.plan]
    exact ⟨rfl, rfl, rfl⟩
  rw [← hunits] at hall
  -- exactly one entry of the cube covers the pixel of plane `(gr, b)`
  have hcount : (c'.units.zip c'.results).countP (LazyCube.covers gr b row col) = 1 := by
    rw [LazyCube.countP_zip_covers (hm'.length.trans (congrArg List.length hunits).symm) hall, hunits]
    exact LazyCube.new_countP_covers groups g ms ctx chunk hgr hb hr hc
  rw [List.countP_eq_length_filter, List.length_eq_one_iff] at hcount
  obtain ⟨⟨u, r⟩, hfilter⟩ := hcount
  have hmem : (u, r) ∈ (c'.units.zip c'.results).filter (LazyCube.covers gr b row col) := by
    rw [hfilter]
    exact List.mem_singleton_self _
  obtain ⟨hzip, hcov⟩ := List.mem_filter.1 hmem
  obtain ⟨j, hj⟩ := List.mem_iff_getElem?.1 hzip
  obtain ⟨hu, hr'⟩ := List.getElem?_zip_eq_some.1 hj
  obtain ⟨⟨block, skipped⟩, rfl⟩ : ∃ x, r = some x :=
    Option.isSome_iff_exists.1 (by simp only [LazyCube.covers, Bool.and_eq_true] at hcov; exact hcov.1.1.1)
  have hstored : c'.stored j = some (block, skipped) := by
    unfold LazyCube.stored
    rw [hr']
    rfl
  simp only [LazyCube.covers, Option.isSome_some, Bool.true_and, Bool.and_eq_true, beq_iff_eq] at hcov
  refine ⟨j, u, block, skipped, hunits ▸ hu, hcov.1.1, hcov.1.2, hcov.2, hm'.sound j _ hstored, ?_⟩
  rw [LazyCube.assemble_plane c' (by rw [hplan.1]; exact hgr) (by rw [hplan.2.1]; exact hb),
    Option.map_some]
  congr 1
  refine LazyCube.foldl_assembleStep_of_single _ hfilter ?_ ?_
  · simpa [Raster.filled, Plane.ofFn, hplan.2.2] using hr
  · simpa [Raster.filled, Plane.ofFn, hplan.2.2] using hc

end Geocube
