import Geocube.Raster.Fuse
import Geocube.Load.Error
import Geocube.Catalog.Measurement

/-!
Masks over bit-field bands.

A flag of a band names a group of bits and the meaning of each value they can
take. A condition `(flag, meaning)` selects the pixels whose bits hold the value
with that meaning, compared without regard to ASCII case; the decimal text of
the value itself is accepted too. A pixel that is not finite, or negative, never
matches, and a larger one is read as its whole part, up to `2^64 - 1`.
-/

namespace Geocube

/-- A resolved condition: pixels with `(v &&& mask) >>> shift = expected`. -/
structure BitTest where
  mask : Nat
  shift : Nat
  expected : Nat
  deriving Inhabited, Repr

namespace BitTest

/-- Whether two texts agree up to the case of ASCII letters. -/
def sameIgnoringCase (a b : String) : Bool := Text.asciiLower a == Text.asciiLower b

/-- The test a condition asks for, or why it cannot be made. -/
def resolve (flags : List (String × FlagDefinition)) (flag wanted : String) : LoadResult BitTest := do
  let some d := flags.lookup flag | throw (.invalidMask s!"unknown flag '{flag}'")
  let positions := d.bits.positions
  if positions.any (· ≥ 64) then throw (.invalidMask s!"flag '{flag}' uses bits beyond 63")
  let shift := (positions.min?).getD 0
  let mask := positions.foldl (fun m p => m ||| pow2 p) 0
  let key := match d.values.find? (fun (_, v) => sameIgnoringCase (flagMeaning v) wanted) with
    | some (k, _) => some k
    | none => if (d.values.lookup wanted).isSome then some wanted else none
  match key.bind flagValue? with
  | some expected => return ⟨mask, shift, expected⟩
  | none => throw (.invalidMask s!"flag '{flag}' has no value '{wanted}'")

/-- Whether a pixel passes the test. -/
def passes (t : BitTest) (pixel : Float) : Bool :=
  if !pixel.isFinite || pixel < 0.0 then false
  else ((Binary64.toNatClamped pixel &&& t.mask) >>> t.shift) == t.expected

end BitTest

/-- The pixels of a plane meeting every `(flag, meaning)` condition; at least
one condition is needed. -/
def makeMask (plane : Raster) (flags : List (String × FlagDefinition))
    (conditions : List (String × String)) : LoadResult Mask := do
  if conditions.isEmpty then throw (.invalidMask "no flag conditions given")
  let tests ← conditions.mapM fun (f, w) => BitTest.resolve flags f w
  return plane.map fun v => tests.all (·.passes v)

/-- The pixels that are not nodata. -/
def validDataMask (plane : Raster) (nodata : Float) : Mask := plane.map fun v => !isNodata v nodata

/-- Every pixel outside the mask set to nodata; `none` when the shapes differ. -/
def applyMask (plane : Raster) (mask : Mask) (nodata : Float) : Option Raster :=
  Plane.zipWith? (fun v keep => if keep then v else nodata) plane mask

end Geocube
