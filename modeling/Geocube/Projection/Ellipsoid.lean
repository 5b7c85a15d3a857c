import Geocube.Geo.Scalar

/-!
Reference ellipsoids, and the angle arithmetic the projections share.

An ellipsoid is given by its semi-major axis in metres and its inverse
flattening; the eccentricities follow from them. Longitude differences are
brought into `[-π, π]` by adding or subtracting whole turns one at a time,
which keeps the rounding of each step.
-/

namespace Geocube

/-- A reference ellipsoid. -/
structure Ellipsoid where
  /-- Semi-major axis, in metres. -/
  a : Float
  /-- Inverse flattening. -/
  invF : Float
  deriving Inhabited

namespace Ellipsoid

def wgs84 : Ellipsoid := ⟨6378137.0, 298.257223563⟩

def grs80 : Ellipsoid := ⟨6378137.0, 298.257222101⟩

def flattening (el : Ellipsoid) : Float := 1.0 / el.invF

/-- First eccentricity squared, `f (2 - f)`. -/
def e2 (el : Ellipsoid) : Float :=
  let f := el.flattening
  f * (2.0 - f)

/-- First eccentricity. -/
def e (el : Ellipsoid) : Float := el.e2.sqrt

/-- Second eccentricity squared, `e² / (1 - e²)`. -/
def ep2 (el : Ellipsoid) : Float :=
  let e2 := el.e2
  e2 / (1.0 - e2)

/-- `cos φ / sqrt(1 - e² sin² φ)`, the radius factor of a parallel used by the
conic projections. -/
def m (el : Ellipsoid) (phi : Float) : Float :=
  let s := phi.sin
  phi.cos / (1.0 - el.e2 * s * s).sqrt

end Ellipsoid

/-- A whole turn, `2π`, as a double. -/
def turn : Float := 2.0 * piF

/-- Subtract whole turns while the value is above `π`, at most `fuel` times. -/
def turnDown : Nat → Float → Float
  | 0, x => x
  | k + 1, x => if x > piF then turnDown k (x - turn) else x

/-- Add whole turns while the value is below `-π`, at most `fuel` times. -/
def turnUp : Nat → Float → Float
  | 0, x => x
  | k + 1, x => if x < -piF then turnUp k (x + turn) else x

/-- An angle in radians brought into `[-π, π]` by whole turns, subtracted while
it is above `π` and then added while it is below `-π`. Each step that changes
the value moves it by more than one, so a run that ends takes fewer steps than
the magnitude of the value plus two; a value whose steps no longer change it
(an infinity, or one so large that a turn is lost in rounding) keeps the loop
going for as many steps as a machine count holds. -/
def wrapPi (v : Float) : Float :=
  let fuel := Binary64.toNatClamped v.abs + 2
  turnUp fuel (turnDown fuel v)

end Geocube
