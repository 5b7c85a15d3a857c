import Geocube.Projection.Plane

/-!
Conic projections on an ellipsoid: Albers equal-area and Lambert conformal.

Both are fixed by a latitude of origin, a central meridian, two standard
parallels (equal parallels give a tangent cone), a false easting and northing,
and an ellipsoid. The cone constant `n` is negative for a cone opening to the
south; the inverse then measures polar radius and angle from the opposite side.
Both inverses find the latitude by at most fifteen steps of a fixed-point
iteration that stop once a step is below `1e-12` radians.
-/

namespace Geocube

/-- What defines a conic projection: angles in degrees, offsets in metres. -/
structure ConicParams where
  lat0 : Float
  lon0 : Float
  parallel1 : Float
  parallel2 : Float
  falseEasting : Float
  falseNorthing : Float
  deriving Inhabited

/-- Whether two standard parallels, in radians, are the same. -/
def tangentCone (phi1 phi2 : Float) : Bool := (phi1 - phi2).abs < 1e-10

/-- Polar radius and angle of a point relative to the cone's apex, measured
from the side the cone opens to. -/
def polar (n x dy : Float) : Float × Float :=
  if n ≥ 0.0 then ((x * x + dy * dy).sqrt, Float.atan2 x dy)
  else (-(x * x + dy * dy).sqrt, Float.atan2 (-x) (-dy))

/-- An Albers equal-area projection with its derived constants. -/
structure Albers where
  /-- Central meridian, in radians. -/
  lon0 : Float
  falseEasting : Float
  falseNorthing : Float
  ellipsoid : Ellipsoid
  /-- Cone constant. -/
  n : Float
  c : Float
  /-- Polar radius of the latitude of origin. -/
  rho0 : Float
  deriving Inhabited

namespace Albers

/-- The authalic function `q` of a latitude in radians. -/
def q (el : Ellipsoid) (phi : Float) : Float :=
  let e := el.e
  let e2 := el.e2
  let s := phi.sin
  (1.0 - e2) * (s / (1.0 - e2 * s * s) - (1.0 / (2.0 * e)) * ((1.0 - e * s) / (1.0 + e * s)).log)

def ofParams (p : ConicParams) (el : Ellipsoid) : Albers :=
  let phi0 := toRadians p.lat0
  let phi1 := toRadians p.parallel1
  let phi2 := toRadians p.parallel2
  let m1 := el.m phi1
  let m2 := el.m phi2
  let q0 := q el phi0
  let q1 := q el phi1
  let q2 := q el phi2
  let n := if tangentCone phi1 phi2 then phi1.sin else (m1 * m1 - m2 * m2) / (q2 - q1)
  let c := m1 * m1 + n * q1
  let rho0 := el.a * (c - n * q0).sqrt / n
  { lon0 := toRadians p.lon0, falseEasting := p.falseEasting, falseNorthing := p.falseNorthing,
    ellipsoid := el, n, c, rho0 }

/-- GDA94 / Australian Albers. -/
def australia : Albers := ofParams ⟨0.0, 132.0, -18.0, -36.0, 0.0, 0.0⟩ .grs80

/-- NAD83 / Conus Albers. -/
def conus : Albers := ofParams ⟨23.0, -96.0, 29.5, 45.5, 0.0, 0.0⟩ .grs80

def forward (p : Albers) (lon lat : Float) : Float × Float :=
  if !isLatitude lat then noPoint
  else
    let a := p.ellipsoid.a
    let q := q p.ellipsoid (toRadians lat)
    let rho := a * (p.c - p.n * q).sqrt / p.n
    let theta := p.n * wrapPi (toRadians lon - p.lon0)
    (rho * theta.sin + p.falseEasting, p.rho0 - rho * theta.cos + p.falseNorthing)

/-- Steps of the latitude iteration for the authalic value `q`. -/
def latitudeSteps (el : Ellipsoid) (q : Float) : Nat → Float → Float
  | 0, phi => phi
  | k + 1, phi =>
    let e := el.e
    let e2 := el.e2
    let s := phi.sin
    let oneMinus := 1.0 - e2 * s * s
    let delta := oneMinus * oneMinus / (2.0 * phi.cos)
      * (q / (1.0 - e2) - s / oneMinus
        + (1.0 / (2.0 * e)) * ((1.0 - e * s) / (1.0 + e * s)).log)
    let next := phi + delta
    if delta.abs < 1e-12 then next else latitudeSteps el q k next

def inverse (p : Albers) (x y : Float) : Float × Float :=
  let a := p.ellipsoid.a
  let x := x - p.falseEasting
  let dy := p.rho0 - (y - p.falseNorthing)
  let (rho, theta) := polar p.n x dy
  let q := (p.c - rho * rho * p.n * p.n / (a * a)) / p.n
  let phi := latitudeSteps p.ellipsoid q 15 (fclamp (q / 2.0) (-1.0) 1.0).asin
  let lambda := p.lon0 + theta / p.n
  (toDegrees (wrapPi lambda), toDegrees phi)

end Albers

/-- A Lambert conformal conic projection with its derived constants. -/
structure Lambert where
  /-- Central meridian, in radians. -/
  lon0 : Float
  falseEasting : Float
  falseNorthing : Float
  ellipsoid : Ellipsoid
  /-- Cone constant. -/
  n : Float
  f : Float
  /-- Polar radius of the latitude of origin. -/
  rho0 : Float
  deriving Inhabited

namespace Lambert

/-- The conformal function `t` of a latitude in radians. -/
def t (el : Ellipsoid) (phi : Float) : Float :=
  let e := el.e
  let s := phi.sin
  (piF / 4.0 - phi / 2.0).tan / ((1.0 - e * s) / (1.0 + e * s)).pow (e / 2.0)

def ofParams (p : ConicParams) (el : Ellipsoid) : Lambert :=
  let lat0 := toRadians p.lat0
  let latin1 := toRadians p.parallel1
  let latin2 := toRadians p.parallel2
  let m1 := el.m latin1
  let m2 := el.m latin2
  let t0 := t el lat0
  let t1 := t el latin1
  let t2 := t el latin2
  let n := if tangentCone latin1 latin2 then latin1.sin
    else (m1.log - m2.log) / (t1.log - t2.log)
  let f := m1 / (n * t1.pow n)
  let rho0 := el.a * f * t0.pow n
  { lon0 := toRadians p.lon0, falseEasting := p.falseEasting, falseNorthing := p.falseNorthing,
    ellipsoid := el, n, f, rho0 }

/-- NAD83 / Canada Atlas Lambert. -/
def canadaAtlas : Lambert := ofParams ⟨49.0, -95.0, 49.0, 77.0, 0.0, 0.0⟩ .grs80

def forward (p : Lambert) (lon lat : Float) : Float × Float :=
  if !isLatitude lat then noPoint
  else
    let rho := p.ellipsoid.a * p.f * (t p.ellipsoid (toRadians lat)).pow p.n
    let theta := p.n * wrapPi (toRadians lon - p.lon0)
    (rho * theta.sin + p.falseEasting, p.rho0 - rho * theta.cos + p.falseNorthing)

/-- Steps of the latitude iteration for the conformal value `t`. -/
def latitudeSteps (e t : Float) : Nat → Float → Float
  | 0, phi => phi
  | k + 1, phi =>
    let s := phi.sin
    let next := piF / 2.0 - 2.0 * (t * ((1.0 - e * s) / (1.0 + e * s)).pow (e / 2.0)).atan
    if (next - phi).abs < 1e-12 then next else latitudeSteps e t k next

def inverse (p : Lambert) (x y : Float) : Float × Float :=
  let e := p.ellipsoid.e
  let x := x - p.falseEasting
  let dy := p.rho0 - (y - p.falseNorthing)
  let (rho, theta) := polar p.n x dy
  let t := (rho / (p.ellipsoid.a * p.f)).pow (1.0 / p.n)
  let phi := latitudeSteps e t 15 (piF / 2.0 - 2.0 * t.atan)
  let lambda := theta / p.n + p.lon0
  (toDegrees (wrapPi lambda), toDegrees phi)

end Lambert

end Geocube
