import Geocube.Projection.Plane

/-!
The transverse Mercator projection on an ellipsoid, by the series expansions in
powers of the longitude difference (forward) and of the scaled easting
(inverse), with the meridian arc to sixth order in the eccentricity. UTM zones
are transverse Mercator on WGS84 with scale 0.9996 at the central meridian, a
false easting of 500 km, and a false northing of 10 000 km in the south.
-/

namespace Geocube

/-- Parameters of a transverse Mercator projection. -/
structure TransverseMercator where
  /-- Central meridian, in radians. -/
  lon0 : Float
  /-- Scale on the central meridian. -/
  k0 : Float
  falseEasting : Float
  falseNorthing : Float
  ellipsoid : Ellipsoid
  deriving Inhabited

namespace TransverseMercator

/-- The projection of a UTM zone. -/
def utm (zone : Nat) (north : Bool) : TransverseMercator :=
  let centralMeridian := (Float.ofNat zone - 1.0) * 6.0 - 180.0 + 3.0
  { lon0 := toRadians centralMeridian, k0 := 0.9996, falseEasting := 500000.0,
    falseNorthing := if north then 0.0 else 10000000.0, ellipsoid := .wgs84 }

/-- Distance along the meridian from the equator to latitude `phi`. -/
def meridianArc (p : TransverseMercator) (phi : Float) : Float :=
  let e2 := p.ellipsoid.e2
  let e4 := e2 * e2
  let e6 := e4 * e2
  p.ellipsoid.a *
    ((1.0 - e2 / 4.0 - 3.0 * e4 / 64.0 - 5.0 * e6 / 256.0) * phi
      - (3.0 * e2 / 8.0 + 3.0 * e4 / 32.0 + 45.0 * e6 / 1024.0) * (2.0 * phi).sin
      + (15.0 * e4 / 256.0 + 45.0 * e6 / 1024.0) * (4.0 * phi).sin
      - (35.0 * e6 / 3072.0) * (6.0 * phi).sin)

def forward (p : TransverseMercator) (lon lat : Float) : Float × Float :=
  if !isLatitude lat then noPoint
  else
    let a := p.ellipsoid.a
    let e2 := p.ellipsoid.e2
    let ep2 := p.ellipsoid.ep2
    let phi := toRadians lat
    let dlon := wrapPi (toRadians lon - p.lon0)
    let sinPhi := phi.sin
    let cosPhi := phi.cos
    let tanPhi := phi.tan
    let n := a / (1.0 - e2 * sinPhi * sinPhi).sqrt
    let t := tanPhi * tanPhi
    let c := ep2 * cosPhi * cosPhi
    let bigA := dlon * cosPhi
    let m := p.meridianArc phi
    let a2 := bigA * bigA
    let a3 := a2 * bigA
    let a4 := a3 * bigA
    let a5 := a4 * bigA
    let a6 := a5 * bigA
    let x := p.k0 * n *
      (bigA + (1.0 - t + c) * a3 / 6.0
        + (5.0 - 18.0 * t + t * t + 72.0 * c - 58.0 * ep2) * a5 / 120.0)
    let y := p.k0 *
      (m + n * tanPhi *
        (a2 / 2.0 + (5.0 - t + 9.0 * c + 4.0 * c * c) * a4 / 24.0
          + (61.0 - 58.0 * t + t * t + 600.0 * c - 330.0 * ep2) * a6 / 720.0))
    (x + p.falseEasting, y + p.falseNorthing)

def inverse (p : TransverseMercator) (x y : Float) : Float × Float :=
  let a := p.ellipsoid.a
  let e2 := p.ellipsoid.e2
  let ep2 := p.ellipsoid.ep2
  let e4 := e2 * e2
  let e6 := e4 * e2
  let x := x - p.falseEasting
  let m := (y - p.falseNorthing) / p.k0
  let mu := m / (a * (1.0 - e2 / 4.0 - 3.0 * e4 / 64.0 - 5.0 * e6 / 256.0))
  let e1 := (1.0 - (1.0 - e2).sqrt) / (1.0 + (1.0 - e2).sqrt)
  let e1_2 := e1 * e1
  let e1_3 := e1_2 * e1
  let e1_4 := e1_3 * e1
  let phi1 := mu
    + (3.0 * e1 / 2.0 - 27.0 * e1_3 / 32.0) * (2.0 * mu).sin
    + (21.0 * e1_2 / 16.0 - 55.0 * e1_4 / 32.0) * (4.0 * mu).sin
    + (151.0 * e1_3 / 96.0) * (6.0 * mu).sin
    + (1097.0 * e1_4 / 512.0) * (8.0 * mu).sin
  let sinPhi1 := phi1.sin
  let cosPhi1 := phi1.cos
  let tanPhi1 := phi1.tan
  let c1 := ep2 * cosPhi1 * cosPhi1
  let t1 := tanPhi1 * tanPhi1
  let denom := 1.0 - e2 * sinPhi1 * sinPhi1
  let n1 := a / denom.sqrt
  let r1 := a * (1.0 - e2) / denom.pow 1.5
  let d := x / (n1 * p.k0)
  let d2 := d * d
  let d3 := d2 * d
  let d4 := d3 * d
  let d5 := d4 * d
  let d6 := d5 * d
  let phi := phi1
    - (n1 * tanPhi1 / r1) *
      (d2 / 2.0
        - (5.0 + 3.0 * t1 + 10.0 * c1 - 4.0 * c1 * c1 - 9.0 * ep2) * d4 / 24.0
        + (61.0 + 90.0 * t1 + 298.0 * c1 + 45.0 * t1 * t1 - 252.0 * ep2 - 3.0 * c1 * c1)
          * d6 / 720.0)
  let lambda := p.lon0
    + (d - (1.0 + 2.0 * t1 + c1) * d3 / 6.0
      + (5.0 - 2.0 * c1 + 28.0 * t1 - 3.0 * c1 * c1 + 8.0 * ep2 + 24.0 * t1 * t1) * d5 / 120.0)
      / cosPhi1
  (toDegrees (wrapPi lambda), toDegrees phi)

end TransverseMercator

end Geocube
