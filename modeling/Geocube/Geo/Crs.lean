import Geocube.Geo.BoundingBox
import Geocube.Text.Case
import Geocube.Decimal.Read

/-!
Coordinate reference systems known by EPSG code.

Only the systems with a projection in this library exist as values, so every
`Crs` can be projected. Text names them as `EPSG:n` in any case, or as `CRS:84`
and `WGS84` for geographic coordinates.
-/

namespace Geocube

/-- A supported coordinate reference system. -/
inductive Crs where
  /-- Geographic longitude and latitude on WGS84 (EPSG:4326). -/
  | wgs84
  /-- Geographic longitude and latitude on NAD83 (EPSG:4269). -/
  | nad83
  /-- Spherical web Mercator (EPSG:3857, also known as 900913). -/
  | webMercator
  /-- UTM zone `zone` (1 to 60) of one hemisphere on WGS84. -/
  | utm (zone : Nat) (north : Bool)
  /-- Australian Albers on GDA94 (EPSG:3577). -/
  | australianAlbers
  /-- Contiguous US Albers on NAD83 (EPSG:5070). -/
  | conusAlbers
  /-- Canada Atlas Lambert on NAD83 (EPSG:3978). -/
  | canadaLambert
  deriving Repr, DecidableEq, Inhabited

namespace Crs

/-- The system of an EPSG code. -/
def ofEpsg (code : Nat) : Except GeoError Crs :=
  if code == 4326 then .ok .wgs84
  else if code == 4269 then .ok .nad83
  else if code == 3857 || code == 900913 then .ok .webMercator
  else if code == 3577 then .ok .australianAlbers
  else if code == 5070 then .ok .conusAlbers
  else if code == 3978 then .ok .canadaLambert
  else if 32601 ≤ code && code ≤ 32660 then .ok (.utm (code - 32600) true)
  else if 32701 ≤ code && code ≤ 32760 then .ok (.utm (code - 32700) false)
  else .error (.unsupportedCrs s!"EPSG:{code}")

/-- The EPSG code of the system. -/
def epsg : Crs → Nat
  | .wgs84 => 4326
  | .nad83 => 4269
  | .webMercator => 3857
  | .australianAlbers => 3577
  | .conusAlbers => 5070
  | .canadaLambert => 3978
  | .utm zone true => 32600 + zone
  | .utm zone false => 32700 + zone

/-- `EPSG:n`. -/
def name (c : Crs) : String := s!"EPSG:{c.epsg}"

/-- Read a system from its name: blanks around it are ignored and case does not
matter. -/
def parse (s : String) : Except GeoError Crs :=
  let norm := Text.upper (Text.trim s)
  if norm == "CRS:84" || norm == "WGS84" then .ok .wgs84
  else if norm.startsWith "EPSG:" then
    match Decimal.readNat? (String.ofList (norm.toList.drop 5)) Decimal.u32Max with
    | some code => ofEpsg code
    | none => .error (.invalidCrs s)
  else .error (.invalidCrs s)

def isGeographic : Crs → Bool
  | .wgs84 | .nad83 => true
  | _ => false

/-- The unit of the axes. -/
def units (c : Crs) : String := if c.isGeographic then "degrees" else "metre"

/-- The region where the system's coordinates are meaningful. -/
def validBounds : Crs → BoundingBox
  | .wgs84 | .nad83 => ⟨-180.0, -90.0, 180.0, 90.0⟩
  | .webMercator => ⟨-20037508.342789244, -20037508.342789244, 20037508.342789244, 20037508.342789244⟩
  | .utm _ true => ⟨166021.0, 0.0, 833978.0, 9329005.0⟩
  | .utm _ false => ⟨166021.0, 1116915.0, 833978.0, 10000000.0⟩
  | .australianAlbers => ⟨-2800000.0, -5400000.0, 2300000.0, -1000000.0⟩
  | .conusAlbers => ⟨-2500000.0, 200000.0, 2500000.0, 3200000.0⟩
  | .canadaLambert => ⟨-7200000.0, -1000000.0, 5000000.0, 8000000.0⟩

/-- The inspection form of a system, naming its code. -/
def inspectText (c : Crs) : String :=
  let code := match c with
    | .wgs84 => "Epsg4326"
    | .nad83 => "Epsg4269"
    | .webMercator => "Epsg3857"
    | .utm zone north => s!"Utm \x7b zone: {zone}, north: {north} \x7d"
    | .australianAlbers => "Epsg3577"
    | .conusAlbers => "Epsg5070"
    | .canadaLambert => "Epsg3978"
  "Crs \x7b code: " ++ code ++ " \x7d"

end Crs
end Geocube
