import Geocube.Api.Request

/-!
Answers about coordinate systems and bounding boxes.
-/

namespace Geocube
namespace Api

def crsDoc (c : Crs) : Document :=
  .ofPairs [("epsg", .int c.epsg), ("display", .str c.name), ("geographic", .bool c.isGeographic),
    ("units", .str c.units), ("valid_bounds", bboxDoc c.validBounds)]

/-- `crs`: a system from its text or its code. -/
def crsOp (req : Document) : Step Document := do
  match arg? req "s" with
  | some d => return crsDoc (← crs d)
  | none =>
    let code ← natArg req "epsg"
    if code ≥ pow2 32 then throw (badInput "epsg out of range")
    return crsDoc (← geo (Crs.ofEpsg code))

/-- `crs_serde`: the three ways a system is read from text. -/
def crsTextOp (req : Document) : Step Document := do
  let t ← strArg req "s"
  let viaText := inline (Crs.parse t) (fun c => .str c.name) geoErrorDoc
  let decoded := inline (Crs.parse t) (fun c => .str c.name) (fun e => errorDoc "SerdeError" e.message)
  return .ofPairs [("from_str", viaText), ("try_from", viaText), ("deserialize", decoded)]

/-- `bbox`: measures of a box and its relations to another box and a point. -/
def bboxOp (req : Document) : Step Document := do
  let b ← bbox (← arg req "bbox")
  let mut fields : List (String × Document) :=
    [("width", fl b.width), ("height", fl b.height), ("center", pointDoc b.center),
     ("corners", pointsDoc b.corners),
     ("checked", inline (BoundingBox.checked b.minX b.minY b.maxX b.maxY) bboxDoc geoErrorDoc)]
  if let some o := arg? req "other" then
    let o ← bbox o
    fields := fields ++ [("intersects", .bool (b.intersects o)),
      ("intersection", optDoc (b.intersection o) bboxDoc), ("union", bboxDoc (b.union o))]
  if let some p := arg? req "point" then
    let (x, y) ← point p
    fields := fields ++ [("contains_point", .bool (b.containsPoint x y))]
  if let some d := arg? req "buffer" then
    fields := fields ++ [("buffered", bboxDoc (b.buffered (← float d)))]
  if let some n := arg? req "segments" then
    let n ← nat n
    if n > 4096 then throw (badInput "too many segments")
    fields := fields ++ [("densified", pointsDoc (b.densified n))]
  return .ofPairs fields

/-- `bbox_from_points`: the smallest box around finite points. -/
def bboxFromPointsOp (req : Document) : Step Document := do
  let ps ← points (← arg req "points")
  return optDoc (BoundingBox.ofPoints ps) bboxDoc

end Api
end Geocube
