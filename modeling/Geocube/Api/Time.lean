import Geocube.Api.Request
import Geocube.Time.Range

/-!
Answers about instants, ranges and solar days.
-/

namespace Geocube
namespace Api

def instantDoc (t : Instant) : Document := .str t.text

def rangeDoc (r : TimeRange) : Document := .arr [instantDoc r.start, instantDoc r.stop]

def instantArg (req : Document) (k : String) : Step Instant := do
  geo (Instant.parse (← strArg req k))

/-- `parse_datetime`. -/
def parseDatetimeOp (req : Document) : Step Document := do
  return instantDoc (← instantArg req "s")

/-- `solar`: the hour offset of a longitude and the solar day of an instant. -/
def solarOp (req : Document) : Step Document := do
  let lon ← floatArg req "lon"
  let hours := solarHours lon
  let some _ := Span.ofHours? hours | throw panicDoc
  let mut fields : List (String × Document) := [("offset_hours", .int hours)]
  if (arg? req "time").isSome then
    let t ← instantArg req "time"
    let some d := solarDay? t lon | throw panicDoc
    fields := fields ++ [("solar_day", .str d.text)]
  return .ofPairs fields

/-- `time_range`: a range from a day, an instant or text, with its center and
relations to another range and an instant. -/
def timeRangeOp (req : Document) : Step Document := do
  let r ← match arg? req "day" with
    | some d =>
      match Time.readDate (← str d) with
      | .ok date =>
        match TimeRange.day? date with
        | some r => pure r
        | none => throw panicDoc
      | .error e => throw (badInput ("bad date: " ++ e.message))
    | none =>
      match arg? req "instant" with
      | some d => pure (TimeRange.instant (← geo (Instant.parse (← str d))))
      | none => geo (TimeRange.parse (← strArg req "s"))
  let mut fields : List (String × Document) := [("range", rangeDoc r), ("center", instantDoc r.center)]
  if let some o := arg? req "other" then
    let o ← geo (TimeRange.parse (← str o))
    fields := fields ++ [("other", rangeDoc o), ("overlaps", .bool (r.overlaps o))]
  if let some c := arg? req "contains" then
    let t ← geo (Instant.parse (← str c))
    fields := fields ++ [("contains", .bool (r.contains t))]
  return .ofPairs fields

end Api
end Geocube
