import Geocube.Time.Parse
import Geocube.Binary64

/-!
Closed time ranges and the local solar day.

A range always has `start ≤ stop`: the constructor swaps reversed ends, and the
other constructors produce ordered ends. Containment and overlap include the
ends.
-/

namespace Geocube

/-- A closed interval of instants. -/
structure TimeRange where
  start : Instant
  stop : Instant
  deriving DecidableEq, Repr, Inhabited

namespace TimeRange

/-- The range between two instants in either order. -/
def new (a b : Instant) : TimeRange := if a ≤ b then ⟨a, b⟩ else ⟨b, a⟩

/-- The range of one instant. -/
def instant (t : Instant) : TimeRange := ⟨t, t⟩

/-- A whole UTC day, ending one microsecond before the next midnight. -/
def day? (d : Date) : Option TimeRange :=
  let start := Instant.startOf d
  match start.add? (Span.ofDays 1) >>= fun t => t.sub? (Span.ofMicros 1) with
  | some stop => some ⟨start, stop⟩
  | none => none

/-- `start/end`, split at the first `/`, or a single instant. -/
def parse (s : String) : Except GeoError TimeRange :=
  match s.splitOn "/" with
  | [one] => (Instant.parse one).map instant
  | a :: rest => do
    let t0 ← Instant.parse a
    let t1 ← Instant.parse ("/".intercalate rest)
    return new t0 t1
  | [] => (Instant.parse s).map instant

def contains (r : TimeRange) (t : Instant) : Bool := decide (r.start ≤ t) && decide (t ≤ r.stop)

def overlaps (r o : TimeRange) : Bool := decide (r.start ≤ o.stop) && decide (r.stop ≥ o.start)

/-- The middle instant: the start plus half the length, halved toward zero. -/
def center (r : TimeRange) : Instant :=
  (r.start.add? ((r.stop.since r.start).divInt 2)).getD r.start

end TimeRange

/-- Whole hours of local solar time at a longitude: `lon · 24 / 360` rounded
half away from zero (NaN counts as zero, and the value saturates at the ends of
a signed 64-bit word); `none` when the hours are not a representable span. -/
def solarHours (lon : Float) : Int :=
  Binary64.toIntClamped (Binary64.roundHalfAway (lon * 24.0 / 360.0)) (-(pow2 63)) (pow2 63 - 1)

/-- The date of the local solar day of an instant at a longitude; `none` when
the shift overflows. -/
def solarDay? (t : Instant) (lon : Float) : Option Date :=
  (Span.ofHours? (solarHours lon)) >>= fun d => (t.add? d).map (·.date)

end Geocube
