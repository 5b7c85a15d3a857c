import Geocube.Time.Civil
import Geocube.Geo.Error

/-!
Instants in UTC and signed spans of time, to the nanosecond.

An instant is a date, the second of its day and the nanoseconds past that
second. A leap second is the last second of a minute held for a second more:
its nanoseconds run from `10^9` to `2·10^9`. Instants order by date, then
second, then nanoseconds, so a leap second sorts after the rest of its second
and before the next minute.

Spans keep whole seconds and nanoseconds in `[0, 10^9)`, and are bounded by
about ±2^63 milliseconds. Adding a span to an instant inside a leap second
first leaves the leap second unless the span is zero or stays inside it.
-/

namespace Geocube

def nanosPerSec : Int := 1000000000

/-- A signed span of time. -/
structure Span where
  secs : Int
  nanos : Nat
  deriving DecidableEq, Repr, Inhabited

namespace Span

def maxSecs : Int := 9223372036854775
def minSecs : Int := -9223372036854776

/-- The span if it lies within the representable bounds. -/
def checked? (secs : Int) (nanos : Nat) : Option Span :=
  if secs < minSecs || secs > maxSecs || nanos ≥ 1000000000 ||
      (secs == maxSecs && nanos > 807000000) || (secs == minSecs && nanos < 193000000) then none
  else some ⟨secs, nanos⟩

def zero : Span := ⟨0, 0⟩

def ofSeconds? (s : Int) : Option Span := checked? s 0

/-- `h` hours, if representable. -/
def ofHours? (h : Int) : Option Span := ofSeconds? (h * 3600)

def ofDays (d : Int) : Span := ⟨d * 86400, 0⟩

def ofMicros (us : Int) : Span :=
  ⟨us / 1000000, ((us % 1000000) * 1000).toNat⟩

def neg (d : Span) : Span := if d.nanos == 0 then ⟨-d.secs, 0⟩ else ⟨-d.secs - 1, 1000000000 - d.nanos⟩

def add? (a b : Span) : Option Span :=
  let n := a.nanos + b.nanos
  if n ≥ 1000000000 then checked? (a.secs + b.secs + 1) (n - 1000000000)
  else checked? (a.secs + b.secs) n

/-- Whole seconds, rounded toward zero. -/
def wholeSeconds (d : Span) : Int := if d.secs < 0 && d.nanos > 0 then d.secs + 1 else d.secs

/-- Nanoseconds beyond the whole seconds, with the sign of the span. -/
def subsecNanos (d : Span) : Int := if d.secs < 0 && d.nanos > 0 then (d.nanos : Int) - nanosPerSec else d.nanos

/-- The span divided by a nonzero integer, rounding the nanoseconds toward zero. -/
def divInt (d : Span) (k : Int) : Span :=
  let secs := d.secs.tdiv k
  let carry := d.secs.tmod k
  let extra := (carry * nanosPerSec).tdiv k
  let nanos : Int := (d.nanos : Int).tdiv k + extra
  if nanos < 0 then ⟨secs - 1, (nanos + nanosPerSec).toNat⟩
  else if nanos ≥ nanosPerSec then ⟨secs + 1, (nanos - nanosPerSec).toNat⟩
  else ⟨secs, nanos.toNat⟩

end Span

/-- A moment in UTC. -/
structure Instant where
  date : Date
  /-- Second of the day, below 86400. -/
  secs : Nat
  /-- Nanoseconds past the second, below `2·10^9`; `10^9` and more only in a
  leap second. -/
  frac : Nat
  deriving DecidableEq, Repr, Inhabited

namespace Instant

/-- Order by date, then second, then nanoseconds. -/
def cmp (a b : Instant) : Ordering :=
  match compare a.date.days b.date.days with
  | .eq => match compare a.secs b.secs with
    | .eq => compare a.frac b.frac
    | o => o
  | o => o

instance : Ord Instant := ⟨cmp⟩
instance : LT Instant := ⟨fun a b => cmp a b = .lt⟩
instance : LE Instant := ⟨fun a b => cmp a b ≠ .gt⟩
instance (a b : Instant) : Decidable (a < b) := inferInstanceAs (Decidable (cmp a b = .lt))
instance (a b : Instant) : Decidable (a ≤ b) := inferInstanceAs (Decidable (cmp a b ≠ .gt))

def min (a b : Instant) : Instant := if a ≤ b then a else b
def max (a b : Instant) : Instant := if b ≤ a then a else b

/-- Midnight at the start of a date. -/
def startOf (d : Date) : Instant := ⟨d, 0, 0⟩

/-- Time of day and whole-day carry after adding a span, stepping out of a leap
second first when the span leaves it. -/
def addToTime (secs frac : Nat) (d : Span) : Nat × Nat × Int :=
  let secsToAdd := d.wholeSeconds
  let fracToAdd := d.subsecNanos
  let s : Int := secs
  let f : Int := frac
  let leapStay := f ≥ nanosPerSec && !(secsToAdd > 0 || (fracToAdd > 0 && f ≥ 2 * nanosPerSec - fracToAdd))
    && !(secsToAdd < 0)
  if leapStay then (secs, (f + fracToAdd).toNat, 0)
  else
    let (s, f) :=
      if f ≥ nanosPerSec then
        if secsToAdd > 0 || (fracToAdd > 0 && f ≥ 2 * nanosPerSec - fracToAdd) then (s, f - nanosPerSec)
        else (s + 1, f - nanosPerSec)
      else (s, f)
    let s := s + secsToAdd
    let f := f + fracToAdd
    let (s, f) := if f < 0 then (s - 1, f + nanosPerSec)
      else if f ≥ nanosPerSec then (s + 1, f - nanosPerSec) else (s, f)
    let inDay := s % 86400
    (inDay.toNat, f.toNat, (s - inDay) / 86400)

/-- The instant a span later, if its date is representable. -/
def add? (t : Instant) (d : Span) : Option Instant :=
  let (secs, frac, days) := addToTime t.secs t.frac d
  (t.date.addDays? days).map fun date => ⟨date, secs, frac⟩

/-- The instant a span earlier, if representable. -/
def sub? (t : Instant) (d : Span) : Option Instant := t.add? d.neg

/-- The span from `b` to `a`, counting a leap second that lies between them. -/
def since (a b : Instant) : Span :=
  let days := a.date.days - b.date.days
  let secs : Int := (a.secs : Int) - b.secs
  let frac : Int := (a.frac : Int) - b.frac
  let secs :=
    if a.secs > b.secs && b.frac ≥ 1000000000 then secs + 1
    else if a.secs < b.secs && a.frac ≥ 1000000000 then secs - 1
    else secs
  let total := days * 86400 + secs + frac / nanosPerSec
  ⟨total, (frac % nanosPerSec).toNat⟩

def hour (t : Instant) : Nat := t.secs / 3600
def minute (t : Instant) : Nat := t.secs / 60 % 60
/-- The second as written: 60 during a leap second. -/
def second (t : Instant) : Nat := t.secs % 60 + (if t.frac ≥ 1000000000 then 1 else 0)
def nanosecond (t : Instant) : Nat := t.frac % 1000000000

/-- `HH:MM:SS`. -/
def clockText (t : Instant) : String :=
  Date.pad 2 t.hour ++ ":" ++ Date.pad 2 t.minute ++ ":" ++ Date.pad 2 t.second

/-- `YYYY-MM-DDTHH:MM:SS.nnnnnnnnnZ`, always with nine fraction digits. -/
def text (t : Instant) : String :=
  t.date.text ++ "T" ++ t.clockText ++ "." ++ Date.pad 9 t.nanosecond ++ "Z"

/-- Date and time of day with as many fraction digits as needed: none,
three, six or nine. -/
def stampText (t : Instant) : String :=
  let n := t.nanosecond
  let frac :=
    if n == 0 then ""
    else if n % 1000000 == 0 then "." ++ Date.pad 3 (n / 1000000)
    else if n % 1000 == 0 then "." ++ Date.pad 6 (n / 1000)
    else "." ++ Date.pad 9 n
  t.date.text ++ "T" ++ t.clockText ++ frac

/-- RFC 3339 with a `+00:00` offset and as many fraction digits as needed. -/
def rfc3339 (t : Instant) : String := t.stampText ++ "+00:00"

/-- The inspection form: as many fraction digits as needed, then `Z`. -/
def inspectText (t : Instant) : String := t.stampText ++ "Z"

end Instant
end Geocube
