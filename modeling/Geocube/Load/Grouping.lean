import Geocube.Catalog.Dataset
import Geocube.Load.Error

/-!
Grouping datasets into the slices of a cube.

A grouping gives each dataset a key; datasets with equal keys form one group,
fused into one plane per band. Groups come in ascending key order, and within a
group datasets are ordered by the grouping's sort key (a missing sort key
first) and then by id, which fixes the fuse order. Datasets without a key are
left out. A dataset whose local solar day lies outside the calendar stops the
grouping when its key, or its sort key within a group of two or more, is
needed.

Keys of different kinds order as times, then dates, then texts, then numbers;
numbers order by their bit patterns as a total order, so that `-0` comes before
`0` and NaN after every other number.
-/

namespace Geocube

/-- The key of one group. -/
inductive GroupKey where
  | time (t : Instant)
  | date (d : Date)
  | text (s : String)
  | number (x : Float)
  deriving Inhabited

/-- A double's place in the total order of doubles: negative values by
decreasing magnitude, then positive values by increasing magnitude, with the
sign of zero and NaN included. -/
def totalOrderKey (x : Float) : Int :=
  let b := x.toBits.toNat
  if b < pow2 63 then b else -((b - pow2 63 : Nat) : Int) - 1

namespace GroupKey

def rank : GroupKey → Nat
  | .time _ => 0
  | .date _ => 1
  | .text _ => 2
  | .number _ => 3

/-- The order of keys: by kind, then by value. -/
def cmp : GroupKey → GroupKey → Ordering
  | .time a, .time b => Instant.cmp a b
  | .date a, .date b => compare a.days b.days
  | .text a, .text b => compare a b
  | .number a, .number b => compare (totalOrderKey a) (totalOrderKey b)
  | a, b => compare a.rank b.rank

/-- The key as text: an RFC 3339 time, an ISO date, the text itself, or the
number in its shortest form. -/
def display : GroupKey → String
  | .time t => t.rfc3339
  | .date d => d.text
  | .text s => s
  | .number x => Decimal.plainText x

end GroupKey

/-- Optional keys order with a missing key first. -/
def compareKeys : Option GroupKey → Option GroupKey → Ordering
  | none, none => .eq
  | none, some _ => .lt
  | some _, none => .gt
  | some a, some b => a.cmp b

/-- The longitude a dataset's local solar day is read at: that of the centre of
its extent, zero without one. -/
def Dataset.solarLongitude (d : Dataset) : Float :=
  ((d.extent.bind fun g => g.centerLonLat.toOption).map (·.1)).getD 0.0

/-- The built-in keys. -/
inductive KeyRule where
  /-- The centre of the acquisition time. -/
  | centerTime
  /-- The local solar date of the centre time, at the longitude of the
  centre of the extent (zero without an extent). -/
  | solarDay
  /-- A scalar search field: a range by its low end, a time range by its
  centre; spatial fields give no key. -/
  | field (name : String)
  deriving Inhabited, Repr

namespace KeyRule

def keyOf (r : KeyRule) (d : Dataset) : LoadResult (Option GroupKey) :=
  match r with
  | .centerTime => .ok (d.centerTime.map .time)
  | .solarDay =>
    match d.centerTime with
    | none => .ok none
    | some t =>
      match solarDay? t d.solarLongitude with
      | some day => .ok (some (.date day))
      | none => .error (.solarDayOutOfRange d.id)
  | .field name =>
    .ok <| match d.field name with
    | some (.text s) => some (.text s)
    | some (.number x) => some (.number x)
    | some (.time t) => some (.time t)
    | some (.numberRange lo _) => some (.number lo)
    | some (.timeRange r) => some (.time r.center)
    | some (.spatial _) | none => none

end KeyRule

/-- A dataset's key, `none` to leave the dataset out; an error stops the
grouping. -/
abbrev KeyFn := Dataset → LoadResult (Option GroupKey)

/-- How datasets are bucketed: the name of the output dimension, the key of a
dataset, and the key that orders datasets within a group. -/
structure GroupBy where
  dimension : String
  key : KeyFn
  sortKey : KeyFn
  deriving Inhabited

namespace GroupBy

/-- Group by any key, ordering each group by acquisition centre time. -/
def custom (dimension : String) (key : KeyFn) : GroupBy := ⟨dimension, key, KeyRule.centerTime.keyOf⟩

/-- One group per distinct acquisition centre time. -/
def time : GroupBy := custom "time" KeyRule.centerTime.keyOf

/-- One group per local solar day. -/
def solarDay : GroupBy := custom "time" KeyRule.solarDay.keyOf

/-- One group per value of a search field. -/
def field (name : String) : GroupBy := custom name (KeyRule.field name).keyOf

/-- Order within groups by another key. -/
def withSortKey (g : GroupBy) (sortKey : KeyFn) : GroupBy := { g with sortKey }

def keyOf (g : GroupBy) (d : Dataset) : LoadResult (Option GroupKey) := g.key d

/-- The fuse order of datasets given with their sort keys: by sort key, then by
id. -/
def order (a b : Option GroupKey × Dataset) : Ordering :=
  match compareKeys a.1 b.1 with
  | .eq => compare a.2.id.value b.2.id.value
  | o => o

/-- Datasets of one group in fuse order. A single dataset needs no sort key. -/
def sortGroup (g : GroupBy) (ds : List Dataset) : LoadResult (List Dataset) :=
  match ds with
  | [] | [_] => .ok ds
  | _ => do
    let keyed ← ds.mapM fun d => return ((← g.sortKey d), d)
    return (keyed.mergeSort fun a b => order a b != .gt).map (·.2)

end GroupBy

/-- Datasets sharing one key, in fuse order. -/
structure Group where
  key : GroupKey
  datasets : List Dataset
  deriving Inhabited

/-- Insert a key into an ascending list of distinct keys. -/
def insertKey (k : GroupKey) : List GroupKey → List GroupKey
  | [] => [k]
  | k' :: rest =>
    match k.cmp k' with
    | .lt => k :: k' :: rest
    | .eq => k' :: rest
    | .gt => k' :: insertKey k rest

/-- Bucket datasets by a grouping, in ascending key order. -/
def groupDatasets (ds : List Dataset) (g : GroupBy) : LoadResult (List Group) := do
  let keyed ← ds.filterMapM fun d => return (← g.keyOf d).map fun k => (k, d)
  let keys := keyed.foldl (fun acc kd => insertKey kd.1 acc) []
  keys.mapM fun k => do
    let members := (keyed.filter fun kd => k.cmp kd.1 == .eq).map (·.2)
    return ⟨k, ← g.sortGroup members⟩

end Geocube
