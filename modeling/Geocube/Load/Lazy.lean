import Geocube.Load.Cube

/-!
Deferred loading.

A lazy cube is a load split into compute units, one per group, band and
chunk of the grid. A unit fuses its group's datasets into its own chunk, so
units are independent and may run in any order. A computed unit keeps its
result, and later computations reuse it.

Computations are cancellable: a cancelled run fails before each unit and after
the last one, and what was computed before stays kept.
-/

namespace Geocube

/-- One group, band and chunk of a cube. -/
structure ComputeUnit where
  group : Nat
  band : Nat
  window : Window
  deriving Inhabited

/-- How the units of a run are taken. -/
inductive Scheduler where
  /-- One after another, stopping at the first failure. -/
  | sequential
  /-- All of them independently; the run fails with the failure of the first
  failing unit. -/
  | parallel
  deriving Inhabited, DecidableEq

/-- A load whose pixels are read on demand. -/
structure LazyCube where
  groups : List Group
  geobox : GeoBox
  measurements : List Measurement
  context : PlaneContext
  units : List ComputeUnit
  /-- The result of each unit once computed, parallel to `units`. -/
  results : List (Option (Raster × List SkippedRead))
  dimension : String
  deriving Inhabited

namespace LazyCube

/-- Plan a load of groups onto a grid, in chunks of at most `chunk` pixels. -/
def new (groups : List Group) (g : GeoBox) (ms : List Measurement) (ctx : PlaneContext)
    (chunk : Nat × Nat) : LazyCube :=
  let chunks := g.chunks chunk
  let units := (List.range groups.length).flatMap fun gr =>
    (List.range ms.length).flatMap fun b => chunks.map fun w => ⟨gr, b, w⟩
  ⟨groups, g, ms, ctx, units, units.map fun _ => none, "time"⟩

/-- `(groups, bands, height, width)`. -/
def shape (c : LazyCube) : Nat × Nat × Nat × Nat :=
  (c.groups.length, c.measurements.length, c.geobox.height, c.geobox.width)

def keys (c : LazyCube) : List GroupKey := c.groups.map (·.key)

def bands (c : LazyCube) : List String := c.measurements.map (·.name)

def unitCount (c : LazyCube) : Nat := c.units.length

/-- How many units have been computed. -/
def computedCount (c : LazyCube) : Nat := (c.results.filter (·.isSome)).length

/-- Compute one unit unless it is already computed. -/
def computeUnit (c : LazyCube) (i : Nat) : LoadResult LazyCube := do
  let some u := c.units[i]? | return c
  if ((c.results[i]?).bind id).isSome then return c
  let some m := c.measurements[u.band]? | return c
  let some gr := c.groups[u.group]? | return c
  let chunk := Raster.filled u.window.height u.window.width m.fillValue
  let r ← fusePlane c.context chunk (c.geobox.window u.window) u.group gr.datasets m
  return { c with results := c.results.set i (some r) }

/-- Run units one after another in the order given, stopping at the first
failure, on a token that is first seen cancelled at check `k`. Check `j` comes
before the `j`-th unit and check `tasks.length` after the last one, so a `k`
beyond that is a token never cancelled. The cube comes back with every unit that
was computed, also when the run fails. -/
def runTasks (c : LazyCube) : List Nat → Nat → LoadResult Unit × LazyCube
  | [], k => (if k = 0 then .error .cancelled else .ok (), c)
  | i :: tasks, k =>
    if k = 0 then (.error .cancelled, c)
    else match c.computeUnit i with
      | .ok c' => c'.runTasks tasks (k - 1)
      | .error e => (.error e, c)

/-- Run units by position. The cube comes back with every unit that was
computed, also when the run fails. -/
def runUnits (c : LazyCube) (indices : List Nat) (s : Scheduler) (cancelled : Bool) :
    LoadResult Unit × LazyCube :=
  if cancelled then (.error .cancelled, c)
  else match s with
    | .sequential => c.runTasks indices (indices.length + 1)
    | .parallel =>
      indices.foldl (fun (acc : LoadResult Unit × LazyCube) i =>
        match acc.2.computeUnit i with
        | .ok c' => (acc.1, c')
        | .error e => (match acc.1 with
          | .ok () => .error e
          | err => err, acc.2)) (.ok (), c)

/-- The units not computed yet, by position. -/
def pending (c : LazyCube) : List Nat :=
  (List.range c.units.length).filter fun i => ((c.results[i]?).bind id).isNone

/-- The cube of the computed units: each band of each group starts at the band's
fill value, and every computed chunk is written into its window. -/
def assemble (c : LazyCube) : DataCube :=
  let fills := c.measurements.map (·.fillValue)
  let done := c.units.zip c.results
  let data := (List.range c.groups.length).map fun gr =>
    (List.range c.measurements.length).map fun b =>
      done.foldl (fun (p : Raster) (u, r) =>
        match r with
        | some (chunk, _) => if u.group == gr && u.band == b then assignWindow p u.window chunk else p
        | none => p)
        (Raster.filled c.geobox.height c.geobox.width (fills.getD b Binary64.nan))
  let allSkipped := done.flatMap fun (_, r) => (r.map (·.2)).getD []
  let skipped := allSkipped.foldl (fun (acc : List SkippedRead) s =>
    if acc.any fun t => t.group == s.group && t.dataset == s.dataset && t.band == s.band then acc
    else acc ++ [s]) []
  ⟨c.dimension, c.keys, c.bands, c.geobox, data, fills, skipped⟩

/-- The answer of a run: its failure, or the cube of the computed units. -/
def finish : LoadResult Unit × LazyCube → LoadResult DataCube × LazyCube
  | (.error e, c') => (.error e, c')
  | (.ok (), c') => (.ok c'.assemble, c')

/-- Compute every unit and assemble the cube. -/
def compute (c : LazyCube) (s : Scheduler) (cancelled : Bool) : LoadResult DataCube × LazyCube :=
  finish (c.runUnits c.pending s cancelled)

/-- Compute one band of one group. -/
def plane (c : LazyCube) (group : Nat) (band : String) : LoadResult Raster × LazyCube :=
  match (c.measurements.map (·.name)).idxOf? band with
  | none => (.error (.missingMeasurement "" band), c)
  | some b =>
    if group ≥ c.groups.length then
      (.error (.invalidQuery s!"group {group} out of range ({c.groups.length} groups)"), c)
    else
      let indices := (List.range c.units.length).filter fun i =>
        match c.units[i]? with
        | some u => u.group == group && u.band == b
        | none => false
      match c.runUnits indices .sequential false with
      | (.error e, c') => (.error e, c')
      | (.ok (), c') =>
        let fill := ((c'.measurements[b]?).map (·.fillValue)).getD Binary64.nan
        let out := indices.foldl (fun (p : Raster) i =>
          match c'.units[i]?, (c'.results[i]?).bind id with
          | some u, some (chunk, _) => assignWindow p u.window chunk
          | _, _ => p) (Raster.filled c'.geobox.height c'.geobox.width fill)
        (.ok out, c')

end LazyCube
end Geocube
