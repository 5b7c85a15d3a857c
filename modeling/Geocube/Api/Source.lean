import Geocube.Api.Raster
import Geocube.Load.Source

/-!
Answers about band stores: reading windows, choosing stores and reprojecting
stored rasters.
-/

namespace Geocube
namespace Api

/-- The location the requests store their raster at. -/
def storedUri : String := "mem://r"

/-- A band of the nil dataset named `band` at a location. -/
def probeSource (uri : String) (format : Option String) : BandSource :=
  ⟨Uuid.nil, "band", uri, format, none, none, none⟩

/-- A store holding the request's raster as float64 under `storedUri`, with an
optional nodata value. -/
def storeOf (req : Document) (nodata : Option Float) : Step MemoryStore := do
  let data ← rasterOf (← arg req "data")
  let grid ← geoboxOf (← arg req "grid")
  return MemoryStore.empty.insert storedUri ⟨grid, data, .float64, nodata⟩

/-- `memory_read`: windows read from a stored raster, and optionally what
removing locations does. -/
def memoryReadOp (req : Document) : Step Document := do
  let mut store ← storeOf req none
  let uri := (← strArg? req "uri").getD storedUri
  if let some msg ← strArg? req "fail" then
    store := store.fail uri msg
  let windows ← (← listArg req "windows").mapM windowOf
  let src ← match store.openSource (probeSource uri none) with
    | .ok s => pure s
    | .error e => throw (loadErrorDoc e)
  let reads := Document.arr (windows.map fun w => inline (src.read w) rasterDoc loadErrorDoc)
  match arg? req "remove" with
  | none => return reads
  | some us =>
    let us ← (← list us).mapM str
    let before := store.size
    let mut removed : List Document := []
    for u in us do
      let (s, r) := store.remove u
      store := s
      removed := removed ++ [.bool r]
    return .ofPairs [("reads", reads), ("len_before", .int before), ("removed", .arr removed),
      ("len_after", .int store.size), ("is_empty", .bool store.isEmpty),
      ("reopen", inline (store.openSource (probeSource uri none)) (fun _ => .bool true) loadErrorDoc),
      ("dtype", .str src.dtype.title)]

/-- A store failure with whether it may be skipped. -/
def openErrorDoc (e : LoadError) : Document :=
  match loadErrorDoc e with
  | .obj fs => .ofPairs (fs ++ [("is_read_failure", .bool e.isReadFailure)])
  | d => d

/-- `resolve_driver`: the store each location goes to, and optionally what
opening it gives. -/
def resolveDriverOp (req : Document) : Step Document := do
  let mut registry := Registry.empty
  for d in ← listArg req "drivers" do
    registry := registry.register (← strArg d "scheme") (← strArg? d "format")
      (MemoryStore.named (← strArg d "name"))
  if let some f ← strArg? req "fallback" then
    registry := registry.withFallback (MemoryStore.named f)
  let opening ← boolArgOr req "open" false
  let results ← (← listArg req "sources").mapM fun s => do
    let src := probeSource (← strArg s "uri") (← strArg? s "format")
    let base : List (String × Document) :=
      [("scheme", .str src.scheme), ("driver", inline (registry.resolve src) (fun m => .str m.name) loadErrorDoc)]
    let extra : List (String × Document) :=
      if opening then [("open", inline (registry.openSource src) (fun _ => .bool true) openErrorDoc)] else []
    return Document.ofPairs (base ++ extra)
  if ← boolArgOr req "debug" false then
    return .ofPairs [("results", .arr results), ("debug", .str registry.text)]
  return .arr results

/-- `reproject`: a stored raster read into a destination grid. -/
def reprojectOp (req : Document) : Step Document := do
  let nodata ← floatArg? req "nodata"
  let store ← storeOf req nodata
  let dst ← boundedGeobox (← arg req "dst")
  let m := Resampling.ofName (← strArg req "method")
  let src ← match store.openSource (probeSource storedUri none) with
    | .ok s => pure s
    | .error e => throw (loadErrorDoc e)
  match computeReadWindow src.geometry dst with
  | none => return .null
  | some rw =>
    match src.reproject dst rw m with
    | .error e => throw (loadErrorDoc e)
    | .ok block =>
      return .ofPairs [("src_window", windowDoc rw.src), ("dst_window", windowDoc rw.dst),
        ("strategy", strategyDoc rw.strategy), ("block", rasterDoc block)]

end Api
end Geocube
