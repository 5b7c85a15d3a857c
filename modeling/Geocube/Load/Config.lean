import Geocube.Load.Options
import Geocube.Catalog.Config

/-!
Settings of a loader: the failure policy and resampling used when a query
names none, the chunk size of lazy loads, and the number of workers of
parallel computations.
-/

namespace Geocube

/-- Settings of a loader. -/
structure LoaderConfig where
  ioErrorPolicy : IoErrorPolicy := .skip
  /-- The resampling of queries that name none. -/
  defaultResampling : Resampling := .nearest
  /-- The side in pixels of the square chunks of a lazy load. -/
  chunkSize : Nat := 512
  /-- Workers of a parallel computation; 0 means the default number. -/
  workers : Nat := 0
  deriving Inhabited

namespace LoaderConfig

/-- The settings from `DATACUBE_IO_ERROR_POLICY`, `DATACUBE_RESAMPLING`
(names read as the policy and resampling names are), `DATACUBE_CHUNK_SIZE` and
`DATACUBE_WORKERS` (counts). -/
def fromEnv (e : Environment) : LoaderConfig :=
  let d : LoaderConfig := {}
  let count := fun (name : String) (dflt : Nat) =>
    ((e.get? name).bind fun v => Decimal.readNat? v Decimal.u64Max).getD dflt
  ⟨((e.get? "DATACUBE_IO_ERROR_POLICY").map IoErrorPolicy.ofName).getD d.ioErrorPolicy,
   ((e.get? "DATACUBE_RESAMPLING").map Resampling.ofName).getD d.defaultResampling,
   count "DATACUBE_CHUNK_SIZE" d.chunkSize, count "DATACUBE_WORKERS" d.workers⟩

/-- Chunks must have pixels, and workers are at most 1024. -/
def validate (c : LoaderConfig) : Except String Unit :=
  if c.chunkSize == 0 then .error "chunk_size must be > 0"
  else if c.workers > 1024 then .error "workers must be <= 1024"
  else .ok ()

/-- The load options of the settings, with no resampling by band. -/
def loadOptions (c : LoaderConfig) : LoadOptions := ⟨c.ioErrorPolicy, c.defaultResampling, []⟩

end LoaderConfig
end Geocube
