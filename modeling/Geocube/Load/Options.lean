import Geocube.Raster.Resampling

/-!
Settings of one load: what to do when a band cannot be read, and how bands are
resampled.
-/

namespace Geocube

/-- What to do when one dataset's band cannot be read. -/
inductive IoErrorPolicy where
  /-- Record the failure and fuse the remaining datasets. -/
  | skip
  /-- Fail the whole load. -/
  | abort
  deriving Inhabited, DecidableEq, Repr

namespace IoErrorPolicy

/-- The policy a name selects, ignoring case; unknown names mean skip. -/
def ofName (s : String) : IoErrorPolicy :=
  match Text.lower s with
  | "abort" | "fail" | "raise" => .abort
  | _ => .skip

def name : IoErrorPolicy → String
  | .skip => "skip"
  | .abort => "abort"

end IoErrorPolicy

/-- Per-load settings: the failure policy, the resampling of bands without an
entry of their own, and resampling by band. -/
structure LoadOptions where
  ioErrorPolicy : IoErrorPolicy
  resampling : Resampling
  bandResampling : List (String × Resampling)
  deriving Inhabited

namespace LoadOptions

def default : LoadOptions := ⟨.skip, .nearest, []⟩

/-- The resampling of one band. -/
def resamplingFor (o : LoadOptions) (band : String) : Resampling :=
  (o.bandResampling.lookup band).getD o.resampling

end LoadOptions
end Geocube
