import Geocube.Api.Load
import Geocube.Catalog.Config

/-!
The settings operation: each configuration read from a given environment.
-/

namespace Geocube
namespace Api

/-- The variables the settings read. -/
def settingVariables : List String :=
  ["DATACUBE_DB_URL", "DATACUBE_DB_MAX_CONNECTIONS", "DATACUBE_DB_AUTO_MIGRATE",
   "DATACUBE_INGEST_VERIFY_LINEAGE", "DATACUBE_INGEST_WITH_LINEAGE",
   "DATACUBE_INGEST_IGNORE_MISMATCH", "DATACUBE_INGEST_DRY_RUN", "DATACUBE_IO_ERROR_POLICY",
   "DATACUBE_RESAMPLING", "DATACUBE_CHUNK_SIZE", "DATACUBE_WORKERS"]

/-- The environment of a request: text values of known variables only. -/
def environmentOf (req : Document) : Step Environment := do
  match arg? req "env" with
  | none => return ⟨[]⟩
  | some (.obj fields) =>
    let vars ← fields.mapM fun (k, v) => do
      if !settingVariables.contains k then throw (badInput s!"unknown variable '{k}'")
      return (k, ← str v)
    return ⟨vars⟩
  | some _ => throw (badInput "env must be an object")

/-- `true`, or the reason settings are refused. -/
def validityDoc (r : Except String Unit) : Document :=
  match r with
  | .ok () => .bool true
  | .error m => .ofPairs [("invalid", .str m)]

def configOp (req : Document) : Step Document := do
  let e ← environmentOf req
  match ← strArg req "which" with
  | "catalog" =>
    let c := CatalogConfig.fromEnv e
    let base := [("database_url", (c.databaseUrl.map Document.str).getD .null),
      ("max_connections", .int c.maxConnections), ("auto_migrate", .bool c.autoMigrate),
      ("validate", validityDoc c.validate)]
    let connect := if ← boolArgOr req "connect" false then
        [("connect", inline c.connect (fun _ => .str "Index \x7b .. \x7d") catalogErrorDoc)]
      else []
    return .ofPairs (base ++ connect)
  | "ingestion" =>
    let c := IngestionConfig.fromEnv e
    return .ofPairs [("verify_lineage", .bool c.verifyLineage), ("with_lineage", .bool c.withLineage),
      ("ignore_product_mismatch", .bool c.ignoreProductMismatch), ("dry_run", .bool c.dryRun),
      ("validate", validityDoc c.validate)]
  | "loader" =>
    let c := LoaderConfig.fromEnv e
    let o := c.loadOptions
    return .ofPairs [("io_error_policy", .str c.ioErrorPolicy.name),
      ("default_resampling", .str c.defaultResampling.name),
      ("default_resampling_display", .str c.defaultResampling.name),
      ("chunk_size", .int c.chunkSize), ("workers", .int c.workers),
      ("validate", validityDoc c.validate),
      ("load_options", .ofPairs [("io_error_policy", .str o.ioErrorPolicy.name),
        ("resampling", .str o.resampling.name), ("band_resampling", .int o.bandResampling.length)])]
  | w => throw (badInput s!"unknown config '{w}'")

end Api
end Geocube
