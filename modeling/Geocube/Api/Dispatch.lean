import Geocube.Api.Document
import Geocube.Api.Grid
import Geocube.Api.Source
import Geocube.Api.Fuse
import Geocube.Api.Group
import Geocube.Api.Load
import Geocube.Api.Config
import Geocube.Api.Fixture
import Geocube.Api.Catalog
import Geocube.Api.Product
import Geocube.Api.Geo
import Geocube.Api.Projection
import Geocube.Api.Time
import Geocube.Document.Reader
import Geocube.Document.Writer

/-!
The operations of the JSON interface, by name.
-/

namespace Geocube
namespace Api

/-- The answer to one request. -/
def respond (req : Document) : Document :=
  finish do
    let op ← strArg req "op"
    match op with
    | "crs" => crsOp req
    | "crs_serde" => crsTextOp req
    | "bbox" => bboxOp req
    | "bbox_from_points" => bboxFromPointsOp req
    | "parse_datetime" => parseDatetimeOp req
    | "solar" => solarOp req
    | "time_range" => timeRangeOp req
    | "docpath" => docpathOp req
    | "contains" => containsOp req
    | "leaves" => leavesOp req
    | "diff" => diffOp req
    | "project" => projectOp req
    | "transform_point" => transformPointOp req
    | "transform" => transformOp req
    | "geometry" => geometryOp req
    | "metadata_type" => metadataTypeOp req
    | "dtype" => dtypeOp req
    | "measurement" => measurementOp req
    | "product" => productOp req
    | "match_product" => matchProductOp req
    | "affine" => affineOp req
    | "affine_ctors" => affineCtorsOp req
    | "window" => windowOp req
    | "geobox" => geoboxOp req
    | "gridspec" => gridspecOp req
    | "read_window" => readWindowOp req
    | "sample" => sampleOp req
    | "area_average" => areaAverageOp req
    | "decimate" => decimateOp req
    | "warp" => warpOp req
    | "memory_read" => memoryReadOp req
    | "resolve_driver" => resolveDriverOp req
    | "reproject" => reprojectOp req
    | "fuse" => fuseOp req
    | "dataset" => datasetOp req
    | "group" => groupOp req
    | "search_plan" => searchPlanOp req
    | "predicate" => predicateOp req
    | "index" => indexOp req
    | "load" => loadOp req
    | "config" => configOp req
    | "fixture" => fixtureOp req
    | "from_yaml" => fromYamlOp req
    | "product_doc" => productDocOp req
    | "eo3_product" => eo3ProductOp req
    | "doc_builder" => docBuilderOp req
    | "generator" => generatorOp req
    | "test_macros" => testMacrosOp req
    | "init_tracing" => return .bool true
    | "resolve_uri" => resolveUriOp req
    | "names" => namesOp req
    | "mask" => maskOp req
    | "valid_mask" => validMaskOp req
    | _ => throw (badInput s!"unknown op '{op}'")

/-- The answer to one line of request text. -/
def respondText (line : String) : String :=
  match Document.parse line with
  | .ok req => (respond req).answer
  | .error e => (badInput ("bad request: " ++ e.message)).answer

end Api
end Geocube
