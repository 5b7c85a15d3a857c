import Geocube.Binary64
import Geocube.Decimal.Shortest
import Geocube.Decimal.Layout
import Geocube.Decimal.Read
import Geocube.Document.Basic
import Geocube.Document.Reader
import Geocube.Document.Writer
import Geocube.Document.Path
import Geocube.Document.Changes
import Geocube.Text.Case
import Geocube.Geo.Error
import Geocube.Geo.BoundingBox
import Geocube.Geo.Crs
import Geocube.Text.Quoted
import Geocube.Projection.Ellipsoid
import Geocube.Projection.Plane
import Geocube.Projection.TransverseMercator
import Geocube.Projection.Conic
import Geocube.Projection.Basic
import Geocube.Projection.Transformer
import Geocube.Geometry.Orientation
import Geocube.Geometry.Ring
import Geocube.Geometry.Basic
import Geocube.Decode.Basic
import Geocube.Decode.Fields
import Geocube.Uuid
import Geocube.Catalog.Error
import Geocube.Catalog.Field
import Geocube.Catalog.MetadataType
import Geocube.Catalog.Measurement
import Geocube.Catalog.Product
import Geocube.Catalog.Dataset
import Geocube.Catalog.Search
import Geocube.Catalog.Index
import Geocube.Catalog.Driver
import Geocube.Catalog.Clients
import Geocube.Yaml.Token
import Geocube.Yaml.Event
import Geocube.Yaml.Value
import Geocube.Fixture.Definitions
import Geocube.Fixture.Builder
import Geocube.Catalog.DatabaseUrl
import Geocube.Catalog.Config
import Geocube.Ingest.Batch
import Geocube.Load.Error
import Geocube.Load.Source
import Geocube.Load.Options
import Geocube.Load.Grouping
import Geocube.Load.Cube
import Geocube.Load.Lazy
import Geocube.Load.Config
import Geocube.Load.Query
import Geocube.Grid.Affine
import Geocube.Grid.Window
import Geocube.Grid.GeoBox
import Geocube.Grid.ReadWindow
import Geocube.Raster.Basic
import Geocube.Raster.Resampling
import Geocube.Raster.Fuse
import Geocube.Raster.Mask
import Geocube.Raster.Synthetic
import Geocube.Api.Request
import Geocube.Api.Geo
import Geocube.Api.Time
import Geocube.Api.Document
import Geocube.Api.Projection
import Geocube.Api.Catalog
import Geocube.Api.Product
import Geocube.Api.Grid
import Geocube.Api.Raster
import Geocube.Api.Source
import Geocube.Api.Fuse
import Geocube.Api.Dataset
import Geocube.Api.Group
import Geocube.Api.Search
import Geocube.Api.Index
import Geocube.Api.Load
import Geocube.Api.Config
import Geocube.Api.Fixture
import Geocube.Api.Dispatch
import Geocube.Time.Civil
import Geocube.Time.Instant
import Geocube.Time.Parse
import Geocube.Time.Range
import Geocube.Proofs.Except
import Geocube.Proofs.Time.Order
import Geocube.Proofs.Catalog.Prefilter
import Geocube.Proofs.Document.Same
import Geocube.Proofs.Document.Diff
import Geocube.Proofs.Binary64.Order
import Geocube.Proofs.Raster.Fuse
import Geocube.Proofs.Load.Grouping
import Geocube.Proofs.Decode.Congruence
import Geocube.Proofs.Catalog.Reading
import Geocube.Proofs.Catalog.SafeUpdate
import Geocube.Proofs.Catalog.Paging
import Geocube.Proofs.Catalog.Columns
import Geocube.Proofs.Catalog.IndexOps
import Geocube.Proofs.Catalog.Reachable
import Geocube.Proofs.Catalog.Registry
import Geocube.Proofs.Catalog.Locations
import Geocube.Proofs.Catalog.Records
import Geocube.Proofs.Catalog.Archive
import Geocube.Proofs.Catalog.Representation
import Geocube.Proofs.Catalog.Interleaving
import Geocube.Proofs.Catalog.CheckThenAct
import Geocube.Proofs.Catalog.Streaming
import Geocube.Proofs.Ingest.Order
import Geocube.Proofs.Ingest.Rounds
import Geocube.Proofs.Ingest.Report
import Geocube.Proofs.Ingest.Steps
import Geocube.Proofs.Ingest.Lineage
import Geocube.Proofs.Ingest.DryRun
import Geocube.Proofs.Grid.Aligned
import Geocube.Proofs.Grid.Ranges
import Geocube.Proofs.Load.Fold
import Geocube.Proofs.Load.Memo
import Geocube.Proofs.Load.Compute
import Geocube.Proofs.Catalog.Planning
import Geocube.Proofs.Catalog.Extract
import Geocube.Proofs.Catalog.Ordering
import Geocube.Proofs.Binary64.Bits
import Geocube.Proofs.Document.Pairs
import Geocube.Proofs.Document.Contains
import Geocube.Proofs.Catalog.Matching
import Geocube.Proofs.Geo.CrsName
import Geocube.Proofs.Decode.Values
import Geocube.Proofs.Catalog.RoundTrip
import Geocube.Proofs.Catalog.NumberTerms
import Geocube.Proofs.Binary64.Value
import Geocube.Proofs.Catalog.Coercion
import Geocube.Proofs.Document.Write
import Geocube.Proofs.Exact.Rational
import Geocube.Proofs.Raster.Kernels
import Geocube.Proofs.Raster.Decimation
import Geocube.Proofs.Grid.Cover
import Geocube.Proofs.Binary64.Rounding
import Geocube.Proofs.Projection.Wrap
import Geocube.Proofs.Grid.Chunks
import Geocube.Proofs.Load.Coverage
import Geocube.Proofs.Binary64.Floor
import Geocube.Proofs.Raster.Reads
import Geocube.Proofs.Binary64.Product
import Geocube.Proofs.Time.Solar
