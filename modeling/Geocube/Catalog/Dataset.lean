import Geocube.Catalog.Product
import Geocube.Grid.Affine

/-!
Datasets: one described observation bound to its product.

A dataset document is read through its product's metadata type: the id, the
creation time and the lineage sources must be present and well formed when the
dataset is built; every other property is looked up when asked for, and
missing or unreadable values are simply absent.

Band files are located relative to the dataset's first location: an empty path
is the location itself, a path with a scheme stands as it is, an absolute path
becomes a `file://` location, and a relative path replaces the text after the
location's last slash.
-/

namespace Geocube

/-- Name of the search field holding a dataset's acquisition time. -/
def timeField : String := "time"

/-- A pixel grid declared by a dataset document: its shape `(height, width)`
and the coefficients `[a, b, c, d, e, f]` of the map from pixel corners to
coordinates. -/
structure GridInfo where
  shape : Nat × Nat
  transform : Affine
  deriving Inhabited

namespace GridInfo

/-- A grid from `{shape: [h, w, …], transform: [6 or 9 numbers]}`; entries of
the transform that are not numbers are left out before counting, and only the
first six are kept. -/
def ofDocument? (v : Document) : Option GridInfo := do
  let shape ← (v.get? "shape").bind Document.asArr?
  let height ← shape.head?.bind Document.asU64?
  let width ← shape[1]?.bind Document.asU64?
  let coeffs := ((← (v.get? "transform").bind Document.asArr?)).filterMap Document.asF64?
  guard (coeffs.length == 6 || coeffs.length == 9)
  let t ← Affine.ofList? (coeffs.take 6)
  return ⟨(height, width), t⟩

/-- The map coordinate of a pixel corner `(col, row)`. -/
def apply (g : GridInfo) (col row : Float) : Float × Float :=
  let t := g.transform
  (t.a * col + t.b * row + t.c, t.d * col + t.e * row + t.f)

/-- The outline of the grid in its own system, clockwise from pixel corner `(0, 0)`. -/
def footprint (g : GridInfo) : List (Float × Float) :=
  let h := Binary64.ofInt g.shape.1
  let w := Binary64.ofInt g.shape.2
  [g.apply 0.0 0.0, g.apply w 0.0, g.apply w h, g.apply 0.0 h]

end GridInfo

/-- Where one band of a dataset is stored. -/
structure MeasurementInfo where
  uri : String
  /-- The 1-based band of a multi-band file. -/
  band : Option Nat
  /-- The variable of a multi-variable container. -/
  layer : Option String
  /-- The name of the grid the band is on. -/
  grid : String
  deriving Inhabited

/-- A band path resolved against a dataset location. -/
def resolveUri (base path : String) : String :=
  if path.isEmpty then base
  else if (path.splitOn "://").length > 1 then path
  else if path.startsWith "/" then "file://" ++ path
  else
    let cut := base.toList.reverse.dropWhile (· != '/')
    if cut.isEmpty then path else String.ofList cut.reverse ++ path

/-- A dataset bound to its product. -/
structure Dataset where
  id : Uuid
  product : Product
  metadata : Document
  /-- Active locations, the most recently added first. -/
  uris : List String
  archived : Bool
  sources : List LineageRef
  deriving Inhabited

namespace Dataset

/-- A dataset from a document, checking its id, creation time and sources. -/
def new (product : Product) (metadata : Document) (uris : List String) : CatalogResult Dataset := do
  let mt := product.metadataType
  let id ← mt.datasetId metadata
  let _ ← mt.creationTime metadata
  let sources ← mt.sources metadata
  return ⟨id, product, metadata, uris, false, sources⟩

def metadataType (d : Dataset) : MetadataType := d.product.metadataType

/-- The value of a search field, when the field is defined and has one. -/
def field (d : Dataset) (name : String) : Option FieldValue :=
  (d.metadataType.field? name).bind fun f => f.extract d.metadata

/-- The acquisition time range. -/
def timeRange (d : Dataset) : Option TimeRange := (d.field timeField).bind FieldValue.timeSpan?

/-- The middle of the acquisition time range. -/
def centerTime (d : Dataset) : Option Instant := d.timeRange.map TimeRange.center

def creationTime (d : Dataset) : Option Instant := (d.metadataType.creationTime d.metadata).toOption

def crs (d : Dataset) : Option Crs := d.metadataType.crs d.metadata

def label (d : Dataset) : Option String := d.metadataType.label d.metadata

def format (d : Dataset) : Option String := d.metadataType.format d.metadata

def primaryUri (d : Dataset) : Option String := d.uris.head?

/-- The well-formed grids the document declares, by name. -/
def grids (d : Dataset) : List (String × GridInfo) :=
  match d.metadataType.dataset.grids.resolve d.metadata with
  | some (.obj entries) => entries.filterMap fun (k, v) => (GridInfo.ofDocument? v).map fun g => (k, g)
  | _ => []

/-- Where a band is stored, looked up by its name, or else by the product
band's name and aliases in turn. -/
def measurementInfo (d : Dataset) (band : String) : Option MeasurementInfo := do
  let .obj entries ← d.metadataType.dataset.measurements.resolve d.metadata | none
  let entry ← match entries.lookup band with
    | some e => some e
    | none => (d.product.measurement? band).bind fun m => (m.name :: m.aliases).findSome? fun n => entries.lookup n
  let path := ((entry.get? "path").bind Document.asStr?).getD ""
  let uri ← match d.primaryUri with
    | some base => some (resolveUri base path)
    | none => if (path.splitOn "://").length > 1 then some path else none
  return ⟨uri, (entry.get? "band").bind Document.asU64?, (entry.get? "layer").bind Document.asStr?,
    ((entry.get? "grid").bind Document.asStr?).getD "default"⟩

/-- The valid-data extent in the dataset's own system: the declared geometry
(in geographic degrees when the dataset names no system), or else the outline
of the default grid. -/
def extent (d : Dataset) : Option Geometry :=
  let declared := (d.metadataType.dataset.geometry.resolve d.metadata).bind fun g =>
    (Geometry.ofGeoJson g (d.crs.getD .wgs84)).toOption
  match declared with
  | some g => some g
  | none => do
    let grid ← d.grids.lookup "default"
    (Geometry.ofPoints grid.footprint (← d.crs)).toOption

/-- The extent in geographic degrees, or else the first spatial search field
that has one. -/
def extentLonLat (d : Dataset) : Option Geometry :=
  match d.extent.bind fun g => (g.toCrs .wgs84).toOption with
  | some g => some g
  | none => d.metadataType.searchFields.findSome? fun f =>
    match f.extract d.metadata with
    | some (.spatial g) => (g.toCrs .wgs84).toOption
    | _ => none

def boundsLonLat (d : Dataset) : Option BoundingBox := d.extentLonLat.bind Geometry.bounds

end Dataset
end Geocube
