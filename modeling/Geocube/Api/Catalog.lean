import Geocube.Api.Document
import Geocube.Api.Projection
import Geocube.Catalog.MetadataType

/-!
Answers about metadata types and the values they read from documents.
-/

namespace Geocube
namespace Api

def catalogErrorDoc (e : CatalogError) : Document := errorDoc ("CatalogError::" ++ e.kind) e.message

/-- Lift a catalog failure into the answer that reports it. -/
def catalog {α : Type} (r : CatalogResult α) : Step α :=
  match r with
  | .ok v => .ok v
  | .error e => .error (catalogErrorDoc e)

def uuidDoc (u : Uuid) : Document := .str u.text

def rangeDocOf (r : TimeRange) : Document := .arr [.str r.start.text, .str r.stop.text]

def fieldValueDoc : FieldValue → Document
  | .text s => .ofPairs [("text", .str s)]
  | .number x => .ofPairs [("number", fl x)]
  | .time t => .ofPairs [("time", .str t.text)]
  | .numberRange lo hi => .ofPairs [("number_range", .arr [fl lo, fl hi])]
  | .timeRange r => .ofPairs [("time_range", rangeDocOf r)]
  | .spatial g => .ofPairs [("spatial", geometryDoc g)]

def updateReportDoc (r : Document.UpdateReport) : Document :=
  .ofPairs [("safe", .arr (r.safe.map changeDoc)), ("unsafe", .arr (r.risky.map changeDoc)),
    ("is_safe", .bool r.isSafe), ("is_empty", .bool r.isEmpty),
    ("describe_unsafe", .str r.describeRisky)]

def offsetsDoc (o : Offsets) : Document := .arr (o.paths.map Document.strs)

def searchFieldDoc (f : SearchField) : Document :=
  .ofPairs [("type", .str f.fieldType.name), ("description", optDoc f.description .str),
    ("offset", offsetsDoc f.offset), ("min_offset", offsetsDoc f.minOffset),
    ("max_offset", offsetsDoc f.maxOffset),
    ("coordinates", .arr (f.coordinates.map fun (x, y) => .arr [Document.strs x, Document.strs y])),
    ("crs", optDoc f.crs fun c => .str c.name)]

def metadataTypeDoc (mt : MetadataType) : Document :=
  let s := mt.dataset
  .ofPairs [("name", .str mt.name), ("description", optDoc mt.description .str),
    ("id", offsetsDoc s.id), ("creation_dt", offsetsDoc s.creationDt), ("label", offsetsDoc s.label),
    ("sources", offsetsDoc s.sources), ("format", offsetsDoc s.format), ("crs", offsetsDoc s.crs),
    ("grids", offsetsDoc s.grids), ("geometry", offsetsDoc s.geometry),
    ("grid_spatial", offsetsDoc s.gridSpatial), ("measurements", offsetsDoc s.measurements),
    ("search_fields", .ofPairs (s.searchFields.map fun (k, f) => (k, searchFieldDoc f)))]

def fieldsDoc (fs : List (String × FieldValue)) : Document :=
  .ofPairs (fs.map fun (k, v) => (k, fieldValueDoc v))

/-- What a metadata type reads from one dataset document. -/
def extractDoc (mt : MetadataType) (doc : Document) : Document :=
  .ofPairs [("id", inline (mt.datasetId doc) uuidDoc catalogErrorDoc),
    ("creation_time", inline (mt.creationTime doc) (fun t => .str t.text) catalogErrorDoc),
    ("label", optDoc (mt.label doc) .str), ("format", optDoc (mt.format doc) .str),
    ("crs", optDoc (mt.crs doc) fun c => .str c.name),
    ("sources", inline (mt.sources doc)
      (fun rs => .arr (rs.map fun r => .arr [.str r.classifier, uuidDoc r.sourceId])) catalogErrorDoc),
    ("fields", fieldsDoc (mt.extractAll doc))]

/-- The kind of a field value and its spans. -/
def fieldKindDoc (v : FieldValue) : Document :=
  .ofPairs [("type", .str v.fieldType.name), ("is_range", .bool v.fieldType.isRange),
    ("number_range", optDoc v.numberSpan? fun (lo, hi) => .arr [fl lo, fl hi]),
    ("time_range", optDoc v.timeSpan? rangeDocOf)]

/-- `metadata_type`: a parsed type, what it reads from documents, and how an
update compares. -/
def metadataTypeOp (req : Document) : Step Document := do
  let mt ← catalog (MetadataType.ofDoc (← arg req "doc"))
  let docs ← listArg? req "docs"
  let mut fields : List (String × Document) := [("type", metadataTypeDoc mt)]
  if let some ds := docs then
    fields := fields ++ [("extract", .arr (ds.map (extractDoc mt)))]
  if let some u := arg? req "update" then
    fields := fields ++ [("check_update",
      inline (MetadataType.ofDoc u) (fun n => updateReportDoc (mt.checkUpdate n)) catalogErrorDoc)]
  if (← boolArgOr req "serialize" false) then
    fields := fields ++ [("serialized", mt.dataset.toDocument), ("definition", mt.definition)]
    if let some ds := docs then
      fields := fields ++ [("field_kinds", .arr (ds.map fun d =>
        .ofPairs ((mt.extractAll d).map fun (k, v) => (k, fieldKindDoc v))))]
  return .ofPairs fields

end Api
end Geocube
