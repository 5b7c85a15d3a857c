import Geocube.Catalog.Error
import Geocube.Catalog.Field
import Geocube.Decode.Fields
import Geocube.Document.Changes
import Geocube.Uuid

/-!
Metadata types: where the fields of a family of dataset documents live.

A metadata type names the paths of a dataset's structural fields (its id,
creation time, label, lineage sources, format, system, grids and so on) and of
its search fields. Each place is a list of alternative paths; the first path
that leads to a value is used. A search field of a range type has separate
places for its low and high end, and a spatial field lists pairs of paths to x
and y coordinates, whose bounding box becomes the field's region.

A definition is decoded as a record, then checked: names are identifiers, the
id and creation time have places, and each search field has the places its
type needs.
-/

namespace Geocube

/-- Whether text is a non-empty run of letters, digits and underscores. -/
def isIdentifier (s : String) : Bool :=
  !s.isEmpty && s.toList.all fun c => Text.isAlnum c || c == '_'

/-- Alternative paths into a document; the first that leads to a value wins. -/
structure Offsets where
  paths : List (List String)
  deriving Inhabited

namespace Offsets

def empty : Offsets := ⟨[]⟩

def isEmpty (o : Offsets) : Bool := o.paths.isEmpty

/-- A list of keys is one path, and an empty one none; a list of key lists is
a list of paths. -/
def decoder : Decoder Offsets :=
  Decode.untagged "RawOffsets"
    [fun d => (Decode.listOf Decode.text d).map fun ks => if ks.isEmpty then ⟨[]⟩ else ⟨[ks]⟩,
     fun d => (Decode.listOf (Decode.listOf Decode.text) d).map fun ps => ⟨ps⟩]

/-- One path is written as its keys, any other number as a list of paths. -/
def toDocument (o : Offsets) : Document :=
  match o.paths with
  | [p] => Document.strs p
  | ps => .arr (ps.map Document.strs)

/-- The value at the first path that leads to one. -/
def resolve (o : Offsets) (doc : Document) : Option Document :=
  o.paths.findSome? fun p => doc.find? ⟨p⟩

/-- The first converted value among the paths that lead to one. -/
def first {α : Type} (o : Offsets) (doc : Document) (convert : Document → Option α) : Option α :=
  o.paths.findSome? fun p => (doc.find? ⟨p⟩).bind convert

end Offsets

/-- The definition of one search field. -/
structure SearchField where
  name : String
  description : Option String
  fieldType : FieldType
  offset : Offsets
  minOffset : Offsets
  maxOffset : Offsets
  /-- Paths of x and y for spatial fields. -/
  coordinates : List (List String × List String)
  crs : Option Crs
  deriving Inhabited

/-- A system read from its name; a name that is not one is refused with the
system's own message. -/
def crsDecoder : Decoder Crs :=
  Decode.Decoder.andThen Decode.text fun s =>
    match Crs.parse s with
    | .ok c => .ok c
    | .error e => .error e.message

namespace SearchField

open Decode.Fields in
/-- A search field record; its name comes from the key it is stored under. -/
def decoder : Decoder SearchField :=
  Decode.record "SearchField" <|
    (SearchField.mk "" · · · · · · ·)
      <$> dflt "description" none (Decode.optional Decode.text)
      <*> dflt "type" .string FieldType.decoder
      <*> field "offset" ["offsets"] (.defaulted .empty) Offsets.decoder
      <*> dflt "min_offset" .empty Offsets.decoder
      <*> dflt "max_offset" .empty Offsets.decoder
      <*> dflt "coordinates" [] (Decode.listOf (Decode.pairOf (Decode.listOf Decode.text)
            (Decode.listOf Decode.text)))
      <*> dflt "crs" none (Decode.optional crsDecoder)

/-- The field as a definition writes it, leaving out what is empty. -/
def toDocument (f : SearchField) : Document :=
  let opt := fun (k : String) (o : Offsets) => if o.isEmpty then [] else [(k, o.toDocument)]
  .ofPairs <|
    (match f.description with | some d => [("description", Document.str d)] | none => []) ++
    [("type", .str f.fieldType.name)] ++
    opt "offset" f.offset ++ opt "min_offset" f.minOffset ++ opt "max_offset" f.maxOffset ++
    (if f.coordinates.isEmpty then []
     else [("coordinates", .arr (f.coordinates.map fun (x, y) => .arr [Document.strs x, Document.strs y]))]) ++
    (match f.crs with | some c => [("crs", Document.str c.name)] | none => [])

/-- The field's value in a document, if its places lead to one; a range needs
both ends. -/
def extract (f : SearchField) (doc : Document) : Option FieldValue :=
  match f.fieldType with
  | .string => (f.offset.first doc asText).map .text
  | .numeric => (f.offset.first doc asNumber).map .number
  | .datetime => (f.offset.first doc asTime).map .time
  | .numericRange => do
    let lo ← f.minOffset.first doc asNumber
    let hi ← f.maxOffset.first doc asNumber
    return .numberRange (fmin lo hi) (fmax lo hi)
  | .datetimeRange => do
    let lo ← f.minOffset.first doc asTime
    let hi ← f.maxOffset.first doc asTime
    return .timeRange (TimeRange.new lo hi)
  | .spatial => do
    let ps := f.coordinates.filterMap fun (xp, yp) => do
      let x ← (doc.find? ⟨xp⟩).bind asNumber
      let y ← (doc.find? ⟨yp⟩).bind asNumber
      return (x, y)
    let b ← BoundingBox.ofPoints ps
    return .spatial (Geometry.ofBox b (f.crs.getD .wgs84))

/-- A field needs an identifier for a name and the places its type reads. -/
def validate (f : SearchField) : CatalogResult Unit := do
  unless isIdentifier f.name do
    throw (.validation s!"invalid search field name '{f.name}'")
  let ok := match f.fieldType with
    | .numericRange | .datetimeRange => !f.minOffset.isEmpty && !f.maxOffset.isEmpty
    | .spatial => !f.coordinates.isEmpty
    | _ => !f.offset.isEmpty
  unless ok do
    throw (.validation s!"search field '{f.name}' of type {f.fieldType.name} is missing its offsets")

end SearchField

/-- Places of the structural fields of a dataset, and its search fields. -/
structure DatasetSection where
  id : Offsets
  creationDt : Offsets
  label : Offsets
  sources : Offsets
  format : Offsets
  crs : Offsets
  grids : Offsets
  geometry : Offsets
  gridSpatial : Offsets
  measurements : Offsets
  /-- Search fields by name, in name order. -/
  searchFields : List (String × SearchField)
  deriving Inhabited

namespace DatasetSection

open Decode.Fields in
def decoder : Decoder DatasetSection :=
  let place := fun (k : String) => dflt k Offsets.empty Offsets.decoder
  Decode.record "DatasetSection" <|
    DatasetSection.mk
      <$> req "id" Offsets.decoder
      <*> req "creation_dt" Offsets.decoder
      <*> place "label" <*> place "sources" <*> place "format" <*> place "crs"
      <*> place "grids" <*> place "geometry" <*> place "grid_spatial" <*> place "measurements"
      <*> dflt "search_fields" [] (Decode.mapOf SearchField.decoder)

/-- The section as a definition writes it. -/
def toDocument (s : DatasetSection) : Document :=
  let opt := fun (k : String) (o : Offsets) => if o.isEmpty then [] else [(k, o.toDocument)]
  .ofPairs <|
    [("id", s.id.toDocument), ("creation_dt", s.creationDt.toDocument)] ++
    opt "label" s.label ++ opt "sources" s.sources ++ opt "format" s.format ++
    opt "crs" s.crs ++ opt "grids" s.grids ++ opt "geometry" s.geometry ++
    opt "grid_spatial" s.gridSpatial ++ opt "measurements" s.measurements ++
    [("search_fields", .ofPairs (s.searchFields.map fun (k, f) => (k, f.toDocument)))]

end DatasetSection

/-- A dataset's reference to one of its sources. -/
structure LineageRef where
  classifier : String
  sourceId : Uuid
  deriving Inhabited

/-- A named schema for reading a family of dataset documents. -/
structure MetadataType where
  name : String
  description : Option String
  dataset : DatasetSection
  /-- The document the type was built from. -/
  definition : Document
  deriving Inhabited

namespace MetadataType

/-- The parts of a definition document. -/
structure Definition where
  name : String
  description : Option String
  dataset : DatasetSection

open Decode.Fields in
def definitionDecoder : Decoder Definition :=
  Decode.record "Definition" <|
    Definition.mk
      <$> req "name" Decode.text
      <*> dflt "description" none (Decode.optional Decode.text)
      <*> req "dataset" DatasetSection.decoder

def validate (mt : MetadataType) : CatalogResult Unit := do
  unless isIdentifier mt.name do
    throw (.validation s!"invalid metadata type name '{mt.name}'")
  if mt.dataset.id.isEmpty || mt.dataset.creationDt.isEmpty then
    throw (.validation s!"metadata type '{mt.name}' must declare id and creation_dt offsets")
  for (_, f) in mt.dataset.searchFields do
    f.validate

/-- Decode and check a definition document. -/
def ofDoc (doc : Document) : CatalogResult MetadataType := do
  let d ← match definitionDecoder doc with
    | .ok d => pure d
    | .error e => throw (.validation ("invalid metadata type definition: " ++ e.message))
  let part := { d.dataset with
    searchFields := d.dataset.searchFields.map fun (k, f) => (k, { f with name := k }) }
  let mt : MetadataType := ⟨d.name, d.description, part, doc⟩
  mt.validate
  return mt

def field? (mt : MetadataType) (name : String) : Option SearchField :=
  mt.dataset.searchFields.lookup name

def searchFields (mt : MetadataType) : List SearchField := mt.dataset.searchFields.map (·.2)

/-- Every search field that has a value in the document, by name. -/
def extractAll (mt : MetadataType) (doc : Document) : List (String × FieldValue) :=
  mt.dataset.searchFields.filterMap fun (k, f) => (f.extract doc).map fun v => (k, v)

/-- The dataset's id; it must be present and well formed. -/
def datasetId (mt : MetadataType) (doc : Document) : CatalogResult Uuid := do
  let some raw := (mt.dataset.id.resolve doc).bind Document.asStr?
    | throw (.validation "dataset document has no id")
  match Uuid.parse raw with
  | .ok u => return u
  | .error e => throw (.validation s!"invalid dataset id '{raw}': {e.message}")

/-- The dataset's creation time; it must be present and readable. -/
def creationTime (mt : MetadataType) (doc : Document) : CatalogResult Instant := do
  let some raw := (mt.dataset.creationDt.resolve doc).bind Document.asStr?
    | throw (.validation "dataset document has no creation time")
  match Instant.parse raw with
  | .ok t => return t
  | .error e => throw (.validation e.message)

def label (mt : MetadataType) (doc : Document) : Option String := mt.dataset.label.first doc asText

def format (mt : MetadataType) (doc : Document) : Option String := mt.dataset.format.first doc asText

def crs (mt : MetadataType) (doc : Document) : Option Crs :=
  mt.dataset.crs.first doc fun v => v.asStr?.bind fun s => (Crs.parse s).toOption

/-- One source reference: an id, or an embedded document with an `id`. -/
def sourceRef (classifier : String) (item : Document) : CatalogResult LineageRef := do
  let raw ← match item with
    | .str s => pure s
    | .obj fs =>
      match (fs.lookup "id").bind Document.asStr? with
      | some s => pure s
      | none => throw (.validation s!"embedded source '{classifier}' has no id")
    | other => throw (.validation ("unreadable source reference " ++ other.compact))
  match Uuid.parse raw with
  | .ok u => return ⟨classifier, u⟩
  | .error e => throw (.validation s!"invalid source id '{raw}': {e.message}")

/-- Lineage references: a mapping from classifier to one id or a list of them,
in classifier order. Anything but a mapping there means no sources. -/
def sources (mt : MetadataType) (doc : Document) : CatalogResult (List LineageRef) := do
  let some (.obj entries) := mt.dataset.sources.resolve doc | return []
  let nested ← entries.mapM fun (classifier, value) =>
    let items := match value with
      | .arr xs => xs
      | other => [other]
    items.mapM (sourceRef classifier)
  return nested.flatten

/-- Compare with a new version: description edits, added search fields and
search field descriptions are safe, every other change is not. -/
def checkUpdate (old new : MetadataType) : Document.UpdateReport :=
  Document.UpdateReport.classify (Document.diff old.definition new.definition) fun c =>
    if c.isUnder ["description"] then true
    else if c.isUnder ["dataset", "search_fields"] then
      (c.path.length == 3 && c.isAddition) ||
        (c.path.length == 4 && c.path[3]? == some "description")
    else false

end MetadataType

end Geocube
