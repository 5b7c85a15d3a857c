import Geocube.Catalog.MetadataType
import Geocube.Catalog.Measurement

/-!
Products: named collections of datasets that share bands and a metadata type.

A product's definition names its metadata type, a template that every member
dataset document contains, its bands, and optionally the grid to load onto,
how it is stored, its extra dimensions and a fuse rule. A definition is decoded
as a record, bound to its metadata type by name, then checked: an identifier
for a name, a mapping for a template, band names and aliases used once each,
nodata values that fit their band's type, extra dimensions that are declared,
and a load resolution without a zero.

A document is classified by the products whose template it contains: exactly
one must match, unless a product is named explicitly.
-/

namespace Geocube

/-- A pair of x and y values: a resolution, an alignment or a tile size. -/
structure XY where
  x : Float
  y : Float
  deriving Inhabited

open Decode.Fields in
def XY.decoder : Decoder XY :=
  Decode.record "XY" <| XY.mk <$> req "x" Decode.double <*> req "y" Decode.double

/-- The grid to load a product onto by default. -/
structure LoadHints where
  crs : Crs
  resolution : XY
  align : Option XY
  deriving Inhabited

open Decode.Fields in
def LoadHints.decoder : Decoder LoadHints :=
  Decode.record "LoadHints" <|
    LoadHints.mk <$> req "crs" crsDecoder <*> req "resolution" XY.decoder
      <*> dflt "align" none (Decode.optional XY.decoder)

/-- How a product is stored. -/
structure StorageHints where
  crs : Option Crs
  resolution : Option XY
  tileSize : Option XY
  deriving Inhabited

open Decode.Fields in
def StorageHints.decoder : Decoder StorageHints :=
  Decode.record "StorageHints" <|
    StorageHints.mk <$> dflt "crs" none (Decode.optional crsDecoder)
      <*> dflt "resolution" none (Decode.optional XY.decoder)
      <*> dflt "tile_size" none (Decode.optional XY.decoder)

/-- A dimension besides space and time, such as wavelength. -/
structure ExtraDimension where
  name : String
  values : List Float
  dtype : DType
  deriving Inhabited

open Decode.Fields in
def ExtraDimension.decoder : Decoder ExtraDimension :=
  Decode.record "ExtraDimension" <|
    ExtraDimension.mk <$> req "name" Decode.text <*> req "values" (Decode.listOf Decode.double)
      <*> req "dtype" DType.decoder

/-- A product definition bound to its metadata type. -/
structure Product where
  name : String
  description : Option String
  metadataType : MetadataType
  license : Option String
  /-- The template every member dataset document contains. -/
  metadata : Document
  measurements : List Measurement
  load : Option LoadHints
  storage : Option StorageHints
  extraDimensions : List ExtraDimension
  /-- The fuse rule applied to every band. -/
  fuse : Option String
  /-- The document the product was built from. -/
  definition : Document
  deriving Inhabited

namespace Product

/-- The parts of a product definition document. -/
structure Definition where
  name : String
  description : Option String
  metadataType : String
  license : Option String
  metadata : Option Document
  measurements : List Measurement
  load : Option LoadHints
  storage : Option StorageHints
  extraDimensions : List ExtraDimension
  fuse : Option String

open Decode.Fields in
def definitionDecoder : Decoder Definition :=
  Decode.record "Definition" <|
    Definition.mk
      <$> req "name" Decode.text
      <*> dflt "description" none (Decode.optional Decode.text)
      <*> req "metadata_type" Decode.text
      <*> dflt "license" none (Decode.optional Decode.text)
      <*> dflt "metadata" none (Decode.optional Decode.any)
      <*> dflt "measurements" [] (Decode.listOf Measurement.decoder)
      <*> dflt "load" none (Decode.optional LoadHints.decoder)
      <*> dflt "storage" none (Decode.optional StorageHints.decoder)
      <*> dflt "extra_dimensions" [] (Decode.listOf ExtraDimension.decoder)
      <*> dflt "fuse" none (Decode.optional Decode.text)

/-- The first name or alias that an earlier band already uses. -/
def repeatedName (ms : List Measurement) : Option String :=
  let names := ms.flatMap fun m => m.name :: m.aliases
  (names.zipIdx.find? fun (n, i) => (names.take i).contains n).map (·.1)

/-- The checks of a product, in the order they are made. -/
def validate (p : Product) : CatalogResult Unit := do
  unless isIdentifier p.name do
    throw (.validation
      s!"invalid product name '{p.name}': only letters, digits and underscores are allowed")
  unless p.metadata.isObj do
    throw (.validation s!"product '{p.name}': metadata template must be a mapping")
  let mut seen : List String := []
  for m in p.measurements do
    for n in m.name :: m.aliases do
      if seen.contains n then
        throw (.validation s!"product '{p.name}': duplicate measurement name or alias '{n}'")
      seen := n :: seen
    if let some nd := m.nodata then
      unless m.dtype.canRepresent nd do
        throw (.validation (s!"product '{p.name}': nodata {Decimal.plainText nd} of '{m.name}' " ++
          s!"is not representable as {m.dtype.title}"))
    if let some dim := m.extraDim then
      unless p.extraDimensions.any (·.name == dim) do
        throw (.validation
          s!"product '{p.name}': measurement '{m.name}' uses undeclared extra dimension '{dim}'")
  if let some l := p.load then
    if l.resolution.x == 0.0 || l.resolution.y == 0.0 then
      throw (.validation s!"product '{p.name}': load resolution must be non-zero")

/-- Decode and check a definition, finding its metadata type with `resolve`. -/
def ofDoc (doc : Document) (resolve : String → Option MetadataType) : CatalogResult Product := do
  let d ← match definitionDecoder doc with
    | .ok d => pure d
    | .error e => throw (.validation ("invalid product definition: " ++ e.message))
  let some mt := resolve d.metadataType
    | throw (.validation
        s!"product '{d.name}' references unknown metadata type '{d.metadataType}'")
  let p : Product := ⟨d.name, d.description, mt, d.license, d.metadata.getD Document.empty,
    d.measurements, d.load, d.storage, d.extraDimensions, d.fuse, doc⟩
  p.validate
  return p

/-- Whether a dataset document contains the product's template. -/
def accepts (p : Product) (doc : Document) : Bool := doc.contains p.metadata

/-- The band a name or alias refers to. -/
def measurement? (p : Product) (n : String) : Option Measurement :=
  p.measurements.find? (·.answersTo n)

/-- The bands requested by name or alias, in request order; no names means
every band. -/
def lookupMeasurements (p : Product) (names : List String) : CatalogResult (List Measurement) :=
  if names.isEmpty then .ok p.measurements
  else names.mapM fun n =>
    match p.measurement? n with
    | some m => .ok m
    | none => .error (.notFound s!"measurement '{n}' in product '{p.name}'")

/-- Compare with a new version: changes to the template, the bands, the extra
dimensions, the metadata type or the name are unsafe, all others safe. -/
def checkUpdate (old new : Product) : Document.UpdateReport :=
  Document.UpdateReport.classify (Document.diff old.definition new.definition) fun c =>
    !(c.isUnder ["metadata"] || c.isUnder ["measurements"] || c.isUnder ["metadata_type"] ||
      c.isUnder ["extra_dimensions"] || c.isUnder ["name"])

end Product

/-- The product of a dataset document: the one named, which must match unless
mismatches are ignored, or else the only product whose template the document
contains. -/
def matchProduct (products : List Product) (doc : Document) (explicit : Option String)
    (ignoreMismatch : Bool) : CatalogResult Product :=
  match explicit with
  | some n =>
    match products.find? (·.name == n) with
    | none => .error (.notFound s!"product '{n}'")
    | some p =>
      if !ignoreMismatch && !p.accepts doc then
        .error (.noMatch s!"document does not match the metadata template of product '{n}'")
      else .ok p
  | none =>
    match products.filter (·.accepts doc) with
    | [] => .error (.noMatch "no product's metadata template is contained in the document")
    | [p] => .ok p
    | ps => .error (.ambiguousMatch (ps.map (·.name)))

end Geocube
