import Geocube.Catalog.Search

/-!
The catalog index: metadata types, products and datasets kept in memory.

Metadata types and products are kept by name in ascending order; datasets in
the order they were first added. A dataset keeps its locations oldest first
and reports them newest first. When a dataset is added, its acquisition time
and geographic bounds are recorded for the cheap first phase of searches;
they are not recomputed when its metadata type changes later.

Every operation either fails and leaves the index as it was, or succeeds with
the new index.
-/

namespace Geocube

/-- One location of a dataset. -/
structure Location where
  uri : String
  archived : Bool
  deriving Inhabited

/-- A dataset as the index keeps it. -/
structure DatasetRecord where
  id : Uuid
  product : String
  metadata : Document
  archived : Bool
  sources : List LineageRef
  /-- The acquisition time when the dataset was added. -/
  time : Option TimeRange
  /-- The geographic bounds when the dataset was added. -/
  bounds : Option BoundingBox
  /-- Oldest first. -/
  locations : List Location
  deriving Inhabited

namespace DatasetRecord

/-- Active (or archived) locations, newest first. -/
def uris (r : DatasetRecord) (archived : Bool) : List String :=
  (r.locations.reverse.filter (·.archived == archived)).map (·.uri)

/-- Add a location unless the dataset already has it. -/
def addLocation (r : DatasetRecord) (uri : String) : DatasetRecord × Bool :=
  if r.locations.any (·.uri == uri) then (r, false)
  else ({ r with locations := r.locations ++ [⟨uri, false⟩] }, true)

/-- Add locations given newest first, so that the oldest is added first. -/
def addLocations (r : DatasetRecord) (uris : List String) : DatasetRecord :=
  uris.reverse.foldl (fun acc u => (acc.addLocation u).1) r

/-- Drop a location; whether it was there. -/
def removeLocation (r : DatasetRecord) (uri : String) : DatasetRecord × Bool :=
  let kept := r.locations.filter (·.uri != uri)
  ({ r with locations := kept }, kept.length != r.locations.length)

/-- Archive or restore the first location with this URI; whether it changed. -/
def setLocationArchived (r : DatasetRecord) (uri : String) (archived : Bool) :
    DatasetRecord × Bool :=
  match r.locations.find? (·.uri == uri) with
  | some l =>
    if l.archived != archived then
      let rec go : List Location → List Location
        | [] => []
        | x :: rest => if x.uri == uri then { x with archived := archived } :: rest else x :: go rest
      ({ r with locations := go r.locations }, true)
    else (r, false)
  | none => (r, false)

/-- The record as a dataset of `p`, with its active locations. -/
def bind (r : DatasetRecord) (p : Product) : Dataset :=
  ⟨r.id, p, r.metadata, r.uris false, r.archived, r.sources⟩

/-- The record of a newly added dataset: unarchived, with its lineage when
asked for. -/
def ofDataset (d : Dataset) (withLineage : Bool) : DatasetRecord :=
  (⟨d.id, d.product.name, d.metadata, false, if withLineage then d.sources else [],
    d.timeRange, d.boundsLonLat, []⟩ : DatasetRecord).addLocations d.uris

end DatasetRecord

/-- Insert into a list kept in ascending order of `key`, or replace the entry
with the same key. -/
def insertByKey {α : Type} (key : α → String) (x : α) : List α → List α
  | [] => [x]
  | y :: rest =>
    if key x == key y then x :: rest
    else if key x < key y then x :: y :: rest
    else y :: insertByKey key x rest

/-- The in-memory catalog. -/
structure Index where
  metadataTypes : List MetadataType := []
  products : List Product := []
  datasets : List DatasetRecord := []
  deriving Inhabited

/-- An index operation: it fails, or gives an answer and the new index. -/
abbrev IndexOp (α : Type) := StateT Index (Except CatalogError) α

namespace Index

/-- The empty index. -/
def empty : Index := {}

/-- The inspection form of an index, which shows none of its contents. -/
def inspectText : String := "Index \x7b .. \x7d"

def metadataType? (ix : Index) (name : String) : Option MetadataType :=
  ix.metadataTypes.find? (·.name == name)

def product? (ix : Index) (name : String) : Option Product :=
  ix.products.find? (·.name == name)

def record? (ix : Index) (id : Uuid) : Option DatasetRecord :=
  ix.datasets.find? (·.id == id)

/-- Change the record of one dataset. -/
def modifyRecord {α : Type} (id : Uuid) (f : DatasetRecord → DatasetRecord × α) :
    IndexOp α := do
  let ix ← get
  let some r := ix.record? id | throw (.notFound ("dataset " ++ id.text))
  let (r', a) := f r
  set { ix with datasets := ix.datasets.map fun (x : DatasetRecord) => if x.id == id then r' else x }
  return a

/-! ### Metadata types -/

/-- A stored metadata type by name. -/
def getMetadataType (name : String) : IndexOp MetadataType := do
  match (← get).metadataType? name with
  | some mt => return mt
  | none => throw (.notFound s!"metadata type '{name}'")

/-- Store a new metadata type. -/
def addMetadataType (mt : MetadataType) : IndexOp MetadataType := do
  StateT.lift mt.validate
  if ((← get).metadataType? mt.name).isSome then
    throw (.alreadyExists s!"metadata type '{mt.name}'")
  modify fun ix => { ix with metadataTypes := insertByKey (·.name) mt ix.metadataTypes }
  getMetadataType mt.name

/-- How a metadata type differs from the stored version. -/
def checkUpdateMetadataType (mt : MetadataType) : IndexOp Document.UpdateReport := do
  return (← getMetadataType mt.name).checkUpdate mt

/-- Replace a stored metadata type, and bind its products to the new version.
Unsafe changes need `allowUnsafe`. -/
def updateMetadataType (mt : MetadataType) (allowUnsafe : Bool) : IndexOp MetadataType := do
  StateT.lift mt.validate
  let report ← checkUpdateMetadataType mt
  if report.isEmpty then return ← getMetadataType mt.name
  if !report.isSafe && !allowUnsafe then
    throw (.conflict s!"unsafe changes to metadata type '{mt.name}': {report.describeRisky}")
  modify fun ix => { ix with
    metadataTypes := insertByKey (·.name) mt ix.metadataTypes
    products := ix.products.map fun p =>
      if p.metadataType.name == mt.name then { p with metadataType := mt } else p }
  getMetadataType mt.name

def addOrUpdateMetadataType (mt : MetadataType) (allowUnsafe : Bool) : IndexOp MetadataType := do
  if ((← get).metadataType? mt.name).isSome then updateMetadataType mt allowUnsafe
  else addMetadataType mt

/-! ### Products -/

/-- A product definition read against the stored metadata types. -/
def productOfDoc (doc : Document) : IndexOp Product := do
  let ix ← get
  StateT.lift (Product.ofDoc doc ix.metadataType?)

def getProduct (name : String) : IndexOp Product := do
  match (← get).product? name with
  | some p => return p
  | none => throw (.notFound s!"product '{name}'")

/-- Store a new product; its metadata type must be stored already. -/
def addProduct (p : Product) : IndexOp Product := do
  StateT.lift p.validate
  let ix ← get
  if (ix.product? p.name).isSome then throw (.alreadyExists s!"product '{p.name}'")
  if (ix.metadataType? p.metadataType.name).isNone then
    throw (.validation
      s!"product '{p.name}' references metadata type '{p.metadataType.name}' which is not in the index")
  set { ix with products := insertByKey (·.name) p ix.products }
  getProduct p.name

def checkUpdateProduct (p : Product) : IndexOp Document.UpdateReport := do
  return (← getProduct p.name).checkUpdate p

/-- Replace a stored product. Unsafe changes need `allowUnsafe`. -/
def updateProduct (p : Product) (allowUnsafe : Bool) : IndexOp Product := do
  StateT.lift p.validate
  let report ← checkUpdateProduct p
  if report.isEmpty then return ← getProduct p.name
  if !report.isSafe && !allowUnsafe then
    throw (.conflict s!"unsafe changes to product '{p.name}': {report.describeRisky}")
  modify fun ix => { ix with products := insertByKey (·.name) p ix.products }
  getProduct p.name

def addOrUpdateProduct (p : Product) (allowUnsafe : Bool) : IndexOp Product := do
  if ((← get).product? p.name).isSome then updateProduct p allowUnsafe else addProduct p

/-- Remove a product that no dataset, archived or not, belongs to. -/
def deleteProduct (name : String) : IndexOp Unit := do
  let _ ← getProduct name
  let ix ← get
  let n := (ix.datasets.filter (·.product == name)).length
  if n > 0 then throw (.conflict s!"product '{name}' still has {n} datasets")
  set { ix with products := ix.products.filter (·.name != name) }

/-- The span of acquisition times of a product's active datasets. -/
def timeBounds (ix : Index) (name : String) : Option TimeRange :=
  let spans := (ix.datasets.filter fun r => r.product == name && !r.archived).filterMap (·.time)
  match spans with
  | [] => none
  | s :: rest => some (rest.foldl (fun a b =>
      TimeRange.new (Instant.min a.start b.start) (Instant.max a.stop b.stop)) s)

/-! ### Datasets -/

/-- Add a dataset with its locations; whether it is new. A dataset already
present only gains the locations it lacked. -/
def addDataset (d : Dataset) (withLineage : Bool) : IndexOp Bool := do
  let _ ← getProduct d.product.name
  let ix ← get
  match ix.record? d.id with
  | some _ =>
    modifyRecord d.id fun r => (r.addLocations d.uris, false)
  | none =>
    set { ix with datasets := ix.datasets ++ [DatasetRecord.ofDataset d withLineage] }
    return true

/-- A dataset bound to its stored product. -/
def bindRecord (r : DatasetRecord) : IndexOp Dataset := do
  return r.bind (← getProduct r.product)

def getDataset (id : Uuid) : IndexOp (Option Dataset) := do
  match (← get).record? id with
  | some r => return some (← bindRecord r)
  | none => return none

def has (ix : Index) (id : Uuid) : Bool := (ix.record? id).isSome

/-- Ids of the datasets listing `id` as a lineage source, in the order they
were added. -/
def derivedIds (ix : Index) (id : Uuid) : List Uuid :=
  (ix.datasets.filter fun r => r.sources.any (·.sourceId == id)).map (·.id)

def getDerived (id : Uuid) : IndexOp (List Dataset) := do
  (derivedIds (← get) id).filterMapM getDataset

/-- Archive or restore datasets; how many changed. -/
def setArchived (ids : List Uuid) (archived : Bool) : IndexOp Nat := do
  let mut changed := 0
  for id in ids do
    if let some r := (← get).record? id then
      if r.archived != archived then
        let _ ← modifyRecord id fun r => ({ r with archived := archived }, ())
        changed := changed + 1
  return changed

/-- Archive datasets. Without `force`, refused while an active dataset
outside `ids` lists one of them as a source. -/
def archive (ids : List Uuid) (force : Bool) : IndexOp Nat := do
  if !force then
    let ix ← get
    for id in ids do
      for derived in ix.derivedIds id do
        if ids.contains derived then continue
        if ((ix.record? derived).map (!·.archived)).getD false then
          throw (.conflict s!"dataset {id.text} is a source of active dataset {derived.text}")
  setArchived ids true

def restore (ids : List Uuid) : IndexOp Nat := setArchived ids false

def addLocation (id : Uuid) (uri : String) : IndexOp Bool :=
  modifyRecord id (·.addLocation uri)

def removeLocation (id : Uuid) (uri : String) : IndexOp Bool :=
  modifyRecord id (·.removeLocation uri)

def archiveLocation (id : Uuid) (uri : String) : IndexOp Bool :=
  modifyRecord id (·.setLocationArchived uri true)

def restoreLocation (id : Uuid) (uri : String) : IndexOp Bool :=
  modifyRecord id (·.setLocationArchived uri false)

/-- Active (or archived) locations, newest first; none for an unknown id. -/
def locations (ix : Index) (id : Uuid) (archived : Bool) : List String :=
  ((ix.record? id).map (·.uris archived)).getD []

/-! ### Searching -/

/-- A search planned against the stored products. -/
def plan (ix : Index) (terms : SearchTerms) : CatalogResult SearchPlan :=
  SearchPlan.new terms ix.products

/-- Candidates fetched per round trip of a search. -/
def pageSize : Nat := 500

/-- The records that pass a prefilter, in the order they were added, from
position `offset` on, and at most `limit` of them. -/
def candidates (ix : Index) (f : CandidateFilter) (offset : Nat) (limit : Option Nat) :
    List DatasetRecord :=
  let rest := (ix.datasets.filter fun r => f.accepts r.product r.archived r.time r.bounds).drop offset
  match limit with
  | some n => rest.take n
  | none => rest

theorem candidates_length_le (ix : Index) (f : CandidateFilter) (offset : Nat)
    (limit : Option Nat) : (ix.candidates f offset limit).length ≤ ix.datasets.length - offset := by
  have hf := List.length_filter_le (fun r : DatasetRecord =>
    f.accepts r.product r.archived r.time r.bounds) ix.datasets
  cases limit with
  | none => simp only [candidates, List.length_drop]; omega
  | some n => simp only [candidates, List.length_take, List.length_drop]; omega

/-- The matches of a planned search, page after page from `offset`: each page
of candidates is bound to the plan's products and checked exactly, and a page
shorter than `pageSize` is the last. -/
def pagesFrom (ix : Index) (p : SearchPlan) (offset : Nat) : List Dataset :=
  let found := ix.candidates p.prefilter offset (some pageSize)
  let matched := (found.filterMap fun r => (p.product? r.product).map r.bind).filter p.accepts
  if _ : found.length = pageSize then matched ++ ix.pagesFrom p (offset + pageSize) else matched
termination_by ix.datasets.length - offset
decreasing_by
  -- a full page lies within the records past `offset`
  have := ix.candidates_length_le p.prefilter offset (some pageSize)
  simp only [found, pageSize] at *
  omega

/-- Run a planned search: the matches page by page; with an ordering all of
them are collected, then ordered and limited, and otherwise the first `limit`. -/
def runPlan (ix : Index) (p : SearchPlan) : List Dataset :=
  if p.isEmpty then []
  else if p.orderBy.isSome then p.finish (ix.pagesFrom p 0)
  else match p.limit with
    | some n => (ix.pagesFrom p 0).take n
    | none => ix.pagesFrom p 0

def search (ix : Index) (terms : SearchTerms) : CatalogResult (List Dataset) :=
  return ix.runPlan (← ix.plan terms)

/-- Search results by product, products in order of their first result. -/
def searchByProduct (ix : Index) (terms : SearchTerms) :
    CatalogResult (List (Product × List Dataset)) := do
  let found ← ix.search terms
  return found.foldl (fun acc d =>
    if acc.any (·.1.name == d.product.name) then
      acc.map fun (p, ds) => if p.name == d.product.name then (p, ds ++ [d]) else (p, ds)
    else acc ++ [(d.product, [d])]) []

end Index

end Geocube
