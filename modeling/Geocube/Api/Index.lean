import Geocube.Api.Search
import Geocube.Ingest.Batch
import Geocube.Fixture.Builder

/-!
Answers about a catalog index driven by a sequence of operations.

A request runs its operations in order against one index, starting empty or
seeded; each operation answers for itself, and a failing one leaves the index
as it was.
-/

namespace Geocube
namespace Api

/-- An identifier, or a refusal of the request. -/
def uuidOf (d : Document) : Step Uuid := do
  match Uuid.parse (← str d) with
  | .ok u => return u
  | .error e => throw (badInput ("bad uuid: " ++ e.message))

def uuidArg (req : Document) (k : String) : Step Uuid := do uuidOf (← arg req k)

def uuidsArg (req : Document) (k : String) : Step (List Uuid) := do
  (← listArg req k).mapM uuidOf

def uuidsDoc (us : List Uuid) : Document := .arr (us.map uuidDoc)

def metadataTypeBrief (mt : MetadataType) : Document :=
  .ofPairs [("name", .str mt.name), ("description", optDoc mt.description .str),
    ("search_fields", .ofPairs (mt.dataset.searchFields.map fun (k, f) => (k, .str f.fieldType.name)))]

def productBrief (p : Product) : Document :=
  .ofPairs [("name", .str p.name), ("description", optDoc p.description .str),
    ("metadata_type", .str p.metadataType.name), ("measurements", namesDoc p.measurements),
    ("fuse", optDoc p.fuse .str)]

def datasetBrief (d : Dataset) : Document :=
  .ofPairs [("id", uuidDoc d.id), ("product", .str d.product.name),
    ("uris", Document.strs d.uris), ("archived", .bool d.archived),
    ("sources", .arr (d.sources.map lineageDoc))]

def ingestionErrorDoc (e : IngestionError) : Document :=
  errorDoc ("IngestionError::" ++ e.kind) e.message

/-- A setup failure: its catalog error, or a failure of another kind. -/
def setupErrorDoc : Fixture.SetupError → Document
  | .catalog e => catalogErrorDoc e
  | .other m => errorDoc "Anyhow" m

/-- The answer of an index operation, and the index after it. -/
def applyOp {α : Type} (ix : Index) (op : IndexOp α) (enc : α → Document) : Document × Index :=
  match op.run ix with
  | .ok (a, ix') => (enc a, ix')
  | .error e => (catalogErrorDoc e, ix)

/-- The flags of an ingestion request. -/
def ingestionConfigArg (req : Document) : Step IngestionConfig := do
  return { verifyLineage := ← boolArgOr req "verify_lineage" true
           withLineage := ← boolArgOr req "with_lineage" true
           ignoreProductMismatch := ← boolArgOr req "ignore_product_mismatch" false
           dryRun := ← boolArgOr req "dry_run" false }

/-- The options of an ingestion request: its flags and its product. -/
def ingestOptionsArg (req : Document) (c : IngestionConfig) : Step IngestOptions := do
  return { IngestOptions.ofConfig c with product := ← strArg? req "product" }

def sourceDocumentOf (d : Document) : Step SourceDocument := do
  return ⟨← strArg d "uri", docArg d "doc"⟩

def failedDoc (f : FailedDocument) : Document :=
  .ofPairs [("uri", .str f.uri), ("dataset_id", optDoc f.datasetId uuidDoc),
    ("error", .str ("IngestionError::" ++ f.error.kind)), ("message", .str f.error.message)]

def configFlagsDoc (c : IngestionConfig) : List (String × Document) :=
  [("verify_lineage", .bool c.verifyLineage), ("with_lineage", .bool c.withLineage),
   ("ignore_product_mismatch", .bool c.ignoreProductMismatch), ("dry_run", .bool c.dryRun)]

/-- A batch report, with its counts, failures and ingester when `detail` is
asked for. -/
def reportDoc (r : IngestionReport) (c : IngestionConfig) (detail : Bool) : Document :=
  let base : List (String × Document) :=
    [("indexed", uuidsDoc r.indexed), ("existing", uuidsDoc r.existing),
     ("failed", .arr (r.failed.map failedDoc)), ("is_success", .bool r.isSuccess),
     ("total", .int r.total)]
  if !detail then .ofPairs base
  else
    let o := IngestOptions.ofConfig c
    .ofPairs (base ++
      [("summary", .ofPairs [("indexed", .int r.indexed.length), ("existing", .int r.existing.length),
          ("failed", .int r.failed.length)]),
       ("failed_uris", Document.strs (r.failed.map (·.uri))),
       ("failed_flags", .arr (r.failed.map fun f =>
          .ofPairs [("is_match_error", .bool f.error.isMatchError),
            ("is_lineage_error", .bool f.error.isLineageError)])),
       ("ingester", .ofPairs [
          ("options", .ofPairs ([("product", optDoc o.product .str)] ++ configFlagsDoc
            ⟨o.verifyLineage, o.withLineage, o.ignoreProductMismatch, o.dryRun⟩)),
          ("config", .ofPairs (configFlagsDoc c)), ("index", .str Index.inspectText)])])

/-- Index a batch of documents under the flags of `req`. -/
def ingestBatch (ix : Index) (req : Document) (docs : List SourceDocument) :
    Step (Document × Index) := do
  let c ← ingestionConfigArg req
  if let .error t := c.validate then return (ingestionErrorDoc (.invalidConfig t), ix)
  let o ← ingestOptionsArg req c
  let (report, ix') := indexDocuments ix docs o
  return (reportDoc report c (← boolArgOr req "detail" false), ix')

/-- One operation on the index. -/
def indexStep (ix : Index) (req : Document) : Step (Document × Index) := do
  let mtDoc := fun (d : Document) => MetadataType.ofDoc d
  match ← strArg req "op" with
  | "add_metadata_type" =>
    let mt ← catalog (mtDoc (← arg req "doc"))
    return applyOp ix (Index.addMetadataType mt) metadataTypeBrief
  | "update_metadata_type" =>
    let mt ← catalog (mtDoc (← arg req "doc"))
    return applyOp ix (Index.updateMetadataType mt (← boolArgOr req "allow_unsafe" false))
      metadataTypeBrief
  | "add_or_update_metadata_type" =>
    let mt ← catalog (mtDoc (← arg req "doc"))
    return applyOp ix (Index.addOrUpdateMetadataType mt (← boolArgOr req "allow_unsafe" false))
      metadataTypeBrief
  | "get_metadata_type" =>
    return applyOp ix (Index.getMetadataType (← strArg req "name")) metadataTypeBrief
  | "check_update_metadata_type" =>
    let mt ← catalog (mtDoc (← arg req "doc"))
    return applyOp ix (Index.checkUpdateMetadataType mt) updateReportDoc
  | "list_metadata_types" => return (Document.strs (ix.metadataTypes.map (·.name)), ix)
  | "metadata_type_from_doc" =>
    return (inline (mtDoc (← arg req "doc")) metadataTypeBrief catalogErrorDoc, ix)
  | "add_product" =>
    let doc ← arg req "doc"
    return applyOp ix (do Index.addProduct (← Index.productOfDoc doc)) productBrief
  | "update_product" =>
    let doc ← arg req "doc"
    let allow ← boolArgOr req "allow_unsafe" false
    return applyOp ix (do Index.updateProduct (← Index.productOfDoc doc) allow) productBrief
  | "add_or_update_product" =>
    let doc ← arg req "doc"
    let allow ← boolArgOr req "allow_unsafe" false
    return applyOp ix (do Index.addOrUpdateProduct (← Index.productOfDoc doc) allow) productBrief
  | "get_product" => return applyOp ix (Index.getProduct (← strArg req "name")) productBrief
  | "check_update_product" =>
    let doc ← arg req "doc"
    return applyOp ix (do Index.checkUpdateProduct (← Index.productOfDoc doc)) updateReportDoc
  | "delete_product" =>
    return applyOp ix (Index.deleteProduct (← strArg req "name")) fun _ => .bool true
  | "list_products" => return (Document.strs (ix.products.map (·.name)), ix)
  | "time_bounds" => return (optDoc (ix.timeBounds (← strArg req "name")) rangeDocOf, ix)
  | "match_document" =>
    let doc ← arg req "doc"
    let explicit ← strArg? req "explicit"
    let ignore ← boolArgOr req "ignore_mismatch" false
    return (inline (matchProduct ix.products doc explicit ignore) (fun p => .str p.name)
      catalogErrorDoc, ix)
  | "add_product_object" =>
    let ts ← (← listArg req "metadata_types").mapM fun t => catalog (MetadataType.ofDoc t)
    match Product.ofDoc (← arg req "doc") (typeNamed ts) with
    | .error e => return (catalogErrorDoc e, ix)
    | .ok p => return applyOp ix (Index.addProduct p) productBrief
  | "add_dataset" =>
    let doc ← arg req "doc"
    let uris ← match ← listArg? req "uris" with
      | some us => us.mapM str
      | none => pure []
    let withLineage ← boolArgOr req "with_lineage" true
    let product : IndexOp Product ← match arg? req "product_doc" with
      | some pd => pure (Index.productOfDoc pd)
      | none => do pure (Index.getProduct (← strArg req "product"))
    return applyOp ix (do
      let p ← product
      let d ← StateT.lift (Dataset.new p doc uris)
      Index.addDataset d withLineage) .bool
  | "get_dataset" =>
    return applyOp ix (Index.getDataset (← uuidArg req "id")) fun o => optDoc o datasetBrief
  | "has" => return (.bool (ix.has (← uuidArg req "id")), ix)
  | "bulk_has" => return (.arr ((← uuidsArg req "ids").map fun u => .bool (ix.has u)), ix)
  | "archive" =>
    let ids ← uuidsArg req "ids"
    return applyOp ix (Index.archive ids (← boolArgOr req "force" false)) fun n => .int n
  | "restore" => return applyOp ix (Index.restore (← uuidsArg req "ids")) fun n => .int n
  | "add_location" =>
    return applyOp ix (Index.addLocation (← uuidArg req "id") (← strArg req "uri")) .bool
  | "remove_location" =>
    return applyOp ix (Index.removeLocation (← uuidArg req "id") (← strArg req "uri")) .bool
  | "archive_location" =>
    return applyOp ix (Index.archiveLocation (← uuidArg req "id") (← strArg req "uri")) .bool
  | "restore_location" =>
    return applyOp ix (Index.restoreLocation (← uuidArg req "id") (← strArg req "uri")) .bool
  | "get_locations" => return (Document.strs (ix.locations (← uuidArg req "id") false), ix)
  | "get_archived_locations" => return (Document.strs (ix.locations (← uuidArg req "id") true), ix)
  | "get_derived" =>
    return applyOp ix (Index.getDerived (← uuidArg req "id")) fun ds => uuidsDoc (ds.map (·.id))
  | "search" =>
    let terms ← searchTermsOf (← arg req "terms")
    return (inline (ix.search terms) (fun ds => uuidsDoc (ds.map (·.id))) catalogErrorDoc, ix)
  | "count" =>
    let terms ← searchTermsOf (← arg req "terms")
    return (inline (ix.search terms) (fun ds => .int ds.length) catalogErrorDoc, ix)
  | "search_by_product" =>
    let terms ← searchTermsOf (← arg req "terms")
    return (inline (ix.searchByProduct terms)
      (fun gs => .arr (gs.map fun (p, ds) => .arr [.str p.name, uuidsDoc (ds.map (·.id))]))
      catalogErrorDoc, ix)
  | "search_stream" =>
    let terms ← searchTermsOf (← arg req "terms")
    return (inline (ix.plan terms) (fun plan =>
      let found := uuidsDoc ((ix.runPlan plan).map (·.id))
      .ofPairs [("products", Document.strs (plan.products.map (·.name))),
        ("first", found), ("second", found)]) catalogErrorDoc, ix)
  | "ingest" =>
    let docs ← (← listArg req "docs").mapM sourceDocumentOf
    ingestBatch ix req docs
  | "ingest_yaml" =>
    let c ← ingestionConfigArg req
    if let .error t := c.validate then return (ingestionErrorDoc (.invalidConfig t), ix)
    match SourceDocument.ofYaml (← strArg req "uri") (← strArg req "text") with
    | .error e => return (ingestionErrorDoc e, ix)
    | .ok docs => ingestBatch ix req docs
  | "ingest_one" =>
    let docs ← (← listArg req "docs").mapM sourceDocumentOf
    let c ← ingestionConfigArg req
    if let .error t := c.validate then return (ingestionErrorDoc (.invalidConfig t), ix)
    let o ← ingestOptionsArg req c
    let some src := docs.head? | throw (badInput "ingest_one needs a document")
    let (r, ix') := indexDocument ix src o
    return (inline r .bool ingestionErrorDoc, ix')
  | "init" => return (.bool true, ix)
  | "debug" => return (.str Index.inspectText, ix)
  | other => throw (badInput s!"unknown index op '{other}'")

/-- Run operations in order, each answering for itself. -/
def runIndexOps (ix : Index) : List Document → List Document
  | [] => []
  | req :: rest =>
    match indexStep ix req with
    | .ok (answer, ix') => answer :: runIndexOps ix' rest
    | .error e => e :: runIndexOps ix rest

/-- `index`: a sequence of operations against one index. -/
def indexOp (req : Document) : Step Document := do
  let ix ← match arg? req "seed" with
    | none => pure Index.empty
    | some s => do
      let r ← match s with
        | .str name =>
          if name == "landsat" then pure Fixture.landsatIndex
          else throw (badInput s!"unknown seed '{name}'")
        | _ => pure (Fixture.seededIndex (← listArg s "products"))
      match r with
      | .ok ix => pure ix
      | .error e => throw (setupErrorDoc e)
  return .arr (runIndexOps ix (← listArg req "ops"))

end Api
end Geocube
