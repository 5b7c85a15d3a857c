import Geocube.Catalog.Index
import Geocube.Catalog.Config
import Geocube.Yaml.Value

/-!
Indexing batches of dataset documents.

Each document of a batch, with the location it was read from, is bound to a
product (the named one, or the only product whose template it contains),
checked, and added with its location. A document that fails is recorded in the
report and the rest of the batch carries on.

Datasets are written after the sources they find in the same batch: the batch
is taken in rounds, each round writing, in batch order, the documents whose
in-batch sources were placed in earlier rounds. What is left when a round
places nothing is part of, or derived from, a lineage cycle.

When lineage is verified, every source of a dataset must be indexed already
or accepted earlier in the batch, and a dataset whose source failed in the
batch fails too. A dry run checks everything and writes nothing: a dataset
counts as indexed when the index does not hold it yet.

A YAML stream gives one source document for each non-empty document in it. The
first is located at the stream's URI, and the one at position `i` after it at
`uri#part=i`, counting empty documents, so a document keeps its location when
others around it are emptied.
-/

namespace Geocube

/-- Why a document was not indexed. -/
inductive IngestionError where
  | catalog (e : CatalogError)
  | parse (uri reason : String)
  | missingSources (id : Uuid) (missing : List Uuid)
  | sourceFailed (id sourceId : Uuid)
  | lineageCycle (id : Uuid)
  | invalidConfig (text : String)
  | other (text : String)
  deriving Inhabited

namespace IngestionError

def message : IngestionError → String
  | .catalog e => e.message
  | .parse uri reason => "failed to parse document at " ++ uri ++ ": " ++ reason
  | .missingSources id missing =>
    "dataset " ++ id.text ++ " references sources that are not indexed: " ++
      ", ".intercalate (missing.map Uuid.text)
  | .sourceFailed id src =>
    "dataset " ++ id.text ++ " depends on " ++ src.text ++ ", which failed to index"
  | .lineageCycle id =>
    "dataset " ++ id.text ++ " is part of, or derived from, a lineage cycle within the batch"
  | .invalidConfig t => "Invalid configuration: " ++ t
  | .other t => t

def kind : IngestionError → String
  | .catalog e => "Catalog::" ++ e.kind
  | .parse .. => "Parse"
  | .missingSources .. => "MissingSources"
  | .sourceFailed .. => "SourceFailed"
  | .lineageCycle _ => "LineageCycle"
  | .invalidConfig _ => "InvalidConfig"
  | .other _ => "Other"

/-- The document matched no product, or several. -/
def isMatchError : IngestionError → Bool
  | .catalog e => e.isMatchError
  | _ => false

/-- The failure comes from the document's lineage. -/
def isLineageError : IngestionError → Bool
  | .missingSources .. | .sourceFailed .. | .lineageCycle _ => true
  | _ => false

end IngestionError

/-- Defaults for every batch. -/
structure IngestionConfig where
  /-- Every source must be indexed or in the batch. -/
  verifyLineage : Bool := true
  /-- Store lineage links with each dataset. -/
  withLineage : Bool := true
  /-- Accept a named product whose template the document does not contain. -/
  ignoreProductMismatch : Bool := false
  /-- Check without writing. -/
  dryRun : Bool := false
  deriving Inhabited

/-- Verifying lineage needs the lineage stored. -/
def IngestionConfig.validate (c : IngestionConfig) : Except String Unit :=
  if c.verifyLineage && !c.withLineage then .error "verify_lineage requires with_lineage"
  else .ok ()

/-- The settings from the yes/no variables `DATACUBE_INGEST_VERIFY_LINEAGE`,
`DATACUBE_INGEST_WITH_LINEAGE`, `DATACUBE_INGEST_IGNORE_MISMATCH` and
`DATACUBE_INGEST_DRY_RUN`. -/
def IngestionConfig.fromEnv (e : Environment) : IngestionConfig :=
  let d : IngestionConfig := {}
  ⟨(e.flag? "DATACUBE_INGEST_VERIFY_LINEAGE").getD d.verifyLineage,
   (e.flag? "DATACUBE_INGEST_WITH_LINEAGE").getD d.withLineage,
   (e.flag? "DATACUBE_INGEST_IGNORE_MISMATCH").getD d.ignoreProductMismatch,
   (e.flag? "DATACUBE_INGEST_DRY_RUN").getD d.dryRun⟩

/-- Options of one batch. -/
structure IngestOptions where
  /-- Bind every document to this product instead of matching. -/
  product : Option String := none
  verifyLineage : Bool := true
  withLineage : Bool := true
  ignoreProductMismatch : Bool := false
  dryRun : Bool := false
  deriving Inhabited

/-- The options a configuration gives, with no product named. -/
def IngestOptions.ofConfig (c : IngestionConfig) : IngestOptions :=
  ⟨none, c.verifyLineage, c.withLineage, c.ignoreProductMismatch, c.dryRun⟩

/-- A raw document and the location it was read from. -/
structure SourceDocument where
  uri : String
  doc : Document
  deriving Inhabited

/-- A document that was not indexed. -/
structure FailedDocument where
  uri : String
  /-- Known once the document was bound to a product. -/
  datasetId : Option Uuid
  error : IngestionError
  deriving Inhabited

/-- What a batch reports about one document. -/
inductive Outcome where
  | indexed (id : Uuid)
  | existing (id : Uuid)
  | failed (f : FailedDocument)
  deriving Inhabited

/-- What became of a batch. -/
structure IngestionReport where
  indexed : List Uuid := []
  /-- Already indexed; their new locations were merged. -/
  existing : List Uuid := []
  failed : List FailedDocument := []
  deriving Inhabited

namespace IngestionReport

def total (r : IngestionReport) : Nat := r.indexed.length + r.existing.length + r.failed.length

def isSuccess (r : IngestionReport) : Bool := r.failed.isEmpty

/-- The report with one more outcome, at the end of its list. -/
def add (r : IngestionReport) : Outcome → IngestionReport
  | .indexed id => { r with indexed := r.indexed ++ [id] }
  | .existing id => { r with existing := r.existing ++ [id] }
  | .failed f => { r with failed := r.failed ++ [f] }

def fail (r : IngestionReport) (uri : String) (id : Option Uuid) (e : IngestionError) :
    IngestionReport :=
  r.add (.failed ⟨uri, id, e⟩)

end IngestionReport

/-- A document bound to its product, waiting to be written. -/
structure Prepared where
  uri : String
  dataset : Dataset
  deriving Inhabited

/-- Bind a document to its product and check it. -/
def prepare (products : List Product) (src : SourceDocument) (o : IngestOptions) :
    Except IngestionError Dataset := do
  let .obj _ := src.doc | throw (.parse src.uri "document is not a mapping")
  let p ← (matchProduct products src.doc o.product o.ignoreProductMismatch).mapError .catalog
  (Dataset.new p src.doc [src.uri]).mapError .catalog

/-- Split entries into those whose in-batch sources come first, in write
order, and those in or below a lineage cycle, in batch order. -/
def lineageOrder (entries : List Prepared) : List Prepared × List Prepared :=
  let inBatch := entries.map (·.dataset.id)
  let rec rounds (fuel : Nat) (placed : List Uuid) (ordered remaining : List Prepared) :
      List Prepared × List Prepared :=
    match fuel with
    | 0 => (ordered, remaining)
    | fuel + 1 =>
      let isReady := fun (e : Prepared) => e.dataset.sources.all fun s =>
        !inBatch.contains s.sourceId || placed.contains s.sourceId
      let ready := remaining.filter isReady
      let rest := remaining.filter (!isReady ·)
      if ready.isEmpty then (ordered, rest)
      else rounds fuel (placed ++ ready.map (·.dataset.id)) (ordered ++ ready) rest
  rounds (entries.length + 1) [] [] entries

/-- The sources of a dataset left to look up in the index, each once and in
order: those not accepted earlier in the batch. A source that failed in the
batch fails the dataset. -/
def unresolvedSources (d : Dataset) (accepted failed : List Uuid) :
    Except IngestionError (List Uuid) :=
  d.sources.foldlM (fun unresolved s =>
    if failed.contains s.sourceId then throw (.sourceFailed d.id s.sourceId)
    else if !accepted.contains s.sourceId && !unresolved.contains s.sourceId then
      pure (unresolved ++ [s.sourceId])
    else pure unresolved) []

/-- Check that every source of a dataset is accepted in the batch or indexed,
and that none failed in the batch. -/
def verifySources (ix : Index) (d : Dataset) (accepted failed : List Uuid) :
    Except IngestionError Unit := do
  let unresolved ← unresolvedSources d accepted failed
  let missing := unresolved.filter (!ix.has ·)
  if !missing.isEmpty then throw (.missingSources d.id missing)

/-- The state of a batch being written. -/
structure BatchState where
  index : Index
  report : IngestionReport
  accepted : List Uuid := []
  failed : List Uuid := []
  deriving Inhabited

/-- What writing a dataset into the index gives: whether it is new, and the
index after. A dry run only looks its id up. -/
def writeOutcome (o : IngestOptions) (ix : Index) (d : Dataset) : Except CatalogError (Bool × Index) :=
  if o.dryRun then .ok (!ix.has d.id, ix) else (Index.addDataset d o.withLineage).run ix

/-- Write one dataset, recording the outcome; whether it succeeded. -/
def writeEntry (o : IngestOptions) (st : BatchState) (e : Prepared) : BatchState × Bool :=
  let id := e.dataset.id
  match writeOutcome o st.index e.dataset with
  | .ok (true, ix) => ({ st with index := ix, report := st.report.add (.indexed id) }, true)
  | .ok (false, ix) => ({ st with index := ix, report := st.report.add (.existing id) }, true)
  | .error err => ({ st with report := st.report.fail e.uri (some id) (.catalog err) }, false)

/-- Bind one document to its product, or record why it cannot be. -/
def prepareStep (products : List Product) (o : IngestOptions)
    (acc : IngestionReport × List Prepared) (src : SourceDocument) : IngestionReport × List Prepared :=
  match prepare products src o with
  | .ok d => (acc.1, acc.2 ++ [⟨src.uri, d⟩])
  | .error e => (acc.1.fail src.uri none e, acc.2)

/-- Bind every document of a batch in order: the report of those that cannot
be bound, and the entries to write. -/
def prepareAll (products : List Product) (docs : List SourceDocument) (o : IngestOptions) :
    IngestionReport × List Prepared :=
  docs.foldl (prepareStep products o) ({}, [])

namespace BatchState

/-- Write an entry; its id joins the accepted ones, or the failed ones. -/
def write (o : IngestOptions) (st : BatchState) (e : Prepared) : BatchState :=
  let (st', ok) := writeEntry o st e
  if ok then { st' with accepted := st'.accepted ++ [e.dataset.id] }
  else { st' with failed := st'.failed ++ [e.dataset.id] }

/-- An entry in or below a lineage cycle fails when lineage is verified, and
is otherwise written as it stands. -/
def writeCyclic (o : IngestOptions) (st : BatchState) (e : Prepared) : BatchState :=
  if o.verifyLineage then
    { st with report := st.report.fail e.uri (some e.dataset.id) (.lineageCycle e.dataset.id) }
  else (writeEntry o st e).1

/-- An entry whose in-batch sources were taken first: its sources are checked
when lineage is verified, and a failed check makes its id a failed one. -/
def writeOrdered (o : IngestOptions) (st : BatchState) (e : Prepared) : BatchState :=
  if o.verifyLineage then
    match verifySources st.index e.dataset st.accepted st.failed with
    | .error err =>
      { st with failed := st.failed ++ [e.dataset.id],
                report := st.report.fail e.uri (some e.dataset.id) err }
    | .ok () => st.write o e
  else st.write o e

end BatchState

/-- A batch ready for its ordered entries: the documents bound, the entries in
or below a lineage cycle settled, and the ids that failed so far collected;
with the entries to write, sources first. -/
def startBatch (ix : Index) (docs : List SourceDocument) (o : IngestOptions) :
    BatchState × List Prepared :=
  let (report, prepared) := prepareAll ix.products docs o
  let (ordered, cyclic) := lineageOrder prepared
  let st := cyclic.foldl (BatchState.writeCyclic o) ⟨ix, report, [], []⟩
  ({ st with failed := st.report.failed.filterMap (·.datasetId) }, ordered)

/-- Index every document of a batch. -/
def indexDocuments (ix : Index) (docs : List SourceDocument) (o : IngestOptions) :
    IngestionReport × Index :=
  let (st, ordered) := startBatch ix docs o
  let st := ordered.foldl (BatchState.writeOrdered o) st
  (st.report, st.index)

/-- Index one document: whether it was newly added, or its failure. -/
def indexDocument (ix : Index) (src : SourceDocument) (o : IngestOptions) :
    Except IngestionError Bool × Index :=
  let (report, ix') := indexDocuments ix [src] o
  match report.failed.getLast? with
  | some f => (.error f.error, ix')
  | none => (.ok !report.indexed.isEmpty, ix')

/-- The documents of a YAML stream with their locations; a stream that does
not read is a parse failure of the whole URI. -/
def SourceDocument.ofYaml (uri text : String) : Except IngestionError (List SourceDocument) :=
  match Yaml.documents text with
  | .error m => .error (.parse uri m)
  | .ok docs => .ok (docs.map fun (i, d) =>
      ⟨if i == 0 then uri else uri ++ "#part=" ++ toString i, d⟩)

end Geocube
