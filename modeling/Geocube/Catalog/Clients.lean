import Geocube.Catalog.Driver

/-!
Clients of the index and their interleaving.

A client is what one call of a resource does to the index: a program that
makes one driver call at a time and goes on with its answer, or a search that
reads its candidates page after page. Several clients share one index, and a
schedule says which of them makes the next call; every call runs alone, and
between two calls of one client any other client may make its own.

`Client.runAlone` runs a client with no other in between. `System.run` runs
clients after a schedule.
-/

namespace Geocube

/-- What a resource call gives back. -/
inductive Answer where
  | flag (b : Bool)
  | count (n : Nat)
  | done
  | datasets (ds : List Dataset)

/-- A client of the index: it has finished, it makes a driver call and goes on
with the answer, or it is a search about to read the page at `offset`, having
found `found` on the pages before. -/
inductive Client : Type 1 where
  | finish (outcome : Except CatalogError Answer)
  | call {β : Type} (c : DriverCall β) (k : β → Client)
  | pages (p : SearchPlan) (offset : Nat) (found : List Dataset)

namespace SearchPlan

/-- The datasets of a page of records that the plan binds and accepts. -/
def pageMatches (p : SearchPlan) (page : List DatasetRecord) : List Dataset :=
  (page.filterMap fun r => (p.product? r.product).map r.bind).filter p.accepts

/-- Whether a search reads the page after one that was full: always when the
results are ordered, and otherwise until the limit is reached. -/
def wantsMore (p : SearchPlan) (found : List Dataset) : Bool :=
  p.orderBy.isSome || p.limit.all (found.length < ·)

end SearchPlan

namespace Client

/-- A search after reading the page at `offset`: a full page is followed by
the next one while the search wants more, and otherwise the search finishes. -/
def afterPage (p : SearchPlan) (offset : Nat) (found : List Dataset)
    (page : List DatasetRecord) : Client :=
  let found' := found ++ p.pageMatches page
  if page.length = Index.pageSize ∧ p.wantsMore found' = true then
    pages p (offset + Index.pageSize) found'
  else finish (.ok (.datasets (p.finish found')))

/-- The next driver call of a client on `ix`: the index after it and what the
client does next. A finished client makes none; a call that fails finishes
its client with the failure. -/
def advance : Client → Index → Option (Index × Client)
  | finish _, _ => none
  | call c k, ix =>
    some (match c.exec.run ix with
      | .ok (b, ix') => (ix', k b)
      | .error e => (ix, finish (.error e)))
  | pages p offset found, ix =>
    some (ix, afterPage p offset found (ix.candidates p.prefilter offset (some Index.pageSize)))

/-- Run a client with no other in between. A search alone reads one index, so
its pages are those `Index.pagesFrom` reads. -/
def runAlone : Client → Index → Except CatalogError (Answer × Index)
  | finish (.ok a), ix => .ok (a, ix)
  | finish (.error e), _ => .error e
  | call c k, ix =>
    match c.exec.run ix with
    | .ok (b, ix') => runAlone (k b) ix'
    | .error e => .error e
  | pages p offset found, ix => .ok (.datasets (p.finish (found ++ ix.pagesFrom p offset)), ix)

/-! ### The resources' calls -/

/-- Inserting a dataset whose product was found. -/
def insertChecked (d : Dataset) (withLineage : Bool) : Client :=
  call (.insertDataset d withLineage) fun b => finish (.ok (.flag b))

/-- Adding a dataset: the product of its name is looked up, then the dataset
is inserted. -/
def addDataset (d : Dataset) (withLineage : Bool) : Client :=
  call (.getProduct d.product.name) fun
    | some _ => insertChecked d withLineage
    | none => finish (.error (.notFound s!"product '{d.product.name}'"))

/-- Removing a product whose records were counted and found to be none. -/
def removeChecked (name : String) : Client :=
  call (.deleteProduct name) fun _ => finish (.ok .done)

/-- Counting the records of a stored product, and removing it when there are none. -/
def countThenRemove (name : String) : Client :=
  call (.countProductDatasets name) fun n =>
    if n > 0 then finish (.error (.conflict s!"product '{name}' still has {n} datasets"))
    else removeChecked name

/-- Deleting a product: it is looked up, its records are counted, and it is
removed when there are none. -/
def deleteProduct (name : String) : Client :=
  call (.getProduct name) fun
    | none => finish (.error (.notFound s!"product '{name}'"))
    | some _ => countThenRemove name

/-- Archive or restore datasets in one call; how many changed. -/
def flagAll (ids : List Uuid) (archived : Bool) : Client :=
  call (.setArchived ids archived) fun n => finish (.ok (.count n))

/-- The check of an archive for one id of the batch `ids`: each dataset
derived from it outside the batch is read, the first active one refuses the
archive, and `next` follows when none is. -/
def archiveInspect (ids : List Uuid) (id : Uuid) (next : Client) : List Uuid → Client
  | [] => next
  | derived :: more =>
    if ids.contains derived then archiveInspect ids id next more
    else call (.getDataset derived) fun r =>
      if (r.map (!·.archived)).getD false then
        finish (.error (.conflict s!"dataset {id.text} is a source of active dataset {derived.text}"))
      else archiveInspect ids id next more

/-- The check of an archive for the ids of the batch `ids` still to look at,
then the archiving itself. -/
def archiveScan (ids : List Uuid) : List Uuid → Client
  | [] => flagAll ids true
  | id :: rest => call (.derivedIds id) (archiveInspect ids id (archiveScan ids rest))

/-- Archiving datasets: without `force`, checked first. -/
def archive (ids : List Uuid) (force : Bool) : Client :=
  if force then flagAll ids true else archiveScan ids ids

def restore (ids : List Uuid) : Client := flagAll ids false

/-- Collecting a planned search; one without products reads nothing. -/
def search (p : SearchPlan) : Client :=
  if p.isEmpty then finish (.ok (.datasets [])) else pages p 0 []

end Client

/-- Clients sharing one index. -/
structure System where
  index : Index
  clients : List Client

namespace System

/-- Client `i` makes its next call; nothing happens when it has finished or
there is no client `i`. -/
def step (s : System) (i : Nat) : System :=
  match s.clients[i]? with
  | some c =>
    match c.advance s.index with
    | some (ix', c') => ⟨ix', s.clients.set i c'⟩
    | none => s
  | none => s

/-- The clients make their calls in the order a schedule gives. -/
def run (s : System) : List Nat → System
  | [] => s
  | i :: sched => (s.step i).run sched

end System

end Geocube
