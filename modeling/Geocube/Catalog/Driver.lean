import Geocube.Catalog.Index

/-!
The driver of the in-memory index: the calls the resources make on it.

Each call takes the index's lock for the whole call, so it runs alone: it reads
the index, or changes it and answers. A resource operation such as adding a
dataset is a sequence of such calls, and nothing holds the lock from one call
to the next. `DriverCall β` is a call that answers with a `β`, and
`DriverCall.exec` is what it does.

The writes check only what the store itself needs: inserting a name that is
taken, or changing what is not there, fails; removing a product does not look
at the records that name it, and inserting a dataset does not look at its
product. Those checks belong to the resources.
-/

namespace Geocube

namespace Index

/-- Store a metadata type under a name that is free. -/
def insertMetadataType (mt : MetadataType) : IndexOp Unit := do
  if ((← get).metadataType? mt.name).isSome then
    throw (.alreadyExists s!"metadata type '{mt.name}'")
  modify fun ix => { ix with metadataTypes := insertByKey (·.name) mt ix.metadataTypes }

/-- Replace a stored metadata type, and bind its products to the new version. -/
def replaceMetadataType (mt : MetadataType) : IndexOp Unit := do
  if ((← get).metadataType? mt.name).isNone then
    throw (.notFound s!"metadata type '{mt.name}'")
  modify fun ix => { ix with
    metadataTypes := insertByKey (·.name) mt ix.metadataTypes
    products := ix.products.map fun p =>
      if p.metadataType.name == mt.name then { p with metadataType := mt } else p }

/-- Store a product under a name that is free. -/
def insertProduct (p : Product) : IndexOp Unit := do
  if ((← get).product? p.name).isSome then throw (.alreadyExists s!"product '{p.name}'")
  modify fun ix => { ix with products := insertByKey (·.name) p ix.products }

/-- Replace a stored product. -/
def replaceProduct (p : Product) : IndexOp Unit := do
  if ((← get).product? p.name).isNone then throw (.notFound s!"product '{p.name}'")
  modify fun ix => { ix with products := insertByKey (·.name) p ix.products }

/-- Remove a stored product, whatever records name it. -/
def removeProduct (name : String) : IndexOp Unit := do
  if ((← get).product? name).isNone then throw (.notFound s!"product '{name}'")
  modify fun ix => { ix with products := ix.products.filter (·.name != name) }

/-- The number of records of a product, archived ones included. -/
def productRecordCount (ix : Index) (name : String) : Nat :=
  (ix.datasets.filter (·.product == name)).length

/-- Store the record of a dataset, whatever its product; a dataset already
present only gains the locations it lacked. Whether it is new. -/
def insertDataset (d : Dataset) (withLineage : Bool) : IndexOp Bool := do
  let ix ← get
  match ix.record? d.id with
  | some _ => modifyRecord d.id fun r => (r.addLocations d.uris, false)
  | none =>
    set { ix with datasets := ix.datasets ++ [DatasetRecord.ofDataset d withLineage] }
    return true

/-- Archive or restore the location of a dataset with this URI. -/
def setLocationArchived (id : Uuid) (uri : String) (archived : Bool) : IndexOp Bool :=
  modifyRecord id (·.setLocationArchived uri archived)

end Index

/-- A call of the index driver, answered with a `β`. -/
inductive DriverCall : Type → Type where
  | insertMetadataType (mt : MetadataType) : DriverCall Unit
  | updateMetadataType (mt : MetadataType) : DriverCall Unit
  | getMetadataType (name : String) : DriverCall (Option MetadataType)
  | listMetadataTypes : DriverCall (List MetadataType)
  | insertProduct (p : Product) : DriverCall Unit
  | updateProduct (p : Product) : DriverCall Unit
  | deleteProduct (name : String) : DriverCall Unit
  | getProduct (name : String) : DriverCall (Option Product)
  | listProducts : DriverCall (List Product)
  | countProductDatasets (name : String) : DriverCall Nat
  | productTimeBounds (name : String) : DriverCall (Option TimeRange)
  | insertDataset (d : Dataset) (withLineage : Bool) : DriverCall Bool
  | getDataset (id : Uuid) : DriverCall (Option DatasetRecord)
  | datasetsExist (ids : List Uuid) : DriverCall (List Bool)
  | setArchived (ids : List Uuid) (archived : Bool) : DriverCall Nat
  | derivedIds (id : Uuid) : DriverCall (List Uuid)
  | candidates (f : CandidateFilter) (offset : Nat) (limit : Option Nat) :
      DriverCall (List DatasetRecord)
  | insertLocation (id : Uuid) (uri : String) : DriverCall Bool
  | deleteLocation (id : Uuid) (uri : String) : DriverCall Bool
  | setLocationArchived (id : Uuid) (uri : String) (archived : Bool) : DriverCall Bool
  | locations (id : Uuid) (archived : Bool) : DriverCall (List String)

namespace DriverCall

/-- What a call does to the index, and its answer. -/
def exec : {β : Type} → DriverCall β → IndexOp β
  | _, insertMetadataType mt => Index.insertMetadataType mt
  | _, updateMetadataType mt => Index.replaceMetadataType mt
  | _, getMetadataType name => return (← get).metadataType? name
  | _, listMetadataTypes => return (← get).metadataTypes
  | _, insertProduct p => Index.insertProduct p
  | _, updateProduct p => Index.replaceProduct p
  | _, deleteProduct name => Index.removeProduct name
  | _, getProduct name => return (← get).product? name
  | _, listProducts => return (← get).products
  | _, countProductDatasets name => return (← get).productRecordCount name
  | _, productTimeBounds name => return (← get).timeBounds name
  | _, insertDataset d withLineage => Index.insertDataset d withLineage
  | _, getDataset id => return (← get).record? id
  | _, datasetsExist ids => return ids.map (← get).has
  | _, setArchived ids archived => Index.setArchived ids archived
  | _, derivedIds id => return (← get).derivedIds id
  | _, candidates f offset limit => return (← get).candidates f offset limit
  | _, insertLocation id uri => Index.addLocation id uri
  | _, deleteLocation id uri => Index.removeLocation id uri
  | _, setLocationArchived id uri archived => Index.setLocationArchived id uri archived
  | _, locations id archived => return (← get).locations id archived

end DriverCall

/-- The indexes a sequence of driver calls passes through from the empty one,
newest first. A call that fails leaves the index as it was, so only the calls
that succeed are steps. -/
inductive DriverTrace : List Index → Prop
  | empty : DriverTrace [Index.empty]
  | call {β : Type} {ix ix' : Index} {older : List Index} {c : DriverCall β} {b : β} :
    DriverTrace (ix :: older) → c.exec.run ix = .ok (b, ix') → DriverTrace (ix' :: ix :: older)

end Geocube
