import Geocube.Proofs.Catalog.Reachable

/-!
# References of the registry

The registry holds metadata types, products bound to a metadata type, and
dataset records naming a product. Its calls are those of the metadata-type,
product and dataset resources: adding, updating and adding-or-updating
metadata types and products, with unsafe changes allowed or not, products
given as objects or read from documents against the stored metadata types,
deleting products, and adding datasets. A metadata type read from a document
is added as the type it reads.

Every record names a stored product, whatever the calls
(`RegistryCall.Reachable.recordsResolve`): a dataset is added only under a
stored product's name, and a product is deleted only when no record names it.

Every product is bound to the stored version of its metadata type
(`RegistryCall.Reachable.productsBound`) when each product given as an object
is bound to the stored version of its type; a product read from a document
always is, and updating a metadata type binds its products to the new
version. The calls do not ask it of an object: adding a product checks only
that a type of its type's name is stored, and updating one checks nothing
about its type.
-/

namespace Geocube

/-- Where a product call takes its product from. -/
inductive ProductSource where
  | object (p : Product)
  | document (doc : Document)

namespace ProductSource

/-- The product a call works with: the object itself, or the document read
against the stored metadata types. -/
def read : ProductSource → IndexOp Product
  | object p => pure p
  | document doc => Index.productOfDoc doc

/-- The product is bound to the stored version of its metadata type. -/
def BindsStored (ix : Index) : ProductSource → Prop
  | object p => ix.metadataType? p.metadataType.name = some p.metadataType
  | document _ => True

end ProductSource

/-- A call of the registry's resources. -/
inductive RegistryCall where
  | addMetadataType (mt : MetadataType)
  | updateMetadataType (mt : MetadataType) (allowUnsafe : Bool)
  | addOrUpdateMetadataType (mt : MetadataType) (allowUnsafe : Bool)
  | addProduct (src : ProductSource)
  | updateProduct (src : ProductSource) (allowUnsafe : Bool)
  | addOrUpdateProduct (src : ProductSource) (allowUnsafe : Bool)
  | deleteProduct (name : String)
  | addDataset (d : Dataset) (withLineage : Bool)

namespace RegistryCall

/-- The index a call leaves when it succeeds. -/
def run : RegistryCall → Index → Except CatalogError Index
  | addMetadataType mt, ix => ((Index.addMetadataType mt).run ix).map Prod.snd
  | updateMetadataType mt allowUnsafe, ix =>
    ((Index.updateMetadataType mt allowUnsafe).run ix).map Prod.snd
  | addOrUpdateMetadataType mt allowUnsafe, ix =>
    ((Index.addOrUpdateMetadataType mt allowUnsafe).run ix).map Prod.snd
  | addProduct src, ix => ((do Index.addProduct (← src.read)).run ix).map Prod.snd
  | updateProduct src allowUnsafe, ix =>
    ((do Index.updateProduct (← src.read) allowUnsafe).run ix).map Prod.snd
  | addOrUpdateProduct src allowUnsafe, ix =>
    ((do Index.addOrUpdateProduct (← src.read) allowUnsafe).run ix).map Prod.snd
  | deleteProduct name, ix => ((Index.deleteProduct name).run ix).map Prod.snd
  | addDataset d withLineage, ix => ((Index.addDataset d withLineage).run ix).map Prod.snd

/-- Each product given as an object is bound to the stored version of its
metadata type. -/
def BindsStored (ix : Index) : RegistryCall → Prop
  | addProduct src | updateProduct src _ | addOrUpdateProduct src _ => src.BindsStored ix
  | _ => True

/-- The indexes built from the empty one by calls that `ok` allows. A call
that fails leaves the index as it was. -/
inductive Reachable (ok : Index → RegistryCall → Prop) : Index → Prop
  | empty : Reachable ok Index.empty
  | call {ix ix' : Index} {c : RegistryCall} :
    Reachable ok ix → ok ix c → c.run ix = .ok ix' → Reachable ok ix'

theorem Reachable.mono {ok ok' : Index → RegistryCall → Prop} (hok : ∀ ix c, ok ix c → ok' ix c)
    {ix : Index} (h : Reachable ok ix) : Reachable ok' ix := by
  induction h with
  | empty => exact .empty
  | call _ hc hrun ih => exact .call ih (hok _ _ hc) hrun

end RegistryCall

/-! ### Reading the product of a call -/

/-- A product read from a document is bound to the stored version of its
metadata type. -/
theorem Product.ofDoc_binds_stored {doc : Document} {ix : Index} {p : Product}
    (h : Product.ofDoc doc ix.metadataType? = .ok p) :
    ix.metadataType? p.metadataType.name = some p.metadataType := by
  obtain ⟨d, t, -, ht, rfl⟩ := Product.ofDoc_ok h
  show ix.metadataType? t.name = some t
  rw [Index.metadataType?_name ht, ht]

/-- A product call reads its product without changing the index, and then
runs on it. -/
theorem ProductSource.bind_run {α : Type} {src : ProductSource} {f : Product → IndexOp α}
    {ix ix' : Index} {a : α} (h : (src.read >>= f).run ix = .ok (a, ix')) :
    ∃ p, (f p).run ix = .ok (a, ix') ∧
      (src.BindsStored ix → ix.metadataType? p.metadataType.name = some p.metadataType) := by
  rw [StateT.run_bind, Except.bind_eq_ok] at h
  obtain ⟨⟨p, ix₀⟩, hread, hrun⟩ := h
  cases src with
  | object q =>
    obtain ⟨rfl, rfl⟩ := Prod.mk.inj (Except.ok.inj hread)
    exact ⟨_, hrun, id⟩
  | document doc =>
    simp only [ProductSource.read, Index.productOfDoc, StateT.run_bind, StateT.run_get,
      StateT.run_lift, Except.bind_eq_ok, Except.pure_eq_ok] at hread
    obtain ⟨_, rfl, q, hq, hpure⟩ := hread
    obtain ⟨rfl, rfl⟩ := Prod.mk.inj hpure
    exact ⟨_, hrun, fun _ => Product.ofDoc_binds_stored hq⟩

theorem Index.product?_delete (ix : Index) {name n : String} (hne : n ≠ name) :
    Index.product? { ix with products := ix.products.filter (·.name != name) } n = ix.product? n := by
  show (ix.products.filter _).find? _ = ix.products.find? _
  rw [List.find?_filter]
  congr 1
  funext q
  by_cases hq : q.name = n
  · simp [hq, hne]
  · simp [hq]

/-! ### What a call does to the index -/

namespace RegistryCall

open Index IndexOp

/-- What a call that succeeds does to the index: nothing; add a metadata type
under a new name; replace one and bind its products to it; store a product,
bound to the stored version of its type when the call's `promise` holds;
delete a product that no record names; append the record of a dataset of a
stored product; or change records only where no reference is read. -/
inductive Effect (ix : Index) (promise : Prop) : Index → Prop
  | same : Effect ix promise ix
  | addType {mt : MetadataType} : ix.metadataType? mt.name = none →
      Effect ix promise { ix with metadataTypes := insertByKey (·.name) mt ix.metadataTypes }
  | updateType (mt : MetadataType) :
      Effect ix promise { ix with
        metadataTypes := insertByKey (·.name) mt ix.metadataTypes
        products := ix.products.map (Product.retype mt) }
  | storeProduct {p : Product} :
      (promise → ix.metadataType? p.metadataType.name = some p.metadataType) →
      Effect ix promise { ix with products := insertByKey (·.name) p ix.products }
  | deleteProduct {name : String} : (∀ r ∈ ix.datasets, r.product ≠ name) →
      Effect ix promise { ix with products := ix.products.filter (·.name != name) }
  | addRecord {d : Dataset} (withLineage : Bool) : (ix.product? d.product.name).isSome →
      Effect ix promise
        { ix with datasets := ix.datasets ++ [DatasetRecord.ofDataset d withLineage] }
  | keepColumns {ix' : Index} : KeepsColumns ix ix' → Effect ix promise ix'

section Effects

variable {ix ix' : Index} {promise : Prop}

theorem Effect.of_addMetadataType {mt a : MetadataType}
    (h : (Index.addMetadataType mt).run ix = .ok (a, ix')) : Effect ix promise ix' := by
  obtain ⟨hnone, rfl⟩ := addMetadataType_run h
  exact .addType hnone

theorem Effect.of_updateMetadataType {mt a : MetadataType} {allowUnsafe : Bool}
    (h : (Index.updateMetadataType mt allowUnsafe).run ix = .ok (a, ix')) : Effect ix promise ix' := by
  rcases updateMetadataType_run_allowing h with rfl | ⟨-, -, -, rfl⟩
  · exact .same
  · exact .updateType mt

theorem Effect.of_addProduct {p a : Product}
    (hp : promise → ix.metadataType? p.metadataType.name = some p.metadataType)
    (h : (Index.addProduct p).run ix = .ok (a, ix')) : Effect ix promise ix' := by
  rw [(addProduct_run h).2]
  exact .storeProduct hp

theorem Effect.of_updateProduct {p a : Product} {allowUnsafe : Bool}
    (hp : promise → ix.metadataType? p.metadataType.name = some p.metadataType)
    (h : (Index.updateProduct p allowUnsafe).run ix = .ok (a, ix')) : Effect ix promise ix' := by
  rcases updateProduct_run_allowing h with rfl | ⟨-, -, -, rfl⟩
  · exact .same
  · exact .storeProduct hp

theorem Effect.of_addDataset {d : Dataset} {withLineage a : Bool}
    (h : (Index.addDataset d withLineage).run ix = .ok (a, ix')) : Effect ix promise ix' := by
  obtain ⟨hsome, ⟨-, rfl⟩ | hkeeps⟩ := addDataset_run h
  · exact .addRecord withLineage hsome
  · exact .keepColumns hkeeps

/-- Every call that succeeds has one of the effects, a stored product bound as
the call promises. -/
theorem run_effect {c : RegistryCall} (h : c.run ix = .ok ix') : Effect ix (c.BindsStored ix) ix' := by
  cases c <;> simp only [run, Except.map_ok_iff] at h <;> obtain ⟨⟨_, _⟩, h, rfl⟩ := h
  case addMetadataType => exact .of_addMetadataType h
  case updateMetadataType => exact .of_updateMetadataType h
  case addOrUpdateMetadataType =>
    rcases addOrUpdateMetadataType_run h with h | h
    · exact .of_updateMetadataType h
    · exact .of_addMetadataType h
  case addProduct =>
    obtain ⟨p, h, hp⟩ := ProductSource.bind_run h
    exact .of_addProduct hp h
  case updateProduct =>
    obtain ⟨p, h, hp⟩ := ProductSource.bind_run h
    exact .of_updateProduct hp h
  case addOrUpdateProduct =>
    obtain ⟨p, h, hp⟩ := ProductSource.bind_run h
    rcases addOrUpdateProduct_run h with h | h
    · exact .of_updateProduct hp h
    · exact .of_addProduct hp h
  case deleteProduct =>
    obtain ⟨hnone, rfl⟩ := deleteProduct_run h
    exact .deleteProduct hnone
  case addDataset => exact .of_addDataset h

end Effects

end RegistryCall

/-! ### The references -/

namespace Index

/-- Every record names a stored product. -/
def RecordsResolve (ix : Index) : Prop := ∀ r ∈ ix.datasets, (ix.product? r.product).isSome

/-- Every product is bound to the stored version of its metadata type. -/
def ProductsBound (ix : Index) : Prop :=
  ∀ p ∈ ix.products, ix.metadataType? p.metadataType.name = some p.metadataType

variable {ix ix' : Index} {promise : Prop}

theorem RecordsResolve.effect (h : ix.RecordsResolve) (he : RegistryCall.Effect ix promise ix') :
    ix'.RecordsResolve := by
  cases he with
  | same => exact h
  | addType _ => exact h
  | updateType mt =>
    -- binding products to the new version keeps their names
    intro r hr
    rw [product?_retype, Option.isSome_map]
    exact h r hr
  | storeProduct _ =>
    intro r hr
    rw [product?_insert rfl]
    split
    · rfl
    · exact h r hr
  | deleteProduct hnone =>
    intro r hr
    rw [product?_delete ix (hnone r hr)]
    exact h r hr
  | addRecord withLineage hsome =>
    intro r hr
    rcases List.mem_append.1 hr with hr | hr
    · exact h r hr
    · -- the new record names the product it was added with
      rw [List.mem_singleton.1 hr, (DatasetRecord.ofDataset_columns _ withLineage).product]
      exact hsome
  | keepColumns hkeeps =>
    intro r' hr'
    obtain ⟨r, hr, hsame⟩ := hkeeps.records r' hr'
    rw [product?, hkeeps.products, hsame.product]
    exact h r hr

theorem ProductsBound.effect (h : ix.ProductsBound) (he : RegistryCall.Effect ix promise ix')
    (hpromise : promise) : ix'.ProductsBound := by
  cases he with
  | same => exact h
  | addType hnone =>
    intro q hq
    rw [metadataType?_insert rfl, if_neg]
    · exact h q hq
    · -- the new name had no type, so no product is bound to one of it
      intro heq
      rw [heq, h q hq] at hnone
      cases hnone
  | updateType mt =>
    intro q' hq'
    obtain ⟨q, hq, rfl⟩ := List.mem_map.1 hq'
    by_cases hname : q.metadataType.name = mt.name
    · -- a product of the updated type is bound to the new version
      rw [Product.retype_pos hname]
      dsimp only
      rw [metadataType?_insert rfl, if_pos rfl]
    · rw [Product.retype_neg hname, metadataType?_insert rfl, if_neg (Ne.symm hname)]
      exact h q hq
  | storeProduct hp =>
    intro q hq
    rcases mem_insertByKey _ _ hq with rfl | hq
    · exact hp hpromise
    · exact h q hq
  | deleteProduct _ => exact fun q hq => h q (List.mem_of_mem_filter hq)
  | addRecord _ _ => exact h
  | keepColumns hkeeps =>
    intro q hq
    rw [metadataType?, hkeeps.metadataTypes]
    exact h q (hkeeps.products ▸ hq)

end Index

namespace RegistryCall

variable {ok : Index → RegistryCall → Prop} {ix : Index}

theorem Reachable.recordsResolve (h : Reachable ok ix) : ix.RecordsResolve := by
  induction h with
  | empty => exact fun _ h => nomatch h
  | call _ _ hrun ih => exact ih.effect (run_effect hrun)

theorem Reachable.productsBound (h : Reachable BindsStored ix) : ix.ProductsBound := by
  induction h with
  | empty => exact fun _ h => nomatch h
  | call _ hc hrun ih => exact ih.effect (run_effect hrun) hc

end RegistryCall

/-- Over every index the registry's calls build from the empty one, every
record names a stored product; and when each product given as an object is
bound to the stored version of its metadata type, every stored product is
bound to the stored version of its type. -/
theorem registry_references_resolve (ix : Index) :
    (RegistryCall.Reachable (fun _ _ => True) ix →
      ∀ r ∈ ix.datasets, (ix.product? r.product).isSome) ∧
    (RegistryCall.Reachable RegistryCall.BindsStored ix →
      ∀ p ∈ ix.products, ix.metadataType? p.metadataType.name = some p.metadataType) :=
  ⟨fun h => h.recordsResolve, fun h => h.productsBound⟩

/-- The type, its product read from its document and the scene, added from the
empty index: every reference of the result resolves. -/
theorem january_registry_resolves :
    RegistryCall.Reachable RegistryCall.BindsStored januaryIndex ∧
      (∀ r ∈ januaryIndex.datasets, (januaryIndex.product? r.product).isSome) ∧
      ∀ p ∈ januaryIndex.products,
        januaryIndex.metadataType? p.metadataType.name = some p.metadataType :=
  have htyped : RegistryCall.Reachable RegistryCall.BindsStored januaryTypeIndex :=
    .call (c := .addMetadataType (acquiredType "mt" "a0" "a1")) .empty trivial rfl
  have hproduct : RegistryCall.Reachable RegistryCall.BindsStored januaryProductIndex :=
    .call (c := .addProduct (.document (sceneProductDoc "mt"))) htyped trivial rfl
  have hreach : RegistryCall.Reachable RegistryCall.BindsStored januaryIndex :=
    .call (c := .addDataset (scene (sceneProduct "mt" "a0" "a1")) false) hproduct trivial rfl
  ⟨hreach, (registry_references_resolve januaryIndex).1 (hreach.mono fun _ _ _ => trivial),
    (registry_references_resolve januaryIndex).2 hreach⟩

/-- The product `p` as an object bound to a type named `mt` that reads the
time from `b0` and `b1`, stored beside the `mt` that reads it from `a0` and
`a1`. -/
def foreignBoundIndex : Index := { januaryTypeIndex with products := [sceneProduct "mt" "b0" "b1"] }

/-- Adding a product object checks only that a type of its type's name is
stored, so a product bound to another version of that type is stored. -/
theorem product_object_keeps_foreign_type :
    ¬ ∀ ix, RegistryCall.Reachable (fun _ _ => True) ix →
      ∀ p ∈ ix.products, ix.metadataType? p.metadataType.name = some p.metadataType := by
  intro hall
  have htyped : RegistryCall.Reachable (fun _ _ => True) januaryTypeIndex :=
    .call (c := .addMetadataType (acquiredType "mt" "a0" "a1")) .empty trivial rfl
  have hreach : RegistryCall.Reachable (fun _ _ => True) foreignBoundIndex :=
    .call (c := .addProduct (.object (sceneProduct "mt" "b0" "b1"))) htyped trivial rfl
  have hbound := hall _ hreach (sceneProduct "mt" "b0" "b1") (List.mem_singleton_self _)
  have hstored : foreignBoundIndex.metadataType? "mt" = some (acquiredType "mt" "a0" "a1") := rfl
  -- the stored `mt` reads the time from `a0`, the product's from `b0`
  have hsame := congrArg (fun t : MetadataType => t.dataset.searchFields.map (·.2.minOffset.paths))
    (Option.some.inj (hstored.symm.trans hbound))
  exact absurd hsame (by decide)

end Geocube
