import Geocube.Proofs.Catalog.IndexOps

/-
Searches over every index the catalog's calls build.

An index is built from the empty one by calls: adding and updating metadata
types and products (updates refuse unsafe changes), adding datasets, archiving
and restoring them, and changing their locations. The program reads each
definition from its document, a product against the stored metadata types
(`CatalogCall.Decoded`).

A search answers with `finish` of the one-pass answer once product names are
distinct and every record is fresh for the stored product of its name
(`Index.search_eq_matching`). The invariant `Index.Consistent` says this and
what it takes to keep it, and every call keeps it that also keeps the
recorded columns fresh (`CatalogCall.KeepsFresh`): a dataset is added with a
product of the stored product's metadata type, an update of a metadata type
adds no spatial search field, and products are written as mappings.

Each of these is needed. A scene added with another product of its name keeps
the time that product reads (`foreign_product_hides_scene`); an update classed
as safe that adds a spatial field ahead of the old one, or that changes the
metadata type of a product written as a list, leaves the recorded columns of
the type before it (`safe_updates_hide_scene`). A search then misses the scene.
-/

namespace Geocube

namespace Product

/-- A product read against one set of metadata types is read against another
as the same product, bound to what the other finds under its type's name. -/
theorem ofDoc_retype {doc : Document} {resolve resolve' : String → Option MetadataType}
    {p : Product} {mt : MetadataType} (h : ofDoc doc resolve = .ok p)
    (hname : ∀ n t, resolve n = some t → t.name = n)
    (h' : resolve' p.metadataType.name = some mt) :
    ofDoc doc resolve' = .ok { p with metadataType := mt } := by
  obtain ⟨d, t, hd, ht, rfl⟩ := ofDoc_ok h
  have hn : t.name = d.metadataType := hname _ _ ht
  rw [hn] at h'
  unfold ofDoc at h ⊢
  simp only [hd, Except.bind_eq_ok, Except.pure_eq_ok, exists_eq_left', ht, h'] at h ⊢
  -- the check reads no metadata type, so it passes again
  obtain ⟨u, hval, -⟩ := h
  exact ⟨u, hval, trivial⟩

end Product

/-- A metadata type as reading its own definition gives it. -/
def MetadataType.FromDoc (mt : MetadataType) : Prop :=
  MetadataType.ofDoc mt.definition = .ok mt ∧ mt.definition.isNormal = true

/-- A product as reading its own definition against `resolve` gives it. -/
def Product.FromDoc (p : Product) (resolve : String → Option MetadataType) : Prop :=
  Product.ofDoc p.definition resolve = .ok p ∧ p.definition.isNormal = true

theorem Product.FromDoc.retype {p : Product} {resolve resolve' : String → Option MetadataType}
    {mt : MetadataType} (h : p.FromDoc resolve) (hname : ∀ n t, resolve n = some t → t.name = n)
    (h' : resolve' p.metadataType.name = some mt) :
    Product.FromDoc { p with metadataType := mt } resolve' :=
  ⟨ofDoc_retype h.1 hname h', h.2⟩

inductive CatalogCall where
  | addMetadataType (mt : MetadataType)
  | updateMetadataType (mt : MetadataType)
  | addOrUpdateMetadataType (mt : MetadataType)
  | addProduct (p : Product)
  | updateProduct (p : Product)
  | addOrUpdateProduct (p : Product)
  | addDataset (d : Dataset) (withLineage : Bool)
  | archive (ids : List Uuid) (force : Bool)
  | restore (ids : List Uuid)
  | addLocation (id : Uuid) (uri : String)
  | removeLocation (id : Uuid) (uri : String)
  | archiveLocation (id : Uuid) (uri : String)
  | restoreLocation (id : Uuid) (uri : String)

namespace CatalogCall

/-- The index a call leaves when it succeeds; updates refuse unsafe changes. -/
def run : CatalogCall → Index → Except CatalogError Index
  | addMetadataType mt, ix => ((Index.addMetadataType mt).run ix).map Prod.snd
  | updateMetadataType mt, ix => ((Index.updateMetadataType mt false).run ix).map Prod.snd
  | addOrUpdateMetadataType mt, ix =>
    ((Index.addOrUpdateMetadataType mt false).run ix).map Prod.snd
  | addProduct p, ix => ((Index.addProduct p).run ix).map Prod.snd
  | updateProduct p, ix => ((Index.updateProduct p false).run ix).map Prod.snd
  | addOrUpdateProduct p, ix => ((Index.addOrUpdateProduct p false).run ix).map Prod.snd
  | addDataset d withLineage, ix => ((Index.addDataset d withLineage).run ix).map Prod.snd
  | archive ids force, ix => ((Index.archive ids force).run ix).map Prod.snd
  | restore ids, ix => ((Index.restore ids).run ix).map Prod.snd
  | addLocation id uri, ix => ((Index.addLocation id uri).run ix).map Prod.snd
  | removeLocation id uri, ix => ((Index.removeLocation id uri).run ix).map Prod.snd
  | archiveLocation id uri, ix => ((Index.archiveLocation id uri).run ix).map Prod.snd
  | restoreLocation id uri, ix => ((Index.restoreLocation id uri).run ix).map Prod.snd

/-- Definitions are read from their documents, a product against the stored
metadata types. -/
def Decoded (ix : Index) : CatalogCall → Prop
  | addMetadataType mt | updateMetadataType mt | addOrUpdateMetadataType mt => mt.FromDoc
  | addProduct p | updateProduct p | addOrUpdateProduct p => p.FromDoc ix.metadataType?
  | _ => True

/-- What keeps the recorded time and bounds of every record fresh: an update
of a metadata type adds no spatial field, a product is written as a mapping,
and a dataset comes with a product of the stored product's metadata type. -/
def KeepsFresh (ix : Index) : CatalogCall → Prop
  | updateMetadataType mt | addOrUpdateMetadataType mt =>
    ∀ old, ix.metadataType? mt.name = some old → old.AddsNoSpatialField mt
  | addProduct p | updateProduct p | addOrUpdateProduct p => p.definition.isObj = true
  | addDataset d _ =>
    ∀ q, ix.product? d.product.name = some q → q.metadataType = d.product.metadataType
  | _ => True

end CatalogCall

/-- The indexes built from the empty one by calls that `ok` allows. -/
inductive Reachable (ok : Index → CatalogCall → Prop) : Index → Prop
  | empty : Reachable ok Index.empty
  | call {ix ix' : Index} {c : CatalogCall} :
    Reachable ok ix → ok ix c → c.run ix = .ok ix' → Reachable ok ix'

/-! ### The invariant -/

namespace DatasetRecord

theorem ofDataset_columns (d : Dataset) (withLineage : Bool) :
    (ofDataset d withLineage).SameColumns
      ⟨d.id, d.product.name, d.metadata, false, if withLineage then d.sources else [], d.timeRange,
        d.boundsLonLat, []⟩ :=
  Index.addLocations_columns d.uris _

/-- A dataset's record is fresh for every product of its metadata type. -/
theorem ofDataset_fresh {d : Dataset} {q : Product} (withLineage : Bool)
    (hmt : q.metadataType = d.product.metadataType) : (ofDataset d withLineage).Fresh q := by
  have hcols := ofDataset_columns d withLineage
  have htime : (ofDataset d withLineage).time = d.timeRange := hcols.time
  have hbounds : (ofDataset d withLineage).bounds = d.boundsLonLat := hcols.bounds
  have hbind : ((ofDataset d withLineage).bind q).metadataType = d.metadataType := hmt
  refine ⟨fun t ht => ?_, fun b hb => ?_⟩
  · rw [Dataset.timeRange_congr hbind hcols.metadata, ← htime]
    exact ht
  · rw [Dataset.boundsLonLat_congr hbind hcols.metadata, ← hbounds]
    exact hb

end DatasetRecord

namespace Index

/-- What every index built by faithful calls satisfies: its definitions are
read from their documents, products against the stored metadata types and
written as mappings, product names ascend, and every record is fresh for the
stored product of its name. -/
structure Consistent (ix : Index) : Prop where
  types : ∀ mt ∈ ix.metadataTypes, mt.FromDoc
  products : ∀ p ∈ ix.products, p.FromDoc ix.metadataType? ∧ p.definition.isObj = true
  sorted : ix.products.Pairwise fun p p' => p.name < p'.name
  fresh : ∀ r ∈ ix.datasets, ∃ q, ix.product? r.product = some q ∧ r.Fresh q

theorem Consistent.empty : Index.empty.Consistent :=
  ⟨(fun _ h => nomatch h), (fun _ h => nomatch h), .nil, (fun _ h => nomatch h)⟩

variable {ix ix' : Index}

theorem metadataType?_names (ix : Index) : ∀ n t, ix.metadataType? n = some t → t.name = n :=
  fun _ _ h => metadataType?_name h

theorem Consistent.product_type (h : ix.Consistent) {q : Product} (hq : q ∈ ix.products) :
    ix.metadataType? q.metadataType.name = some q.metadataType := by
  obtain ⟨d, t, -, ht, hqd⟩ := Product.ofDoc_ok (h.products q hq).1.1
  have hmt : q.metadataType = t := congrArg Product.metadataType hqd
  rw [hmt, metadataType?_name ht, ht]

theorem Consistent.names_nodup (h : ix.Consistent) : (ix.products.map (·.name)).Nodup := by
  rw [List.Nodup, List.pairwise_map]
  exact h.sorted.imp ne_of_lt

/-- Products stay read when the metadata types change in a way that keeps the
type of every stored product. -/
theorem Consistent.products_of_types (h : ix.Consistent) {resolve : String → Option MetadataType}
    (hkeep : ∀ q ∈ ix.products, resolve q.metadataType.name = some q.metadataType) :
    ∀ q ∈ ix.products, q.FromDoc resolve ∧ q.definition.isObj = true := fun q hq =>
  ⟨(h.products q hq).1.retype ix.metadataType?_names (hkeep q hq), (h.products q hq).2⟩

theorem Consistent.types_insert (h : ix.Consistent) {mt : MetadataType} (hmt : mt.FromDoc) :
    ∀ t ∈ insertByKey (·.name) mt ix.metadataTypes, t.FromDoc := by
  intro t ht
  rcases mem_insertByKey _ _ ht with rfl | ht
  · exact hmt
  · exact h.types t ht

theorem Consistent.products_insert (h : ix.Consistent) {p : Product}
    (hp : p.FromDoc ix.metadataType?) (hobj : p.definition.isObj = true) :
    ∀ q ∈ insertByKey (·.name) p ix.products,
      q.FromDoc ix.metadataType? ∧ q.definition.isObj = true := by
  intro q hq
  rcases mem_insertByKey _ _ hq with rfl | hq
  · exact ⟨hp, hobj⟩
  · exact h.products q hq

open IndexOp

/-! Each call keeps the invariant. -/

theorem Consistent.of_keepsColumns (h : ix.Consistent) (hk : KeepsColumns ix ix') :
    ix'.Consistent := by
  have htypes : ix'.metadataType? = ix.metadataType? := by
    funext n
    simp only [metadataType?, hk.metadataTypes]
  have hprods : ix'.product? = ix.product? := by
    funext n
    simp only [product?, hk.products]
  refine ⟨by rw [hk.metadataTypes]; exact h.types, by rw [hk.products, htypes]; exact h.products,
    by rw [hk.products]; exact h.sorted, fun r' hr' => ?_⟩
  obtain ⟨r, hr, hsame⟩ := hk.records r' hr'
  obtain ⟨q, hq, hfr⟩ := h.fresh r hr
  exact ⟨q, by rw [hprods, hsame.product, hq], hfr.of_same hsame rfl⟩

theorem Consistent.of_addMetadataType (h : ix.Consistent) {mt a : MetadataType} (hmt : mt.FromDoc)
    (hrun : (addMetadataType mt).run ix = .ok (a, ix')) : ix'.Consistent := by
  obtain ⟨hnone, rfl⟩ := addMetadataType_run hrun
  -- a product's metadata type is stored under its name, which is not the new one
  have hkeep : ∀ q ∈ ix.products,
      Index.metadataType? { ix with metadataTypes := insertByKey (·.name) mt ix.metadataTypes }
        q.metadataType.name = some q.metadataType := by
    intro q hq
    have hstored := h.product_type hq
    rw [metadataType?_insert rfl, if_neg]
    · exact hstored
    · intro heq
      rw [heq, hstored] at hnone
      cases hnone
  exact ⟨h.types_insert hmt, h.products_of_types hkeep, h.sorted, h.fresh⟩

theorem product?_retype (ix : Index) (mt : MetadataType) (n : String) :
    Index.product? { ix with
      metadataTypes := insertByKey (·.name) mt ix.metadataTypes
      products := ix.products.map (Product.retype mt) } n =
      (ix.product? n).map (Product.retype mt) := by
  show (ix.products.map (Product.retype mt)).find? (·.name == n) = _
  rw [List.find?_map]
  -- retyping keeps names, so the search by name is the same
  congr 2
  funext q
  rw [Function.comp_apply, Product.retype_name]

theorem Consistent.of_updateMetadataType (h : ix.Consistent) {mt a : MetadataType}
    (hmt : mt.FromDoc) (hadds : ∀ old, ix.metadataType? mt.name = some old → old.AddsNoSpatialField mt)
    (hrun : (updateMetadataType mt false).run ix = .ok (a, ix')) : ix'.Consistent := by
  rcases updateMetadataType_run hrun with rfl | ⟨old, hold, hsafe, rfl⟩
  · exact h
  have hfrom := h.types old (List.mem_of_find?_eq_some hold)
  have hgrows : old.dataset.Grows mt.dataset :=
    MetadataType.checkUpdate_safe_grows hfrom.1 hmt.1 hfrom.2 hmt.2 hsafe
  -- the products of the updated type are bound to its stored version
  have hstored : ∀ q ∈ ix.products, q.metadataType.name = mt.name → q.metadataType = old := by
    intro q hq hname
    have hq' := h.product_type hq
    rw [hname, hold] at hq'
    exact (Option.some_inj.1 hq').symm
  refine ⟨h.types_insert hmt, fun q' hq' => ?_, ?_, fun r hr => ?_⟩
  · obtain ⟨q, hq, rfl⟩ := List.mem_map.1 hq'
    refine ⟨?_, by rw [Product.retype_definition]; exact (h.products q hq).2⟩
    by_cases hname : q.metadataType.name = mt.name
    · rw [Product.retype_pos hname]
      exact (h.products q hq).1.retype ix.metadataType?_names
        (by rw [metadataType?_insert rfl, if_pos hname.symm])
    · rw [Product.retype_neg hname]
      exact (h.products q hq).1.retype ix.metadataType?_names
        (by rw [metadataType?_insert rfl, if_neg (Ne.symm hname)]; exact h.product_type hq)
  · rw [List.pairwise_map]
    simpa only [Product.retype_name] using h.sorted
  · obtain ⟨q, hq, hfr⟩ := h.fresh r hr
    refine ⟨q.retype mt, by rw [product?_retype, hq]; rfl, ?_⟩
    by_cases hname : q.metadataType.name = mt.name
    · -- the record's product was bound to the stored version of the type
      have hq' : q.metadataType = old := hstored q (List.mem_of_find?_eq_some hq) hname
      rw [Product.retype_pos hname]
      exact hfr.retype (hq' ▸ hgrows) (hq' ▸ hadds old hold)
    · rw [Product.retype_neg hname]
      exact hfr

theorem Consistent.of_addProduct (h : ix.Consistent) {p a : Product}
    (hp : p.FromDoc ix.metadataType?) (hobj : p.definition.isObj = true)
    (hrun : (addProduct p).run ix = .ok (a, ix')) : ix'.Consistent := by
  obtain ⟨hnone, rfl⟩ := addProduct_run hrun
  refine ⟨h.types, h.products_insert hp hobj, insertByKey_pairwise _ _ h.sorted, fun r hr => ?_⟩
  obtain ⟨q, hq, hfr⟩ := h.fresh r hr
  -- the new name had no product, so no record has it
  have hne : p.name ≠ r.product := fun heq => by
    rw [heq, hq] at hnone
    cases hnone
  exact ⟨q, by rw [product?_insert rfl, if_neg hne, hq], hfr⟩

theorem Consistent.of_updateProduct (h : ix.Consistent) {p a : Product}
    (hp : p.FromDoc ix.metadataType?) (hobj : p.definition.isObj = true)
    (hrun : (updateProduct p false).run ix = .ok (a, ix')) : ix'.Consistent := by
  rcases updateProduct_run hrun with rfl | ⟨old, hold, hsafe, rfl⟩
  · exact h
  have hmem := List.mem_of_find?_eq_some hold
  -- a safe update of a mapping finds its metadata type by the same name
  have hmt : p.metadataType = old.metadataType := by
    obtain ⟨-, -, ⟨n, hn, hn'⟩, -⟩ := Product.checkUpdate_safe_keeps_reading
      (h.products old hmem).1.1 hp.1 ⟨(h.products old hmem).2, hobj⟩ (h.products old hmem).1.2
      hp.2 hsafe
    exact Option.some_inj.1 (hn'.symm.trans hn)
  refine ⟨h.types, h.products_insert hp hobj, insertByKey_pairwise _ _ h.sorted, fun r hr => ?_⟩
  obtain ⟨q, hq, hfr⟩ := h.fresh r hr
  rw [product?_insert rfl]
  by_cases hname : p.name = r.product
  · -- the record was bound to the old version
    have hqold : q = old := by
      rw [← hname, hold] at hq
      exact (Option.some_inj.1 hq).symm
    subst hqold
    exact ⟨p, if_pos hname, hfr.of_same (.refl r) hmt⟩
  · exact ⟨q, by rw [if_neg hname, hq], hfr⟩

theorem Consistent.of_addDataset (h : ix.Consistent) {d : Dataset} {withLineage a : Bool}
    (hkeep : ∀ q, ix.product? d.product.name = some q → q.metadataType = d.product.metadataType)
    (hrun : (addDataset d withLineage).run ix = .ok (a, ix')) : ix'.Consistent := by
  obtain ⟨hsome, ⟨-, rfl⟩ | hkeeps⟩ := addDataset_run hrun
  · refine ⟨h.types, h.products, h.sorted, fun r hr => ?_⟩
    rcases List.mem_append.1 hr with hr | hr
    · exact h.fresh r hr
    · obtain ⟨q, hq⟩ := Option.isSome_iff_exists.1 hsome
      rw [List.mem_singleton.1 hr]
      refine ⟨q, ?_, DatasetRecord.ofDataset_fresh withLineage (hkeep q hq)⟩
      rw [(DatasetRecord.ofDataset_columns d withLineage).product]
      exact hq
  · exact h.of_keepsColumns hkeeps

theorem Consistent.call (h : ix.Consistent) {c : CatalogCall} (hdec : c.Decoded ix)
    (hkeep : c.KeepsFresh ix) (hrun : c.run ix = .ok ix') : ix'.Consistent := by
  cases c <;> simp only [CatalogCall.run, Except.map_ok_iff] at hrun <;>
    obtain ⟨⟨_, _⟩, hrun, rfl⟩ := hrun
  case addMetadataType => exact h.of_addMetadataType hdec hrun
  case updateMetadataType => exact h.of_updateMetadataType hdec hkeep hrun
  case addOrUpdateMetadataType =>
    rcases addOrUpdateMetadataType_run hrun with hrun | hrun
    · exact h.of_updateMetadataType hdec hkeep hrun
    · exact h.of_addMetadataType hdec hrun
  case addProduct => exact h.of_addProduct hdec hkeep hrun
  case updateProduct => exact h.of_updateProduct hdec hkeep hrun
  case addOrUpdateProduct =>
    rcases addOrUpdateProduct_run hrun with hrun | hrun
    · exact h.of_updateProduct hdec hkeep hrun
    · exact h.of_addProduct hdec hkeep hrun
  case addDataset => exact h.of_addDataset hkeep hrun
  case archive => exact h.of_keepsColumns (archive_keeps _ _ hrun)
  case restore => exact h.of_keepsColumns (restore_keeps _ hrun)
  case addLocation => exact h.of_keepsColumns (addLocation_keeps _ _ hrun)
  case removeLocation => exact h.of_keepsColumns (removeLocation_keeps _ _ hrun)
  case archiveLocation => exact h.of_keepsColumns (archiveLocation_keeps _ _ hrun)
  case restoreLocation => exact h.of_keepsColumns (restoreLocation_keeps _ _ hrun)

theorem Consistent.search_eq (h : ix.Consistent) {terms : SearchTerms} {plan : SearchPlan}
    (hplan : ix.plan terms = .ok plan) : ix.search terms = .ok (plan.finish (ix.matching plan)) := by
  refine search_eq_matching hplan h.names_nodup fun r hr q hq => ?_
  obtain ⟨q', hq', hfr⟩ := h.fresh r hr
  obtain rfl : q = q' := Option.some_inj.1 (hq.symm.trans hq')
  exact hfr

end Index

theorem Reachable.consistent {ix : Index}
    (h : Reachable (fun ix c => c.Decoded ix ∧ c.KeepsFresh ix) ix) : ix.Consistent := by
  induction h with
  | empty => exact .empty
  | call _ hok hrun ih => exact ih.call hok.1 hok.2 hrun

/-- Over every index built from the empty one by calls that read definitions
from their documents and keep the recorded columns fresh, a search whose plan
succeeds returns `finish` of the stored datasets, in the order they were added
and bound to their stored products, that the plan accepts. -/
theorem search_returns_matching {ix : Index}
    (h : Reachable (fun ix c => c.Decoded ix ∧ c.KeepsFresh ix) ix) {terms : SearchTerms}
    {plan : SearchPlan} (hplan : ix.plan terms = .ok plan) :
    ix.search terms = .ok (plan.finish (ix.matching plan)) :=
  h.consistent.search_eq hplan

/-! ### A scene found in January -/

/-- A metadata type reading the acquisition time from the keys `lo` and `hi`. -/
def acquiredTypeDoc (name lo hi : String) : Document :=
  .obj [("dataset", .obj [("creation_dt", .arr [.str "created"]), ("id", .arr [.str "id"]),
      ("search_fields", .obj [("time", .obj [("max_offset", .arr [.str hi]),
        ("min_offset", .arr [.str lo]), ("type", .str "datetime-range")])])]),
    ("name", .str name)]

def acquiredType (name lo hi : String) : MetadataType :=
  ⟨name, none, ⟨⟨[["id"]]⟩, ⟨[["created"]]⟩, .empty, .empty, .empty, .empty, .empty, .empty,
    .empty, .empty,
    [("time", ⟨"time", none, .datetimeRange, .empty, ⟨[[lo]]⟩, ⟨[[hi]]⟩, [], none⟩)]⟩,
    acquiredTypeDoc name lo hi⟩

def sceneProductDoc (mt : String) : Document :=
  .obj [("metadata_type", .str mt), ("name", .str "p")]

def sceneProduct (mt lo hi : String) : Product :=
  ⟨"p", none, acquiredType mt lo hi, none, .empty, [], none, none, [], none, sceneProductDoc mt⟩

/-- A scene acquired in January under the keys `a0` and `a1`, and in June under
`b0` and `b1`. -/
def sceneDoc : Document :=
  .obj [("a0", .str "2020-01-01T00:00:00Z"), ("a1", .str "2020-01-02T00:00:00Z"),
    ("b0", .str "2020-06-01T00:00:00Z"), ("b1", .str "2020-06-02T00:00:00Z"),
    ("created", .str "2020-01-01T00:00:00Z"), ("id", .str "00000000-0000-4000-8000-000000000001")]

def scene (q : Product) : Dataset := ⟨⟨1⟩, q, sceneDoc, [], false, []⟩

def januaryTerms : SearchTerms :=
  { fields := [("time", .range (.time ⟨⟨18262⟩, 0, 0⟩) (.time ⟨⟨18264⟩, 0, 0⟩))] }

def januaryPlan : SearchPlan :=
  ⟨[sceneProduct "mt" "a0" "a1"],
    [⟨"time", .datetimeRange, .range (.time ⟨⟨18262⟩, 0, 0⟩) (.time ⟨⟨18264⟩, 0, 0⟩)⟩],
    none, none, false, none, none⟩

def januaryTypeIndex : Index := { metadataTypes := [acquiredType "mt" "a0" "a1"] }

def januaryProductIndex : Index :=
  { januaryTypeIndex with products := [sceneProduct "mt" "a0" "a1"] }

def januaryIndex : Index :=
  { januaryProductIndex with
    datasets := [DatasetRecord.ofDataset (scene (sceneProduct "mt" "a0" "a1")) false] }

/-- Adding the type, its product and the scene are faithful calls, and a
January search finds the scene. -/
theorem january_scene_is_found :
    Reachable (fun ix c => c.Decoded ix ∧ c.KeepsFresh ix) januaryIndex ∧
      januaryIndex.plan januaryTerms = .ok januaryPlan ∧
      januaryIndex.search januaryTerms =
        .ok (januaryPlan.finish (januaryIndex.matching januaryPlan)) ∧
      (januaryPlan.finish (januaryIndex.matching januaryPlan)).map (·.id) = [⟨1⟩] :=
  have htyped : Reachable (fun ix c => c.Decoded ix ∧ c.KeepsFresh ix) januaryTypeIndex :=
    .call (c := .addMetadataType (acquiredType "mt" "a0" "a1")) .empty
      ⟨⟨rfl, by decide⟩, trivial⟩ rfl
  have hproduct : Reachable (fun ix c => c.Decoded ix ∧ c.KeepsFresh ix) januaryProductIndex :=
    .call (c := .addProduct (sceneProduct "mt" "a0" "a1")) htyped ⟨⟨rfl, by decide⟩, rfl⟩ rfl
  have hreach : Reachable (fun ix c => c.Decoded ix ∧ c.KeepsFresh ix) januaryIndex :=
    .call (c := .addDataset (scene (sceneProduct "mt" "a0" "a1")) false) hproduct
      ⟨trivial, fun q hq => by cases Option.some_inj.1 hq; rfl⟩ rfl
  have hplan : januaryIndex.plan januaryTerms = .ok januaryPlan := rfl
  ⟨hreach, hplan, search_returns_matching hreach hplan, rfl⟩

/-! ### A scene added with another product of its name -/

def twoTypesIndex : Index :=
  { metadataTypes := [acquiredType "mt" "a0" "a1", acquiredType "mt2" "b0" "b1"] }

def foreignProductIndex : Index := { twoTypesIndex with products := [sceneProduct "mt" "a0" "a1"] }

/-- The scene added with a product `p` of the type reading June, while the
stored `p` reads January. -/
def foreignIndex : Index :=
  { foreignProductIndex with
    datasets := [DatasetRecord.ofDataset (scene (sceneProduct "mt2" "b0" "b1")) false] }

/-- Calls that read every definition from its document can add a dataset with
a product that is not the stored one of its name. Its record keeps the time
that product reads, and a search misses a dataset that the stored product
binds into the answer. -/
theorem foreign_product_hides_scene :
    ¬ ∀ ix, Reachable (fun ix c => c.Decoded ix) ix → ∀ terms plan, ix.plan terms = .ok plan →
      ix.search terms = .ok (plan.finish (ix.matching plan)) := by
  intro hall
  have htyped : Reachable (fun ix c => c.Decoded ix) januaryTypeIndex :=
    .call (c := .addMetadataType (acquiredType "mt" "a0" "a1")) .empty ⟨rfl, by decide⟩ rfl
  have htwo : Reachable (fun ix c => c.Decoded ix) twoTypesIndex :=
    .call (c := .addMetadataType (acquiredType "mt2" "b0" "b1")) htyped ⟨rfl, by decide⟩ rfl
  have hproduct : Reachable (fun ix c => c.Decoded ix) foreignProductIndex :=
    .call (c := .addProduct (sceneProduct "mt" "a0" "a1")) htwo ⟨rfl, by decide⟩ rfl
  have hreach : Reachable (fun ix c => c.Decoded ix) foreignIndex :=
    .call (c := .addDataset (scene (sceneProduct "mt2" "b0" "b1")) false) hproduct trivial rfl
  have hplan : foreignIndex.plan januaryTerms = .ok januaryPlan := rfl
  -- the first phase reads the June time recorded from the other product
  have hpassing : foreignIndex.passing januaryPlan.prefilter = [] := rfl
  have hsearch : foreignIndex.search januaryTerms = .ok [] := by
    rw [Index.search_of_plan hplan, hpassing, SearchPlan.matchRecords_nil, SearchPlan.finish_nil]
  -- the stored product reads January, and the plan accepts the scene it binds
  have hmatching : (januaryPlan.finish (foreignIndex.matching januaryPlan)).map (·.id) = [⟨1⟩] :=
    rfl
  have hsame := Except.ok.inj ((hsearch.symm.trans (hall _ hreach _ _ hplan)))
  rw [← hsame] at hmatching
  cases hmatching


/-! ### Safe updates that move what a record's product reads -/

/-- A spatial search field read from the x and y of two corners. -/
def boxFieldDoc (x0 y0 x1 y1 : String) : Document :=
  .obj [("coordinates", .arr [.arr [.arr [.str x0], .arr [.str y0]], .arr [.arr [.str x1], .arr [.str y1]]]),
    ("type", .str "spatial")]

def boxField (name x0 y0 x1 y1 : String) : SearchField :=
  ⟨name, none, .spatial, .empty, .empty, .empty, [([x0], [y0]), ([x1], [y1])], none⟩

/-- The metadata type `mt` with the spatial fields named, each with the keys of
its corners. -/
def boxType (fields : List (String × String × String × String × String)) : MetadataType :=
  ⟨"mt", none, ⟨⟨[["id"]]⟩, ⟨[["created"]]⟩, .empty, .empty, .empty, .empty, .empty, .empty,
    .empty, .empty, fields.map fun (n, x0, y0, x1, y1) => (n, boxField n x0 y0 x1 y1)⟩,
    .obj [("dataset", .obj [("creation_dt", .arr [.str "created"]), ("id", .arr [.str "id"]),
      ("search_fields", .obj (fields.map fun (n, x0, y0, x1, y1) => (n, boxFieldDoc x0 y0 x1 y1)))]),
      ("name", .str "mt")]⟩

/-- The type reading the footprint from `x0 … y1`, and its update that adds a
field `aa` reading `u0 … v1` ahead of it. -/
def lowBoxType : MetadataType := boxType [("zz", "x0", "y0", "x1", "y1")]

def twoBoxType : MetadataType :=
  boxType [("aa", "u0", "v0", "u1", "v1"), ("zz", "x0", "y0", "x1", "y1")]

def boxProduct (t : MetadataType) : Product :=
  ⟨"p", none, t, none, .empty, [], none, none, [], none, sceneProductDoc "mt"⟩

/-- A scene whose corners are `(0, 0)` and `(1, 1)` under `x0 … y1`, and
`(10, 10)` and `(11, 11)` under `u0 … v1`. -/
def boxSceneDoc : Document :=
  .obj [("created", .str "2020-01-01T00:00:00Z"), ("id", .str "00000000-0000-4000-8000-000000000001"),
    ("u0", .float 10.0), ("u1", .float 11.0), ("v0", .float 10.0), ("v1", .float 11.0),
    ("x0", .float 0.0), ("x1", .float 1.0), ("y0", .float 0.0), ("y1", .float 1.0)]

def boxScene (q : Product) : Dataset := ⟨⟨1⟩, q, boxSceneDoc, [], false, []⟩

def lowBoxIndex : Index :=
  { metadataTypes := [lowBoxType], products := [boxProduct lowBoxType],
    datasets := [DatasetRecord.ofDataset (boxScene (boxProduct lowBoxType)) false] }

/-- The index after the update that adds `aa`: the record keeps the bounds the
old type read. -/
def widenedIndex : Index :=
  { metadataTypes := [twoBoxType], products := [boxProduct twoBoxType],
    datasets := [DatasetRecord.ofDataset (boxScene (boxProduct lowBoxType)) false] }

/-- A search inside the footprint that `u0 … v1` reads. -/
def upperBoxTerms : SearchTerms := { geopolygon := some (Geometry.ofBox ⟨10.2, 10.2, 10.8, 10.8⟩ .wgs84) }

/-- The product `p` written as a list of its fields, of the type `mt`. -/
def listProductDoc (mt : String) : Document := .arr [.str "p", .null, .str mt]

def listProduct (mt lo hi : String) : Product :=
  ⟨"p", none, acquiredType mt lo hi, none, .empty, [], none, none, [], none, listProductDoc mt⟩

/-- The scene added with the listed product of the type reading June. -/
def listSceneIndex : Index :=
  { twoTypesIndex with
    products := [listProduct "mt2" "b0" "b1"]
    datasets := [DatasetRecord.ofDataset (scene (listProduct "mt2" "b0" "b1")) false] }

/-- The index after the listed product is updated to the type reading January. -/
def retypedIndex : Index := { listSceneIndex with products := [listProduct "mt" "a0" "a1"] }

def retypedPlan : SearchPlan :=
  ⟨[listProduct "mt" "a0" "a1"],
    [⟨"time", .datetimeRange, .range (.time ⟨⟨18262⟩, 0, 0⟩) (.time ⟨⟨18264⟩, 0, 0⟩)⟩],
    none, none, false, none, none⟩

/-- Updates classed as safe can leave a record's columns stale. A metadata type
that gains a spatial field ahead of the old one moves the extent its datasets
read, and a product written as a list may change its metadata type, since its
whole document is one change that touches no guarded key. In both runs every
call reads its definition from its document, and a search misses a dataset that
the stored product binds into the answer. -/
theorem safe_updates_hide_scene :
    (Reachable (fun ix c => c.Decoded ix) widenedIndex ∧
      ∃ plan, widenedIndex.plan upperBoxTerms = .ok plan ∧ widenedIndex.search upperBoxTerms = .ok [] ∧
        (plan.finish (widenedIndex.matching plan)).map (·.id) = [⟨1⟩]) ∧
    (Reachable (fun ix c => c.Decoded ix) retypedIndex ∧
      retypedIndex.plan januaryTerms = .ok retypedPlan ∧ retypedIndex.search januaryTerms = .ok [] ∧
      (retypedPlan.finish (retypedIndex.matching retypedPlan)).map (·.id) = [⟨1⟩]) := by
  -- the type, its product and the scene, then the update adding `aa`
  have htyped : Reachable (fun ix c => c.Decoded ix) { metadataTypes := [lowBoxType] } :=
    .call (c := .addMetadataType lowBoxType) .empty ⟨rfl, by decide⟩ rfl
  have hproduct : Reachable (fun ix c => c.Decoded ix)
      { metadataTypes := [lowBoxType], products := [boxProduct lowBoxType] } :=
    .call (c := .addProduct (boxProduct lowBoxType)) htyped ⟨rfl, by decide⟩ rfl
  have hscene : Reachable (fun ix c => c.Decoded ix) lowBoxIndex :=
    .call (c := .addDataset (boxScene (boxProduct lowBoxType)) false) hproduct trivial rfl
  have hwidened : Reachable (fun ix c => c.Decoded ix) widenedIndex :=
    .call (c := .updateMetadataType twoBoxType) hscene ⟨rfl, by decide⟩ rfl
  -- the two types, the listed product of the June type and the scene, then the update
  have htyped' : Reachable (fun ix c => c.Decoded ix) januaryTypeIndex :=
    .call (c := .addMetadataType (acquiredType "mt" "a0" "a1")) .empty ⟨rfl, by decide⟩ rfl
  have htwo : Reachable (fun ix c => c.Decoded ix) twoTypesIndex :=
    .call (c := .addMetadataType (acquiredType "mt2" "b0" "b1")) htyped' ⟨rfl, by decide⟩ rfl
  have hlisted : Reachable (fun ix c => c.Decoded ix)
      { twoTypesIndex with products := [listProduct "mt2" "b0" "b1"] } :=
    .call (c := .addProduct (listProduct "mt2" "b0" "b1")) htwo ⟨rfl, by decide⟩ rfl
  have hlistScene : Reachable (fun ix c => c.Decoded ix) listSceneIndex :=
    .call (c := .addDataset (scene (listProduct "mt2" "b0" "b1")) false) hlisted trivial rfl
  have hretyped : Reachable (fun ix c => c.Decoded ix) retypedIndex :=
    .call (c := .updateProduct (listProduct "mt" "a0" "a1")) hlistScene ⟨rfl, by decide⟩ rfl
  -- in both, the first phase reads the columns recorded under the old binding
  obtain ⟨plan, hplan, hpassing, hmatching⟩ : ∃ plan, widenedIndex.plan upperBoxTerms = .ok plan ∧
      widenedIndex.passing plan.prefilter = [] ∧ (plan.finish (widenedIndex.matching plan)).map (·.id) = [⟨1⟩] :=
    ⟨_, rfl, rfl, rfl⟩
  have hretypedPlan : retypedIndex.plan januaryTerms = .ok retypedPlan := rfl
  have hretypedPassing : retypedIndex.passing retypedPlan.prefilter = [] := rfl
  refine ⟨⟨hwidened, plan, hplan, ?_, hmatching⟩, ⟨hretyped, hretypedPlan, ?_, rfl⟩⟩
  · rw [Index.search_of_plan hplan, hpassing, SearchPlan.matchRecords_nil, SearchPlan.finish_nil]
  · rw [Index.search_of_plan hretypedPlan, hretypedPassing, SearchPlan.matchRecords_nil,
      SearchPlan.finish_nil]

end Geocube
