import Geocube.Proofs.Catalog.Columns
import Mathlib.Data.String.Basic

/-
What each operation of the index does to it.

An index operation either fails, leaving the index as it was, or gives an
answer and a new index. `IndexOp.Within R op` says that every successful run of
`op` relates the index before and after by `R`; for a reflexive and transitive
`R` it is closed under the steps operations are written with (`pure`, `get`,
`bind`, loops over lists), so that a loop of record changes is handled once.

Metadata types and products are kept in ascending order of name by
`insertByKey`, which replaces an entry of the same name; a lookup after it
finds the new entry under its name and the old answer under every other.

The relation of interest is `Index.KeepsColumns`: the same metadata types and
products, and records that each have the product, document, time and bounds
of a record of the index before. Archiving, restoring and every change of
locations keep the columns. The operations on metadata types, products and
datasets are described by one lemma each, which says exactly which index a
successful run leaves.
-/

namespace Geocube

namespace IndexOp

variable {α β ρ : Type}

/-- Every successful run of `op` relates the index before to the index after by `R`. -/
def Within (R : Index → Index → Prop) (op : IndexOp α) : Prop :=
  ∀ ⦃s : Index⦄ ⦃a : α⦄ ⦃s' : Index⦄, op.run s = .ok (a, s') → R s s'

theorem run_throw {e : CatalogError} {s : Index} : (throw e : IndexOp α).run s = .error e := rfl

section

variable {R : Index → Index → Prop}

theorem Within.throw (e : CatalogError) : Within R (throw e : IndexOp α) := by
  intro s a s' h
  rw [run_throw] at h
  cases h

variable [IsPreorder Index R]

theorem Within.pure (a : α) : Within R (pure a : IndexOp α) := by
  intro s b s' h
  simp only [StateT.run_pure, Except.pure_eq_ok, Prod.mk.injEq] at h
  obtain ⟨-, rfl⟩ := h
  exact refl_of R s

theorem Within.get : Within R (get : IndexOp Index) := by
  intro s b s' h
  simp only [StateT.run_get, Except.pure_eq_ok, Prod.mk.injEq] at h
  obtain ⟨-, rfl⟩ := h
  exact refl_of R s

theorem Within.bind {x : IndexOp α} {f : α → IndexOp β} (hx : Within R x)
    (hf : ∀ a, Within R (f a)) : Within R (x >>= f) := by
  intro s b s'' h
  simp only [StateT.run_bind, Except.bind_eq_ok] at h
  obtain ⟨⟨a, s'⟩, hxa, hfb⟩ := h
  exact trans_of R (hx hxa) (hf a hfb)

theorem Within.forIn {f : ρ → β → IndexOp (ForInStep β)} (hf : ∀ x b, Within R (f x b)) :
    ∀ (xs : List ρ) (b : β), Within R (forIn xs b f)
  | [], b => by
    rw [List.forIn_nil]
    exact .pure b
  | x :: xs, b => by
    rw [List.forIn_cons]
    refine .bind (hf x b) fun step => ?_
    cases step with
    | done b => exact .pure b
    | yield b => exact Within.forIn hf xs b

end

end IndexOp

section insertByKey

variable {α : Type} (key : α → String) (x : α)

theorem find?_insertByKey (n : String) :
    ∀ xs : List α, (insertByKey key x xs).find? (key · == n) =
      if key x = n then some x else xs.find? (key · == n)
  | [] => by by_cases hx : key x = n <;> simp [insertByKey, hx]
  | y :: rest => by
    have ih := find?_insertByKey n rest
    have hfind : ∀ z zs, (z :: zs).find? (key · == n) =
        if key z = n then some z else zs.find? (key · == n) := by
      intro z zs
      by_cases hz : key z = n <;> simp [hz]
    rw [insertByKey]
    by_cases hxy : key x = key y
    · -- the entry with the same key is replaced
      rw [if_pos (beq_iff_eq.2 hxy), hfind, hfind y, ← hxy]
      by_cases hx : key x = n
      · rw [if_pos hx, if_pos hx]
      · rw [if_neg hx, if_neg hx, if_neg hx]
    · rw [if_neg (by simpa using hxy)]
      by_cases hlt : key x < key y
      · rw [if_pos hlt, hfind]
      · -- the entry stays ahead of the new one, and has another key
        rw [if_neg hlt, hfind, ih, hfind y]
        by_cases hy : key y = n
        · have hx : key x ≠ n := hy ▸ hxy
          rw [if_pos hy, if_neg hx, if_pos hy]
        · rw [if_neg hy, if_neg hy]

theorem mem_insertByKey {y : α} : ∀ {xs : List α}, y ∈ insertByKey key x xs → y = x ∨ y ∈ xs
  | [], h => by simpa [insertByKey] using h
  | z :: rest, h => by
    unfold insertByKey at h
    split at h
    · rcases List.mem_cons.1 h with rfl | h
      · exact .inl rfl
      · exact .inr (List.mem_cons_of_mem z h)
    · split at h
      · simpa using h
      · rcases List.mem_cons.1 h with rfl | h
        · exact .inr List.mem_cons_self
        · rcases mem_insertByKey h with rfl | h
          · exact .inl rfl
          · exact .inr (List.mem_cons_of_mem z h)

theorem insertByKey_pairwise :
    ∀ {xs : List α}, xs.Pairwise (fun a b => key a < key b) →
      (insertByKey key x xs).Pairwise (fun a b => key a < key b)
  | [], _ => List.pairwise_singleton _ x
  | y :: rest, h => by
    obtain ⟨hy, hrest⟩ := List.pairwise_cons.1 h
    unfold insertByKey
    split
    · rename_i hxy
      have hxy : key x = key y := beq_iff_eq.1 hxy
      exact List.pairwise_cons.2 ⟨fun b hb => hxy ▸ hy b hb, hrest⟩
    · split
      · rename_i hxy hlt
        refine List.pairwise_cons.2 ⟨fun b hb => ?_, h⟩
        rcases List.mem_cons.1 hb with rfl | hb
        · exact hlt
        · exact lt_trans hlt (hy b hb)
      · rename_i hxy hlt
        -- the new key is neither equal to nor below `key y`, so it is above it
        have hyx : key y < key x := lt_of_le_of_ne (not_lt.1 hlt) fun h => hxy (beq_iff_eq.2 h.symm)
        refine List.pairwise_cons.2 ⟨fun b hb => ?_, insertByKey_pairwise hrest⟩
        rcases mem_insertByKey key x hb with rfl | hb
        · exact hyx
        · exact hy b hb

end insertByKey

/-- A product bound to `mt` when its metadata type has that name, as an update
of `mt` leaves it. -/
def Product.retype (mt : MetadataType) (p : Product) : Product :=
  if p.metadataType.name == mt.name then { p with metadataType := mt } else p

@[simp] theorem Product.retype_name (mt : MetadataType) (p : Product) : (p.retype mt).name = p.name := by
  unfold Product.retype
  split <;> rfl

theorem Product.retype_pos {mt : MetadataType} {p : Product}
    (h : p.metadataType.name = mt.name) : p.retype mt = { p with metadataType := mt } := by
  rw [Product.retype, if_pos (beq_iff_eq.2 h)]

theorem Product.retype_neg {mt : MetadataType} {p : Product}
    (h : p.metadataType.name ≠ mt.name) : p.retype mt = p := by
  rw [Product.retype, if_neg (by simpa using h)]

@[simp] theorem Product.retype_definition (mt : MetadataType) (p : Product) :
    (p.retype mt).definition = p.definition := by
  unfold Product.retype
  split <;> rfl

namespace Index

open IndexOp

theorem metadataType?_name {ix : Index} {n : String} {mt : MetadataType}
    (h : ix.metadataType? n = some mt) : mt.name = n := by
  simpa using List.find?_some h

theorem metadataType?_insert {ix ix' : Index} {mt : MetadataType}
    (h : ix'.metadataTypes = insertByKey (·.name) mt ix.metadataTypes) (n : String) :
    ix'.metadataType? n = if mt.name = n then some mt else ix.metadataType? n := by
  rw [metadataType?, h]
  exact find?_insertByKey MetadataType.name mt n ix.metadataTypes

theorem product?_insert {ix ix' : Index} {p : Product}
    (h : ix'.products = insertByKey (·.name) p ix.products) (n : String) :
    ix'.product? n = if p.name = n then some p else ix.product? n := by
  rw [product?, h]
  exact find?_insertByKey Product.name p n ix.products

/-- The index after keeps what a search reads ahead of time: the same metadata
types and products, and each record has the columns of a record before. -/
structure KeepsColumns (ix ix' : Index) : Prop where
  metadataTypes : ix'.metadataTypes = ix.metadataTypes
  products : ix'.products = ix.products
  records : ∀ r' ∈ ix'.datasets, ∃ r ∈ ix.datasets, r'.SameColumns r

theorem KeepsColumns.refl (ix : Index) : KeepsColumns ix ix :=
  ⟨rfl, rfl, fun r hr => ⟨r, hr, .refl r⟩⟩

theorem KeepsColumns.trans {ix ix' ix'' : Index} (h : KeepsColumns ix ix')
    (h' : KeepsColumns ix' ix'') : KeepsColumns ix ix'' := by
  refine ⟨h'.metadataTypes.trans h.metadataTypes, h'.products.trans h.products, fun r'' hr'' => ?_⟩
  obtain ⟨r', hr', hsame'⟩ := h'.records r'' hr''
  obtain ⟨r, hr, hsame⟩ := h.records r' hr'
  exact ⟨r, hr, hsame'.trans hsame⟩

instance : IsPreorder Index KeepsColumns where
  refl := KeepsColumns.refl
  trans _ _ _ := KeepsColumns.trans

/-- The index with every record of `id` replaced by `r'`. -/
def setRecord (ix : Index) (id : Uuid) (r' : DatasetRecord) : Index :=
  { ix with datasets := ix.datasets.map fun x => if x.id == id then r' else x }

theorem modifyRecord_run_some {id : Uuid} {f : DatasetRecord → DatasetRecord × α} {ix : Index}
    {r : DatasetRecord} (h : ix.record? id = some r) :
    (modifyRecord id f).run ix = .ok ((f r).2, ix.setRecord id (f r).1) := by
  simp [modifyRecord, h, setRecord]

theorem modifyRecord_run_none {id : Uuid} {f : DatasetRecord → DatasetRecord × α} {ix : Index}
    (h : ix.record? id = none) :
    (modifyRecord id f).run ix = .error (.notFound ("dataset " ++ id.text)) := by
  simp [modifyRecord, h]
  rfl

/-- Changing the record of an id succeeds exactly when the id is stored, and
replaces its record. -/
theorem modifyRecord_run_ok {id : Uuid} {f : DatasetRecord → DatasetRecord × α} {ix ix' : Index} {a : α}
    (h : (modifyRecord id f).run ix = .ok (a, ix')) :
    ∃ r, ix.record? id = some r ∧ a = (f r).2 ∧ ix' = ix.setRecord id (f r).1 := by
  cases hr : ix.record? id with
  | none =>
    rw [modifyRecord_run_none hr] at h
    cases h
  | some r =>
    rw [modifyRecord_run_some hr] at h
    cases h
    exact ⟨r, rfl, rfl, rfl⟩

theorem modifyRecord_within {R : Index → Index → Prop} {id : Uuid} {f : DatasetRecord → DatasetRecord × α}
    (hf : ∀ ix r, ix.record? id = some r → R ix (ix.setRecord id (f r).1)) :
    Within R (modifyRecord id f) := by
  intro s a s' h
  obtain ⟨r, hr, -, rfl⟩ := modifyRecord_run_ok h
  exact hf s r hr

theorem modifyRecord_keeps {id : Uuid} {f : DatasetRecord → DatasetRecord × α}
    (hf : ∀ r, (f r).1.SameColumns r) :
    Within KeepsColumns (modifyRecord id f) := by
  refine modifyRecord_within fun ix r hr => ⟨rfl, rfl, fun r' hr' => ?_⟩
  obtain ⟨x, hx, rfl⟩ := List.mem_map.1 hr'
  split
  · exact ⟨r, List.mem_of_find?_eq_some hr, hf r⟩
  · exact ⟨x, hx, .refl x⟩

/-- Archiving or restoring is a loop of changes of one record each, so it stays
within any preorder that each change does. -/
theorem setArchived_within {R : Index → Index → Prop} [IsPreorder Index R] {archived : Bool}
    (hflag : ∀ id, Within R (modifyRecord id fun r => ({ r with archived := archived }, ())))
    (ids : List Uuid) : Within R (setArchived ids archived) := by
  unfold setArchived
  refine .bind (Within.forIn ?_ ids 0) fun _ => .pure _
  intro id n
  refine .bind .get fun s => ?_
  split
  · split
    · exact .bind (hflag id) fun _ => .pure _
    · exact .pure _
  · exact .pure _

theorem setArchived_keeps (ids : List Uuid) (archived : Bool) :
    Within KeepsColumns (setArchived ids archived) :=
  setArchived_within (fun _ => modifyRecord_keeps fun _ => ⟨rfl, rfl, rfl, rfl⟩) ids

/-- Archiving checks the datasets derived from those archived, and then only
flags records. -/
theorem archive_keeps (ids : List Uuid) (force : Bool) : Within KeepsColumns (archive ids force) := by
  unfold archive
  split
  · refine .bind .get fun s => ?_
    refine .bind (Within.forIn ?_ ids _) fun _ => setArchived_keeps ids true
    intro id _
    refine .bind (Within.forIn ?_ _ _) fun _ => .pure _
    intro derived _
    split
    · exact .pure _
    · split
      · exact .bind (.throw _) fun _ => .pure _
      · exact .pure _
  · exact setArchived_keeps ids true

theorem restore_keeps (ids : List Uuid) : Within KeepsColumns (restore ids) :=
  setArchived_keeps ids false

theorem addLocation_columns (r : DatasetRecord) (uri : String) :
    (r.addLocation uri).1.SameColumns r := by
  simp only [DatasetRecord.addLocation]
  split <;> exact ⟨rfl, rfl, rfl, rfl⟩

theorem addLocation_keeps (id : Uuid) (uri : String) : Within KeepsColumns (addLocation id uri) :=
  modifyRecord_keeps fun r => addLocation_columns r uri

theorem removeLocation_keeps (id : Uuid) (uri : String) :
    Within KeepsColumns (removeLocation id uri) :=
  modifyRecord_keeps fun _ => ⟨rfl, rfl, rfl, rfl⟩

theorem setLocationArchived_columns (r : DatasetRecord) (uri : String) (archived : Bool) :
    (r.setLocationArchived uri archived).1.SameColumns r := by
  unfold DatasetRecord.setLocationArchived
  split
  · split <;> exact ⟨rfl, rfl, rfl, rfl⟩
  · exact ⟨rfl, rfl, rfl, rfl⟩

theorem archiveLocation_keeps (id : Uuid) (uri : String) :
    Within KeepsColumns (archiveLocation id uri) :=
  modifyRecord_keeps fun r => setLocationArchived_columns r uri true

theorem restoreLocation_keeps (id : Uuid) (uri : String) :
    Within KeepsColumns (restoreLocation id uri) :=
  modifyRecord_keeps fun r => setLocationArchived_columns r uri false

/-! ### Metadata types, products and datasets -/

theorem getMetadataType_run {n : String} {ix ix' : Index} {mt : MetadataType}
    (h : (getMetadataType n).run ix = .ok (mt, ix')) : ix.metadataType? n = some mt ∧ ix' = ix := by
  simp only [getMetadataType, StateT.run_bind, StateT.run_get, Except.bind_eq_ok,
    Except.pure_eq_ok] at h
  obtain ⟨_, rfl, h⟩ := h
  split at h
  · rename_i mt' hmt
    simp only [StateT.run_pure, Except.pure_eq_ok, Prod.mk.injEq] at h
    obtain ⟨rfl, rfl⟩ := h
    exact ⟨hmt, rfl⟩
  · simp at h

theorem getProduct_run {n : String} {ix ix' : Index} {p : Product}
    (h : (getProduct n).run ix = .ok (p, ix')) : ix.product? n = some p ∧ ix' = ix := by
  simp only [getProduct, StateT.run_bind, StateT.run_get, Except.bind_eq_ok,
    Except.pure_eq_ok] at h
  obtain ⟨_, rfl, h⟩ := h
  split at h
  · rename_i p' hp
    simp only [StateT.run_pure, Except.pure_eq_ok, Prod.mk.injEq] at h
    obtain ⟨rfl, rfl⟩ := h
    exact ⟨hp, rfl⟩
  · simp at h

theorem addMetadataType_run {mt a : MetadataType} {ix ix' : Index}
    (h : (addMetadataType mt).run ix = .ok (a, ix')) :
    ix.metadataType? mt.name = none ∧
      ix' = { ix with metadataTypes := insertByKey (·.name) mt ix.metadataTypes } := by
  simp only [addMetadataType, StateT.run_bind, StateT.run_lift, StateT.run_get,
    Except.bind_eq_ok, Except.pure_eq_ok] at h
  obtain ⟨_, ⟨_, -, rfl⟩, _, rfl, h⟩ := h
  split at h
  · simp at h
  · rename_i hnone
    simp only [StateT.run_bind, StateT.run_modify, Except.bind_eq_ok, Except.pure_eq_ok] at h
    obtain ⟨_, rfl, h⟩ := h
    obtain ⟨-, rfl⟩ := getMetadataType_run h
    exact ⟨by simpa using hnone, rfl⟩

/-- Updating a metadata type leaves the index alone when nothing changed, and
otherwise makes a change that is safe or allowed: it replaces the stored
version and binds the products of the type to the new one. -/
theorem updateMetadataType_run_allowing {mt a : MetadataType} {allowUnsafe : Bool} {ix ix' : Index}
    (h : (updateMetadataType mt allowUnsafe).run ix = .ok (a, ix')) :
    ix' = ix ∨ ∃ old, ix.metadataType? mt.name = some old ∧
      ((old.checkUpdate mt).isSafe = true ∨ allowUnsafe = true) ∧
      ix' = { ix with
        metadataTypes := insertByKey (·.name) mt ix.metadataTypes
        products := ix.products.map (Product.retype mt) } := by
  simp only [updateMetadataType, checkUpdateMetadataType, StateT.run_bind, StateT.run_lift,
    Except.bind_eq_ok, Except.pure_eq_ok] at h
  obtain ⟨_, ⟨_, -, rfl⟩, ⟨report, s⟩, ⟨⟨old, s₀⟩, hget, hreport⟩, h⟩ := h
  obtain ⟨hold, rfl⟩ := getMetadataType_run hget
  simp only [StateT.run_pure, Except.pure_eq_ok, Prod.mk.injEq] at hreport
  obtain ⟨rfl, rfl⟩ := hreport
  split at h
  · exact .inl (getMetadataType_run h).2
  · split at h
    · simp at h
    · rename_i hsafe
      simp only [StateT.run_bind, StateT.run_modify, Except.bind_eq_ok, Except.pure_eq_ok] at h
      obtain ⟨_, rfl, h⟩ := h
      obtain ⟨-, rfl⟩ := getMetadataType_run h
      refine .inr ⟨old, hold, ?_, rfl⟩
      cases hs : (old.checkUpdate mt).isSafe <;> cases allowUnsafe <;> simp_all

/-- Updating a metadata type without unsafe changes leaves the index alone when
nothing changed, and otherwise makes a safe change: it replaces the stored
version and binds the products of the type to the new one. -/
theorem updateMetadataType_run {mt a : MetadataType} {ix ix' : Index}
    (h : (updateMetadataType mt false).run ix = .ok (a, ix')) :
    ix' = ix ∨ ∃ old, ix.metadataType? mt.name = some old ∧ (old.checkUpdate mt).isSafe = true ∧
      ix' = { ix with
        metadataTypes := insertByKey (·.name) mt ix.metadataTypes
        products := ix.products.map (Product.retype mt) } := by
  rcases updateMetadataType_run_allowing h with rfl | ⟨old, hold, hsafe, rfl⟩
  · exact .inl rfl
  · exact .inr ⟨old, hold, by simpa using hsafe, rfl⟩

theorem addOrUpdateMetadataType_run {mt a : MetadataType} {allowUnsafe : Bool} {ix ix' : Index}
    (h : (addOrUpdateMetadataType mt allowUnsafe).run ix = .ok (a, ix')) :
    (updateMetadataType mt allowUnsafe).run ix = .ok (a, ix') ∨
      (addMetadataType mt).run ix = .ok (a, ix') := by
  simp only [addOrUpdateMetadataType, StateT.run_bind, StateT.run_get, Except.bind_eq_ok,
    Except.pure_eq_ok] at h
  obtain ⟨_, rfl, h⟩ := h
  split at h
  · exact .inl h
  · exact .inr h

theorem addProduct_run {p a : Product} {ix ix' : Index}
    (h : (addProduct p).run ix = .ok (a, ix')) :
    ix.product? p.name = none ∧ ix' = { ix with products := insertByKey (·.name) p ix.products } := by
  simp only [addProduct, StateT.run_bind, StateT.run_lift, StateT.run_get,
    Except.bind_eq_ok, Except.pure_eq_ok] at h
  obtain ⟨_, ⟨_, -, rfl⟩, _, rfl, h⟩ := h
  split at h
  · simp at h
  · rename_i hnone
    split at h
    · simp at h
    · simp only [StateT.run_bind, StateT.run_set, Except.bind_eq_ok, Except.pure_eq_ok] at h
      obtain ⟨_, rfl, h⟩ := h
      obtain ⟨-, rfl⟩ := getProduct_run h
      exact ⟨by simpa using hnone, rfl⟩

/-- Updating a product leaves the index alone when nothing changed, and
otherwise replaces the stored version by a change that is safe or allowed. -/
theorem updateProduct_run_allowing {p a : Product} {allowUnsafe : Bool} {ix ix' : Index}
    (h : (updateProduct p allowUnsafe).run ix = .ok (a, ix')) :
    ix' = ix ∨ ∃ old, ix.product? p.name = some old ∧
      ((old.checkUpdate p).isSafe = true ∨ allowUnsafe = true) ∧
      ix' = { ix with products := insertByKey (·.name) p ix.products } := by
  simp only [updateProduct, checkUpdateProduct, StateT.run_bind, StateT.run_lift,
    Except.bind_eq_ok, Except.pure_eq_ok] at h
  obtain ⟨_, ⟨_, -, rfl⟩, ⟨report, s⟩, ⟨⟨old, s₀⟩, hget, hreport⟩, h⟩ := h
  obtain ⟨hold, rfl⟩ := getProduct_run hget
  simp only [StateT.run_pure, Except.pure_eq_ok, Prod.mk.injEq] at hreport
  obtain ⟨rfl, rfl⟩ := hreport
  split at h
  · exact .inl (getProduct_run h).2
  · split at h
    · simp at h
    · rename_i hsafe
      simp only [StateT.run_bind, StateT.run_modify, Except.bind_eq_ok, Except.pure_eq_ok] at h
      obtain ⟨_, rfl, h⟩ := h
      obtain ⟨-, rfl⟩ := getProduct_run h
      refine .inr ⟨old, hold, ?_, rfl⟩
      cases hs : (old.checkUpdate p).isSafe <;> cases allowUnsafe <;> simp_all

/-- Updating a product without unsafe changes leaves the index alone when
nothing changed, and otherwise replaces the stored version by a safe change. -/
theorem updateProduct_run {p a : Product} {ix ix' : Index}
    (h : (updateProduct p false).run ix = .ok (a, ix')) :
    ix' = ix ∨ ∃ old, ix.product? p.name = some old ∧ (old.checkUpdate p).isSafe = true ∧
      ix' = { ix with products := insertByKey (·.name) p ix.products } := by
  rcases updateProduct_run_allowing h with rfl | ⟨old, hold, hsafe, rfl⟩
  · exact .inl rfl
  · exact .inr ⟨old, hold, by simpa using hsafe, rfl⟩

theorem addOrUpdateProduct_run {p a : Product} {allowUnsafe : Bool} {ix ix' : Index}
    (h : (addOrUpdateProduct p allowUnsafe).run ix = .ok (a, ix')) :
    (updateProduct p allowUnsafe).run ix = .ok (a, ix') ∨ (addProduct p).run ix = .ok (a, ix') := by
  simp only [addOrUpdateProduct, StateT.run_bind, StateT.run_get, Except.bind_eq_ok,
    Except.pure_eq_ok] at h
  obtain ⟨_, rfl, h⟩ := h
  split at h
  · exact .inl h
  · exact .inr h

/-- Deleting a product removes it, and succeeds only when no record names it. -/
theorem deleteProduct_run {name : String} {a : Unit} {ix ix' : Index}
    (h : (deleteProduct name).run ix = .ok (a, ix')) :
    (∀ r ∈ ix.datasets, r.product ≠ name) ∧
      ix' = { ix with products := ix.products.filter (·.name != name) } := by
  simp only [deleteProduct, StateT.run_bind, StateT.run_get, Except.bind_eq_ok] at h
  obtain ⟨⟨q, s⟩, hget, _, hs, h⟩ := h
  obtain ⟨-, rfl⟩ := getProduct_run hget
  simp only [Except.pure_eq_ok] at hs
  subst hs
  split at h
  · simp at h
  · rename_i hnone
    simp only [StateT.run_set, Except.pure_eq_ok, Prod.mk.injEq] at h
    obtain ⟨_, rfl, -, rfl⟩ := h
    refine ⟨fun r hr heq => hnone ?_, rfl⟩
    exact List.length_pos_of_mem (List.mem_filter.2 ⟨hr, by simp [heq]⟩)

theorem addLocations_columns (uris : List String) (r : DatasetRecord) :
    (r.addLocations uris).SameColumns r := by
  unfold DatasetRecord.addLocations
  generalize uris.reverse = us
  -- each location added keeps the columns of the record before it
  induction us generalizing r with
  | nil => exact .refl r
  | cons u us ih => exact (ih (r.addLocation u).1).trans (addLocation_columns r u)

/-- Adding a dataset of a stored product appends its record when its id is new,
and otherwise only gives the stored record the new locations. -/
theorem addDataset_run {d : Dataset} {withLineage a : Bool} {ix ix' : Index}
    (h : (addDataset d withLineage).run ix = .ok (a, ix')) :
    (ix.product? d.product.name).isSome ∧
      ((ix.record? d.id = none ∧
          ix' = { ix with datasets := ix.datasets ++ [DatasetRecord.ofDataset d withLineage] }) ∨
        KeepsColumns ix ix') := by
  simp only [addDataset, StateT.run_bind, StateT.run_get, Except.bind_eq_ok] at h
  obtain ⟨⟨q, s⟩, hget, _, hs, h⟩ := h
  obtain ⟨hq, rfl⟩ := getProduct_run hget
  simp only [Except.pure_eq_ok] at hs
  subst hs
  refine ⟨by simp [hq], ?_⟩
  split at h
  · exact .inr (modifyRecord_keeps (fun r => addLocations_columns d.uris r) h)
  · rename_i hnone
    simp only [StateT.run_bind, StateT.run_set, Except.bind_eq_ok, StateT.run_pure,
      Except.pure_eq_ok, Prod.mk.injEq] at h
    obtain ⟨_, rfl, -, rfl⟩ := h
    exact .inl ⟨hnone, rfl⟩

end Index

end Geocube
