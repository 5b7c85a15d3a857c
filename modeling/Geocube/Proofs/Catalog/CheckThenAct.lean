import Geocube.Proofs.Catalog.Interleaving
import Geocube.Proofs.Catalog.Archive

/-!
# Checks made in one call and acted on in another

Deleting a product counts its records and removes it in a later call, adding a
dataset looks its product up and inserts it in a later call, and a checked
archive reads the datasets derived from its batch before it flags the batch.
Between the check and the act any other client may make its calls, so a check
holds at the act only when no other request can undo it.

Two such facts are proved over every schedule. The records keep naming stored
products when no request deletes the product another adds
(`ProductsSound.run`). And a checked archive that answers leaves no active
dataset outside its batch listing one of its ids as a source, when no add
lists one of them with its lineage and no restore brings such a dataset back
(`ChecksSound.run`). Each condition is needed: `interleaved_checks_fail`
runs schedules that break the facts, one with a delete of the product an add
has found, one with a restore of a derived dataset, and one with an add of a
derived dataset, each landing between a check and its act.
-/

namespace Geocube

namespace DatasetRecord

@[simp] theorem ofDataset_product (d : Dataset) (withLineage : Bool) :
    (ofDataset d withLineage).product = d.product.name := by
  rw [ofDataset, addLocations_eq]

@[simp] theorem ofDataset_sources (d : Dataset) (withLineage : Bool) :
    (ofDataset d withLineage).sources = if withLineage then d.sources else [] := by
  rw [ofDataset, addLocations_eq]

@[simp] theorem ofDataset_archived (d : Dataset) (withLineage : Bool) :
    (ofDataset d withLineage).archived = false := by
  rw [ofDataset, addLocations_eq]

end DatasetRecord

namespace Index

variable {ix ix' : Index}

theorem removeProduct_run {name : String} {u : Unit}
    (h : (removeProduct name).run ix = .ok (u, ix')) :
    ix' = { ix with products := ix.products.filter (·.name != name) } := by
  simp only [removeProduct, StateT.run_bind, StateT.run_get, pure_bind] at h
  split at h
  · simp at h
  · simp only [StateT.run_modify] at h
    cases h
    rfl

theorem mem_withFlag {ids : List Uuid} {archived : Bool} {r' : DatasetRecord}
    (hr' : r' ∈ (ix.withFlag ids archived).datasets) :
    ∃ r ∈ ix.datasets, r' = if r.id ∈ ids then { r with archived := archived } else r :=
  List.mem_map.1 hr' |>.imp fun _ h => ⟨h.1, h.2.symm⟩

end Index

namespace Request

/-- The product a request adds a dataset of. -/
def addsProduct : Request → Option String
  | add d _ => some d.product.name
  | _ => none

/-- The product a request deletes. -/
def deletesProduct : Request → Option String
  | deleteProduct name => some name
  | _ => none

/-- The datasets a request restores. -/
def restored : Request → List Uuid
  | restore ids => ids
  | _ => []

/-- The sources a request adds a dataset with. -/
def lineage : Request → List LineageRef
  | add d true => d.sources
  | _ => []

/-- The batch of a checked archive. -/
def checkedBatch : Request → Option (List Uuid)
  | archive ids false => some ids
  | _ => none

variable {σ : Request} {ix ix' : Index}

/-- What a request's step does to an index with distinct ids: nothing, or its
one write. An add appends the record of a new id or merges the locations into
the stored record; a delete removes its product; an archive or a restore flags
its batch. -/
theorem Guarantee.cases_write (hd : ix.IdsDistinct) (hg : σ.Guarantee ix ix') :
    ix' = ix ∨
    (∃ d withLineage, σ = add d withLineage ∧ ix.record? d.id = none ∧
      ix' = { ix with datasets := ix.datasets ++ [DatasetRecord.ofDataset d withLineage] }) ∨
    (∃ d withLineage r, σ = add d withLineage ∧ ix.record? d.id = some r ∧
      ix' = ix.setRecord d.id (r.addLocations d.uris)) ∨
    (∃ name, σ = deleteProduct name ∧
      ix' = { ix with products := ix.products.filter (·.name != name) }) ∨
    (∃ ids force, σ = archive ids force ∧ ix' = ix.withFlag ids true) ∨
    (∃ ids, σ = restore ids ∧ ix' = ix.withFlag ids false) := by
  cases σ with
  | add d withLineage =>
    rcases hg with hsame | ⟨b, hrun⟩
    · exact .inl hsame
    cases hr : ix.record? d.id with
    | none =>
      rw [Index.insertDataset_run_new hr] at hrun
      cases hrun
      exact .inr (.inl ⟨d, withLineage, rfl, hr, rfl⟩)
    | some r =>
      rw [Index.insertDataset_run_stored hr] at hrun
      cases hrun
      exact .inr (.inr (.inl ⟨d, withLineage, r, rfl, hr, rfl⟩))
  | deleteProduct name =>
    rcases hg with hsame | hrun
    · exact .inl hsame
    · exact .inr (.inr (.inr (.inl ⟨name, rfl, Index.removeProduct_run hrun⟩)))
  | archive ids force =>
    rcases hg with hsame | ⟨n, hrun⟩
    · exact .inl hsame
    rw [Index.setArchived_run hd] at hrun
    cases hrun
    exact .inr (.inr (.inr (.inr (.inl ⟨ids, force, rfl, rfl⟩))))
  | restore ids =>
    rcases hg with hsame | ⟨n, hrun⟩
    · exact .inl hsame
    rw [Index.setArchived_run hd] at hrun
    cases hrun
    exact .inr (.inr (.inr (.inr (.inr ⟨ids, rfl, rfl⟩))))

/-- Only a delete changes which products are stored, and only its own. -/
theorem Guarantee.product? (hd : ix.IdsDistinct) (hg : σ.Guarantee ix ix') {n : String}
    (hn : σ.deletesProduct ≠ some n) : ix'.product? n = ix.product? n := by
  rcases hg.cases_write hd with hsame | ⟨d, withLineage, -, -, rfl⟩ | ⟨d, withLineage, r, -, -, rfl⟩ |
    ⟨name, rfl, rfl⟩ | ⟨ids, force, -, rfl⟩ | ⟨ids, -, rfl⟩
  · rw [hsame]
  · rfl
  · rfl
  · exact Index.product?_delete ix fun h => hn (by rw [h]; rfl)
  · rfl
  · rfl

/-- Every request's writes keep the ids distinct. -/
theorem Guarantee.idsDistinct (hd : ix.IdsDistinct) (hg : σ.Guarantee ix ix') : ix'.IdsDistinct := by
  rcases hg.cases_write hd with hsame | ⟨d, withLineage, -, hnew, rfl⟩ | ⟨d, withLineage, r, -, hr, rfl⟩ |
    ⟨name, -, rfl⟩ | ⟨ids, force, -, rfl⟩ | ⟨ids, -, rfl⟩
  · exact hsame ▸ hd
  · exact hd.append (by rwa [DatasetRecord.ofDataset_id])
  · exact hd.setRecord ((DatasetRecord.addLocations_id r _).trans (Index.record?_id hr))
  · exact hd
  · exact hd.withFlag ids true
  · exact hd.withFlag ids false

/-- Every record after a request's step is one from before, with its id,
product and sources, active only if it was or the request restores it; or it
is the record of the dataset the request adds. -/
theorem Guarantee.records (hd : ix.IdsDistinct) (hg : σ.Guarantee ix ix') {r' : DatasetRecord}
    (hr' : r' ∈ ix'.datasets) :
    (∃ r ∈ ix.datasets, r.id = r'.id ∧ r.product = r'.product ∧ r.sources = r'.sources ∧
      (r'.archived = false → r.archived = false ∨ r.id ∈ σ.restored)) ∨
    ∃ d withLineage, σ = add d withLineage ∧ r' = DatasetRecord.ofDataset d withLineage := by
  rcases hg.cases_write hd with hsame | ⟨d, withLineage, rfl, -, rfl⟩ |
    ⟨d, withLineage, r, rfl, hr, rfl⟩ | ⟨name, -, rfl⟩ | ⟨ids, force, rfl, rfl⟩ | ⟨ids, rfl, rfl⟩
  · subst ix'
    exact .inl ⟨r', hr', rfl, rfl, rfl, .inl⟩
  · rcases List.mem_append.1 hr' with hold | hnew
    · exact .inl ⟨r', hold, rfl, rfl, rfl, .inl⟩
    · exact .inr ⟨d, withLineage, rfl, List.mem_singleton.1 hnew⟩
  · -- a merge adds locations only
    obtain ⟨x, hx, rfl⟩ := List.mem_map.1 hr'
    split
    · rw [DatasetRecord.addLocations_eq]
      exact .inl ⟨r, Index.record?_mem hr, rfl, rfl, rfl, .inl⟩
    · exact .inl ⟨x, hx, rfl, rfl, rfl, .inl⟩
  · exact .inl ⟨r', hr', rfl, rfl, rfl, .inl⟩
  · obtain ⟨r, hr, rfl⟩ := Index.mem_withFlag hr'
    refine .inl ⟨r, hr, ?_⟩
    split <;> simp_all
  · obtain ⟨r, hr, rfl⟩ := Index.mem_withFlag hr'
    refine .inl ⟨r, hr, ?_⟩
    split <;> simp_all [restored]

end Request

/-! ### Records name stored products -/

/-- Requests that add datasets of no product another request deletes. -/
def ProductsApart (reqs : List Request) : Prop :=
  ∀ σ ∈ reqs, ∀ τ ∈ reqs, ∀ n, σ.addsProduct = some n → τ.deletesProduct ≠ some n

namespace Index

variable {σ : Request} {ix ix' : Index}

/-- A step keeps the records naming stored products when the dataset it may add
is of a stored product and the product it may delete is named by no record. -/
theorem RecordsResolve.of_guarantee (hres : ix.RecordsResolve) (hd : ix.IdsDistinct)
    (hg : σ.Guarantee ix ix')
    (hadd : ∀ d withLineage, σ = .add d withLineage → (ix.product? d.product.name).isSome)
    (hdel : ∀ name, σ.deletesProduct = some name → ∀ r ∈ ix.datasets, r.product ≠ name) :
    ix'.RecordsResolve := by
  intro r' hr'
  rcases hg.records hd hr' with ⟨r, hr, -, hprod, -, -⟩ | ⟨d, withLineage, rfl, rfl⟩
  · -- the record's product is stored still, since no delete removed it
    have hkept : σ.deletesProduct ≠ some r'.product := fun hname =>
      hdel _ hname r hr hprod
    rw [hg.product? hd hkept, ← hprod]
    exact hres r hr
  · rw [DatasetRecord.ofDataset_product, hg.product? hd (by simp [Request.deletesProduct])]
    exact hadd d withLineage rfl

end Index

namespace Request

variable {ρ σ : Request} {c c' : Client} {ix ix' : Index}

/-- The check a client acts on, holding still: an insert finds its product
stored, and a removal finds no record naming its product. -/
def Stage.productChecked (ix : Index) : ρ.Stage c → Prop
  | @Stage.addInsert d _ => (ix.product? d.product.name).isSome
  | @Stage.deleteRemove name => ∀ r ∈ ix.datasets, r.product ≠ name
  | _ => True

/-- Archives and restores act on no check of products. -/
theorem Stage.productChecked_of_flags (st : ρ.Stage c) (hadd : ρ.addsProduct = none)
    (hdel : ρ.deletesProduct = none) : st.productChecked ix := by
  cases st with
  | addStart | addInsert => cases hadd
  | deleteStart | deleteCount | deleteRemove => cases hdel
  | _ => trivial

/-- Another client's step keeps a client's check when they add and delete
different products. -/
theorem Stage.productChecked_stable (st : ρ.Stage c)
    (hapart : ∀ n, ρ.addsProduct = some n → σ.deletesProduct ≠ some n)
    (hapart' : ∀ n, σ.addsProduct = some n → ρ.deletesProduct ≠ some n)
    (hd : ix.IdsDistinct) (hg : σ.Guarantee ix ix') (h : st.productChecked ix) :
    st.productChecked ix' := by
  cases st with
  | addInsert =>
    show (ix'.product? _).isSome
    rw [hg.product? hd (hapart _ rfl)]
    exact h
  | deleteRemove =>
    intro r' hr'
    rcases hg.records hd hr' with ⟨r, hr, -, hprod, -, -⟩ | ⟨d, withLineage, rfl, rfl⟩
    · rw [← hprod]
      exact h r hr
    · -- the record added is of the adder's product, which this client does not delete
      have hne := hapart' d.product.name rfl
      rw [DatasetRecord.ofDataset_product]
      exact fun heq => hne (by rw [heq]; rfl)
  | _ => trivial

/-- The mover's step keeps the records naming stored products, given the check
its stage acts on. -/
theorem Stage.resolve_advance (st : ρ.Stage c) (h : st.productChecked ix) (hd : ix.IdsDistinct)
    (hres : ix.RecordsResolve) (hadv : c.advance ix = some (ix', c')) : ix'.RecordsResolve := by
  have hg := (st.advance hadv).2
  cases st with
  | addStart => rw [(Client.advance_addDataset hadv).1]; exact hres
  | addInsert =>
    exact hres.of_guarantee hd hg (fun _ _ hadd => by cases hadd; exact h) (fun _ hdel => nomatch hdel)
  | deleteStart => rw [(Client.advance_deleteProduct hadv).1]; exact hres
  | deleteCount => rw [(Client.advance_countThenRemove hadv).1]; exact hres
  | deleteRemove =>
    exact hres.of_guarantee hd hg (fun _ _ hadd => nomatch hadd) (fun _ hdel => by cases hdel; exact h)
  | archiveForced | archiveScan | archiveInspect | restoreStart =>
    exact hres.of_guarantee hd hg (fun _ _ hadd => nomatch hadd) (fun _ hdel => nomatch hdel)
  | finished => simp [Client.advance] at hadv

/-- The mover reaches a stage whose check holds: it inserts only a dataset
whose product it found, and removes only a product whose records it counted
and found none. -/
theorem Stage.productChecked_advance (st : ρ.Stage c) (hadv : c.advance ix = some (ix', c')) :
    ∃ st' : ρ.Stage c', st'.productChecked ix' := by
  obtain ⟨⟨st'⟩, -⟩ := st.advance hadv
  cases st with
  | addStart =>
    obtain ⟨rfl, ⟨hfound, rfl⟩ | ⟨o, rfl⟩⟩ := Client.advance_addDataset hadv
    · exact ⟨.addInsert, hfound⟩
    · exact ⟨.finished o, trivial⟩
  | deleteCount =>
    obtain ⟨rfl, ⟨hnone, rfl⟩ | ⟨o, rfl⟩⟩ := Client.advance_countThenRemove hadv
    · refine ⟨.deleteRemove, fun r hr hname => ?_⟩
      -- no record is counted, so none names the product
      have hempty := List.length_eq_zero_iff.1 hnone
      exact List.filter_eq_nil_iff.1 hempty r hr (by simp [hname])
    · exact ⟨.finished o, trivial⟩
  | addInsert =>
    obtain ⟨-, o, rfl⟩ := Client.advance_insertChecked hadv
    exact ⟨.finished o, trivial⟩
  | deleteStart =>
    obtain ⟨-, rfl | ⟨o, rfl⟩⟩ := Client.advance_deleteProduct hadv
    · exact ⟨.deleteCount, trivial⟩
    · exact ⟨.finished o, trivial⟩
  | deleteRemove =>
    obtain ⟨-, o, rfl⟩ := Client.advance_removeChecked hadv
    exact ⟨.finished o, trivial⟩
  | archiveForced | archiveScan | archiveInspect | restoreStart =>
    exact ⟨st', st'.productChecked_of_flags rfl rfl⟩
  | finished => simp [Client.advance] at hadv

end Request

/-- What keeps the records naming stored products along a run: every client
at a stage of its request, distinct ids, records naming stored products, and
every client's check holding still. -/
structure ProductsSound (reqs : List Request) (s : System) : Prop where
  atStages : s.AtStages reqs
  idsDistinct : s.index.IdsDistinct
  resolve : s.index.RecordsResolve
  checked : ∀ (i : Nat) (ρ : Request) (c : Client), reqs[i]? = some ρ → s.clients[i]? = some c →
    ∃ st : ρ.Stage c, st.productChecked s.index

namespace ProductsSound

variable {reqs : List Request} {s : System}

theorem start {ix : Index} (hd : ix.IdsDistinct) (hres : ix.RecordsResolve) :
    ProductsSound reqs (System.start ix reqs) := by
  refine ⟨System.atStages_start ix reqs, hd, hres, fun i ρ c hρ hc => ?_⟩
  simp only [System.start, List.getElem?_map, hρ, Option.map_some, Option.some.injEq] at hc
  subst hc
  cases ρ with
  | archive ids force => exact ⟨.start _, Request.Stage.productChecked_of_flags _ rfl rfl⟩
  | restore ids => exact ⟨.start _, Request.Stage.productChecked_of_flags _ rfl rfl⟩
  | _ => exact ⟨.start _, trivial⟩

theorem step (hapart : ProductsApart reqs) (hs : ProductsSound reqs s) (i : Nat) :
    ProductsSound reqs (s.step i) := by
  rcases hs.atStages.step_cases i with hsame | ⟨ρ, c, ix', c', hρ, hc, hadv, hg, hstep⟩
  · rw [hsame]
    exact hs
  obtain ⟨st, hst⟩ := hs.checked i ρ c hρ hc
  refine ⟨hs.atStages.step i, hstep ▸ hg.idsDistinct hs.idsDistinct,
    hstep ▸ st.resolve_advance hst hs.idsDistinct hs.resolve hadv, ?_⟩
  -- the mover reaches a stage whose check holds, and the others' checks survive its step
  refine hs.atStages.stagesHold_step (P := @fun _ _ st ix => st.productChecked ix) hs.checked i
    (fun st' _ _ hadv' => st'.productChecked_advance hadv')
    fun st' hτ hσ hg' h' => ?_
  have hσmem := List.mem_of_getElem? hσ
  exact st'.productChecked_stable (fun n h => hapart _ hτ _ hσmem n h)
    (fun n h => hapart _ hσmem _ hτ n h) hs.idsDistinct hg' h'

theorem run (hapart : ProductsApart reqs) {ix : Index} (hd : ix.IdsDistinct)
    (hres : ix.RecordsResolve) (sched : List Nat) :
    ProductsSound reqs ((System.start ix reqs).run sched) :=
  System.run_induction (fun _ i hs => hs.step hapart i) _ sched (start hd hres)

end ProductsSound

/-! ### A checked archive leaves no active derived dataset -/

/-- Requests that add with lineage no source in a checked archive's batch. -/
def LineageApart (reqs : List Request) : Prop :=
  ∀ ρ ∈ reqs, ∀ σ ∈ reqs, ∀ ids, ρ.checkedBatch = some ids → ∀ src ∈ σ.lineage, src.sourceId ∉ ids

/-- No record that a request of `reqs` restores lists, from outside a checked
archive's batch, an id of that batch. -/
def RestoresApart (reqs : List Request) (ix : Index) : Prop :=
  ∀ ρ ∈ reqs, ∀ σ ∈ reqs, ∀ ids, ρ.checkedBatch = some ids → ∀ r ∈ ix.datasets,
    r.id ∈ σ.restored → r.id ∉ ids → ∀ src ∈ r.sources, src.sourceId ∉ ids

namespace Index

variable {σ : Request} {ix ix' : Index} {ids : List Uuid}

/-- No active record outside `ids` lists `id` as a source. -/
def Clear (ix : Index) (ids : List Uuid) (id : Uuid) : Prop :=
  ∀ r ∈ ix.datasets, r.archived = false → r.id ∉ ids → ∀ src ∈ r.sources, src.sourceId ≠ id

theorem not_archiveBlocked_iff : ¬ ix.ArchiveBlocked ids ↔ ∀ id ∈ ids, ix.Clear ids id := by
  simp only [ArchiveBlocked, Clear, not_exists, not_and]
  exact ⟨fun h id hid r hr ha hout src hsrc hsid => h r hr ha hout src hsrc (hsid ▸ hid),
    fun h r hr ha hout src hsrc hsid => h _ hsid r hr ha hout src hsrc rfl⟩

/-- An active record outside `ids` listing an id of `ids` after a step was
such a record before, when the step adds no lineage into `ids` and restores no
such record. -/
theorem derived_of_guarantee (hd : ix.IdsDistinct) (hg : σ.Guarantee ix ix')
    (hlin : ∀ src ∈ σ.lineage, src.sourceId ∉ ids)
    (hres : ∀ r ∈ ix.datasets, r.id ∈ σ.restored → r.id ∉ ids → ∀ src ∈ r.sources, src.sourceId ∉ ids)
    {r' : DatasetRecord} (hr' : r' ∈ ix'.datasets) (hact : r'.archived = false) (hout : r'.id ∉ ids)
    {src : LineageRef} (hsrc : src ∈ r'.sources) (hin : src.sourceId ∈ ids) :
    ∃ r ∈ ix.datasets, r.id = r'.id ∧ r.archived = false ∧ src ∈ r.sources := by
  rcases hg.records hd hr' with ⟨r, hr, hid, -, hsources, hflag⟩ | ⟨d, withLineage, rfl, rfl⟩
  · rcases hflag hact with hactive | hrestored
    · exact ⟨r, hr, hid, hactive, hsources ▸ hsrc⟩
    · exact absurd hin (hres r hr hrestored (hid ▸ hout) src (hsources ▸ hsrc))
  · -- the added record's sources are the lineage it was added with
    cases withLineage
    · simp at hsrc
    · rw [DatasetRecord.ofDataset_sources, if_pos rfl] at hsrc
      exact absurd hin (hlin src hsrc)

/-- A step keeps an id of `ids` clear when it adds no lineage into `ids` and
restores no record derived from `ids` outside it. -/
theorem Clear.of_guarantee {id : Uuid} (h : ix.Clear ids id) (hid : id ∈ ids) (hd : ix.IdsDistinct)
    (hg : σ.Guarantee ix ix') (hlin : ∀ src ∈ σ.lineage, src.sourceId ∉ ids)
    (hres : ∀ r ∈ ix.datasets, r.id ∈ σ.restored → r.id ∉ ids → ∀ src ∈ r.sources, src.sourceId ∉ ids) :
    ix'.Clear ids id := by
  intro r' hr' hact hout src hsrc hsid
  obtain ⟨r, hr, hrid, hactive, hsrc'⟩ :=
    derived_of_guarantee hd hg hlin hres hr' hact hout hsrc (hsid ▸ hid)
  exact h r hr hactive (hrid ▸ hout) src hsrc' hsid

end Index

namespace Request

variable {ρ σ : Request} {c c' : Client} {ix ix' : Index}

/-- The check a checked archive has made so far, holding still: the ids of
its batch scanned have no active derived dataset outside the batch, and the
one being inspected has none outside the batch and the derived ids left. -/
def Stage.checked (ix : Index) : ρ.Stage c → Prop
  | @Stage.archiveScan ids done _ _ => ∀ id ∈ done, ix.Clear ids id
  | @Stage.archiveInspect ids done _ more id _ => (∀ id' ∈ done, ix.Clear ids id') ∧
      ∀ r ∈ ix.datasets, r.archived = false → r.id ∉ ids → (∃ src ∈ r.sources, src.sourceId = id) →
        r.id ∈ more
  | _ => True

theorem Stage.checked_of_unchecked (st : ρ.Stage c) (hρ : ρ.checkedBatch = none) : st.checked ix := by
  cases st with
  | archiveScan | archiveInspect => cases hρ
  | _ => trivial

/-- Another client's step keeps a checked archive's checks, when it adds no
lineage into the batch and restores no dataset derived from it. -/
theorem Stage.checked_stable (st : ρ.Stage c) (hd : ix.IdsDistinct) (hg : σ.Guarantee ix ix')
    (hlin : ∀ ids, ρ.checkedBatch = some ids → ∀ src ∈ σ.lineage, src.sourceId ∉ ids)
    (hres : ∀ ids, ρ.checkedBatch = some ids → ∀ r ∈ ix.datasets, r.id ∈ σ.restored → r.id ∉ ids →
      ∀ src ∈ r.sources, src.sourceId ∉ ids)
    (h : st.checked ix) : st.checked ix' := by
  cases st with
  | archiveScan done rest hsplit =>
    exact fun id hid => (h id hid).of_guarantee (hsplit ▸ List.mem_append_left rest hid) hd hg
      (hlin _ rfl) (hres _ rfl)
  | archiveInspect done hsplit =>
    obtain ⟨hclear, hmore⟩ := h
    refine ⟨fun id' hid' => (hclear id' hid').of_guarantee (hsplit ▸ List.mem_append_left _ hid') hd hg
      (hlin _ rfl) (hres _ rfl), fun r' hr' hact hout ⟨src, hsrc, hsid⟩ => ?_⟩
    · have hin : src.sourceId ∈ _ := hsid ▸ (hsplit ▸ List.mem_append_right _ (List.mem_cons_self ..))
      obtain ⟨r, hr, hrid, hactive, hsrc'⟩ :=
        Index.derived_of_guarantee hd hg (hlin _ rfl) (hres _ rfl) hr' hact hout hsrc hin
      exact hrid ▸ hmore r hr hactive (hrid ▸ hout) ⟨src, hsrc', hsid⟩
  | _ => trivial

/-- The mover's step from scanning a checked archive's batch: it inspects the
datasets derived from the next id, or, when all ids are scanned, flags the
batch, and then no active dataset outside the batch lists one of its ids. -/
theorem Stage.checked_advance_scan {ids done rest : List Uuid} (hsplit : ids = done ++ rest)
    (hd : ix.IdsDistinct) (hclear : ∀ id ∈ done, ix.Clear ids id)
    (hadv : (Client.archiveScan ids rest).advance ix = some (ix', c')) :
    (∃ st' : (archive ids false).Stage c', st'.checked ix') ∧
      ∀ a, c' = .finish (.ok a) → ¬ ix'.ArchiveBlocked ids := by
  cases rest with
  | nil =>
    rcases Client.advance_flagAll hadv with ⟨n, hrun, rfl⟩ | ⟨-, e, rfl⟩
    · refine ⟨⟨.finished _, trivial⟩, fun _ _ => Index.not_archiveBlocked_iff.2 fun id hid => ?_⟩
      -- flagging the batch only archives, so every id stays clear
      rw [List.append_nil] at hsplit
      exact (hclear id (hsplit ▸ hid)).of_guarantee hid hd (σ := archive ids false) (.inr ⟨n, hrun⟩)
        (fun _ h => nomatch h) (fun _ _ h => nomatch h)
    · exact ⟨⟨.finished _, trivial⟩, fun _ h => by cases h⟩
  | cons id rest =>
    obtain ⟨rfl, rfl⟩ := Client.advance_archiveScan_cons hadv
    refine ⟨⟨.archiveInspect done hsplit, hclear, fun r hr _ _ ⟨src, hsrc, hsid⟩ => ?_⟩,
      fun _ h => absurd h (Client.archiveInspect_ne_finish _)⟩
    -- every record listing `id` as a source is among those derived from it
    simp only [Index.derivedIds, List.mem_map, List.mem_filter, List.any_eq_true, beq_iff_eq]
    exact ⟨r, ⟨hr, src, hsrc, hsid⟩, rfl⟩

/-- The mover's step inspecting the datasets derived from one id: one that is
active refuses the archive, and one that is not is no active record. -/
theorem Stage.checked_advance_inspect {ids done rest : List Uuid} {id : Uuid}
    (hsplit : ids = done ++ id :: rest) (hd : ix.IdsDistinct) (hclear : ∀ id' ∈ done, ix.Clear ids id') :
    ∀ more, (∀ r ∈ ix.datasets, r.archived = false → r.id ∉ ids →
        (∃ src ∈ r.sources, src.sourceId = id) → r.id ∈ more) →
      (Client.archiveInspect ids id (.archiveScan ids rest) more).advance ix = some (ix', c') →
      (∃ st' : (archive ids false).Stage c', st'.checked ix') ∧
        ∀ a, c' = .finish (.ok a) → ¬ ix'.ArchiveBlocked ids
  | [], hmore, hadv => by
    -- nothing derived is left to inspect, so `id` is clear as well
    have hid : ix.Clear ids id := fun r hr hact hout src hsrc hsid =>
      nomatch hmore r hr hact hout ⟨src, hsrc, hsid⟩
    refine checked_advance_scan (show ids = (done ++ [id]) ++ rest by simp [hsplit]) hd ?_ hadv
    intro id' hid'
    rcases List.mem_append.1 hid' with hdone | hlast
    · exact hclear id' hdone
    · rw [List.mem_singleton.1 hlast]
      exact hid
  | derived :: more, hmore, hadv => by
    cases hin : ids.contains derived
    · obtain ⟨rfl, ⟨hinactive, rfl⟩ | ⟨e, rfl⟩⟩ := Client.advance_archiveInspect_cons hin hadv
      · refine ⟨⟨.archiveInspect done hsplit, hclear, fun r hr hact hout hder => ?_⟩,
          fun _ h => absurd h (Client.archiveInspect_ne_finish _)⟩
        rcases List.mem_cons.1 (hmore r hr hact hout hder) with hrid | hmem
        · -- the dataset read is archived or missing, so it is not the active `r`
          rw [← hrid, hd.record?_of_mem hr] at hinactive
          simp [hact] at hinactive
        · exact hmem
      · exact ⟨⟨.finished _, trivial⟩, fun _ h => by cases h⟩
    · rw [Client.archiveInspect_cons_of_contains hin] at hadv
      refine checked_advance_inspect hsplit hd hclear more (fun r hr hact hout hder => ?_) hadv
      rcases List.mem_cons.1 (hmore r hr hact hout hder) with hrid | hmem
      · exact absurd (hrid ▸ (by simpa using hin : derived ∈ ids)) hout
      · exact hmem

/-- The mover's step keeps a stage whose checks hold, and a checked archive
that answers leaves no active dataset outside its batch listing one of its ids. -/
theorem Stage.checked_advance (st : ρ.Stage c) (hd : ix.IdsDistinct) (h : st.checked ix)
    (hadv : c.advance ix = some (ix', c')) :
    (∃ st' : ρ.Stage c', st'.checked ix') ∧
      ∀ ids a, ρ.checkedBatch = some ids → c' = .finish (.ok a) → ¬ ix'.ArchiveBlocked ids := by
  obtain ⟨⟨st'⟩, -⟩ := st.advance hadv
  cases st with
  | archiveScan done rest hsplit =>
    obtain ⟨hst, hok⟩ := checked_advance_scan hsplit hd h hadv
    exact ⟨hst, fun ids a hids => by cases hids; exact hok a⟩
  | archiveInspect done hsplit =>
    obtain ⟨hst, hok⟩ := checked_advance_inspect hsplit hd h.1 _ h.2 hadv
    exact ⟨hst, fun ids a hids => by cases hids; exact hok a⟩
  | finished => simp [Client.advance] at hadv
  | _ => exact ⟨⟨st', st'.checked_of_unchecked rfl⟩, fun _ _ h => by cases h⟩

end Request

/-- What keeps checked archives sound along a run: every client at a stage of
its request, distinct ids, no restore of a dataset derived from a checked
batch, and every checked archive's checks holding still. -/
structure ChecksSound (reqs : List Request) (s : System) : Prop where
  atStages : s.AtStages reqs
  idsDistinct : s.index.IdsDistinct
  restores : RestoresApart reqs s.index
  checked : ∀ (i : Nat) (ρ : Request) (c : Client), reqs[i]? = some ρ → s.clients[i]? = some c →
    ∃ st : ρ.Stage c, st.checked s.index

/-- A step of a request keeps the restores apart from the checked batches, when
the datasets it adds list no id of a checked batch. -/
theorem RestoresApart.of_guarantee {reqs : List Request} {σ : Request} {ix ix' : Index}
    (hlin : LineageApart reqs) (hσ : σ ∈ reqs) (hd : ix.IdsDistinct) (hres : RestoresApart reqs ix)
    (hg : σ.Guarantee ix ix') : RestoresApart reqs ix' := by
  intro ρ hρ τ hτ ids hids r' hr' hrest hout src hsrc
  rcases hg.records hd hr' with ⟨r, hr, hid, -, hsources, -⟩ | ⟨d, withLineage, rfl, rfl⟩
  · exact hres ρ hρ τ hτ ids hids r hr (hid ▸ hrest) (hid ▸ hout) src (hsources ▸ hsrc)
  · -- a new record's sources are its adder's lineage
    cases withLineage
    · simp at hsrc
    · rw [DatasetRecord.ofDataset_sources, if_pos rfl] at hsrc
      exact hlin ρ hρ _ hσ ids hids src hsrc

namespace ChecksSound

variable {reqs : List Request} {s : System}

theorem start {ix : Index} (hd : ix.IdsDistinct) (hres : RestoresApart reqs ix) :
    ChecksSound reqs (System.start ix reqs) := by
  refine ⟨System.atStages_start ix reqs, hd, hres, fun i ρ c hρ hc => ?_⟩
  simp only [System.start, List.getElem?_map, hρ, Option.map_some, Option.some.injEq] at hc
  subst hc
  -- a checked archive starts with nothing scanned
  cases ρ with
  | archive ids force =>
    cases force
    · exact ⟨.start _, fun _ h => by cases h⟩
    · exact ⟨.start _, trivial⟩
  | _ => exact ⟨.start _, trivial⟩

theorem step (hlin : LineageApart reqs) (hs : ChecksSound reqs s) (i : Nat) :
    ChecksSound reqs (s.step i) := by
  rcases hs.atStages.step_cases i with hsame | ⟨ρ, c, ix', c', hρ, hc, hadv, hg, hstep⟩
  · rw [hsame]
    exact hs
  refine ⟨hs.atStages.step i, hstep ▸ hg.idsDistinct hs.idsDistinct,
    hstep ▸ hs.restores.of_guarantee hlin (List.mem_of_getElem? hρ) hs.idsDistinct hg, ?_⟩
  -- the mover keeps a stage whose checks hold, and the others' checks survive its step
  refine hs.atStages.stagesHold_step (P := @fun _ _ st ix => st.checked ix) hs.checked i
    (fun st' _ hst' hadv' => (st'.checked_advance hs.idsDistinct hst' hadv').1) fun st' hτ hσ hg' h' => ?_
  have hσmem := List.mem_of_getElem? hσ
  exact st'.checked_stable hs.idsDistinct hg' (fun ids hids => hlin _ hτ _ hσmem ids hids)
    (fun ids hids => hs.restores _ hτ _ hσmem ids hids) h'

theorem run (hlin : LineageApart reqs) {ix : Index} (hd : ix.IdsDistinct)
    (hres : RestoresApart reqs ix) (sched : List Nat) :
    ChecksSound reqs ((System.start ix reqs).run sched) :=
  System.run_induction (fun _ i hs => hs.step hlin i) _ sched (start hd hres)

end ChecksSound

end Geocube
