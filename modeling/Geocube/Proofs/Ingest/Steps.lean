import Geocube.Proofs.Ingest.Report
import Geocube.Proofs.Catalog.IndexOps
import Geocube.Proofs.Catalog.Locations

/-!
# One step of a batch

What each step of `indexDocuments` does, one lemma per branch: writing a
dataset (`writeOutcome`, `writeEntry`, `BatchState.write`), settling an entry in
or below a lineage cycle, and settling an ordered entry once its sources are
checked. Later proofs rewrite with these and never unfold a step.

Two facts about the index carry the rest. Adding a dataset of a stored
product succeeds, says whether its id is new, and leaves the index holding the
ids it held and the new one (`Index.addDataset_run_has`). Checking sources
passes exactly when none failed in the batch and each is accepted or indexed
(`verifySources_eq_ok`), and reads the index only for the ids not accepted
(`verifySources_congr`).
-/

namespace Geocube

namespace DatasetRecord


end DatasetRecord

namespace Index

open IndexOp

/-- An index holds an id when one of its records has it. -/
theorem has_iff (ix : Index) (x : Uuid) : ix.has x = true ↔ x ∈ ix.datasets.map (·.id) := by
  simp only [has, record?, List.find?_isSome, List.mem_map, beq_iff_eq]

/-- Changing a record without changing its id keeps the ids an index holds. -/
theorem modifyRecord_run {α : Type} {id : Uuid} {f : DatasetRecord → DatasetRecord × α}
    {ix ix' : Index} {a : α} (hf : ∀ r, (f r).1.id = r.id)
    (h : (modifyRecord id f).run ix = .ok (a, ix')) :
    ix.has id = true ∧ (∀ x, ix'.has x = ix.has x) ∧ ix'.products = ix.products ∧
      ∃ r, ix.record? id = some r ∧ a = (f r).2 := by
  simp only [modifyRecord, StateT.run_bind, StateT.run_get, Except.bind_eq_ok,
    Except.pure_eq_ok] at h
  obtain ⟨_, rfl, h⟩ := h
  split at h
  · rename_i r hr
    simp only [StateT.run_bind, StateT.run_set, Except.bind_eq_ok, Except.pure_eq_ok,
      StateT.run_pure] at h
    obtain ⟨_, rfl, h⟩ := h
    obtain ⟨rfl, rfl⟩ := Prod.mk.inj h.symm
    -- the changed record keeps the id it was found by
    have hid : r.id = id := by simpa using List.find?_some hr
    refine ⟨by simp [has, hr], fun x => ?_, rfl, r, hr, rfl⟩
    rw [Bool.eq_iff_iff, has_iff, has_iff, List.map_map]
    refine Eq.to_iff (congrArg (x ∈ ·) (List.map_congr_left fun y _ => ?_))
    simp only [Function.comp_apply]
    split
    · rename_i hy
      rw [hf, hid, beq_iff_eq.1 hy]
    · rfl
  · rw [run_throw] at h
    cases h

/-- Adding a dataset says whether its id is new, and leaves the index holding
the ids it held and the new one, with the same products. -/
theorem addDataset_run_has {d : Dataset} {withLineage b : Bool} {ix ix' : Index}
    (h : (addDataset d withLineage).run ix = .ok (b, ix')) :
    b = !ix.has d.id ∧ (∀ x, ix'.has x = (ix.has x || x == d.id)) ∧ ix'.products = ix.products := by
  simp only [addDataset, StateT.run_bind, StateT.run_get, Except.bind_eq_ok] at h
  obtain ⟨⟨q, s⟩, hget, _, hs, h⟩ := h
  obtain ⟨-, rfl⟩ := getProduct_run hget
  simp only [Except.pure_eq_ok] at hs
  subst hs
  split at h
  · obtain ⟨hhas, hkeep, hprod, _, -, rfl⟩ := modifyRecord_run (fun r => r.addLocations_id d.uris) h
    refine ⟨by rw [hhas]; rfl, fun x => ?_, hprod⟩
    rw [hkeep]
    by_cases hx : x = d.id
    · subst hx
      simp [hhas]
    · simp [hx]
  · rename_i hnone
    simp only [StateT.run_bind, StateT.run_set, Except.bind_eq_ok, StateT.run_pure,
      Except.pure_eq_ok, Prod.mk.injEq] at h
    obtain ⟨_, rfl, rfl, rfl⟩ := h
    refine ⟨by simp [has, hnone], fun x => ?_, rfl⟩
    rw [Bool.eq_iff_iff, has_iff, Bool.or_eq_true, has_iff, beq_iff_eq]
    simp [DatasetRecord.ofDataset_id, eq_comm]

/-- Adding a dataset of a stored product succeeds. -/
theorem addDataset_run_ok {d : Dataset} (withLineage : Bool) {ix : Index}
    (hp : (ix.product? d.product.name).isSome) : ∃ b ix', (addDataset d withLineage).run ix = .ok (b, ix') := by
  obtain ⟨q, hq⟩ := Option.isSome_iff_exists.1 hp
  cases hr : ix.record? d.id with
  -- the index the run leaves is whatever the run computes; only success matters
  | some r => exact ⟨false, _, by simp [addDataset, getProduct, modifyRecord, hq, hr]; rfl⟩
  | none => exact ⟨true, _, by simp [addDataset, getProduct, hq, hr]; rfl⟩

end Index

/-! ### Binding -/

theorem matchProduct_mem {products : List Product} {doc : Document} {explicit : Option String}
    {ignore : Bool} {p : Product} (h : matchProduct products doc explicit ignore = .ok p) :
    p ∈ products := by
  unfold matchProduct at h
  split at h
  · split at h
    · cases h
    · rename_i q hq
      split at h
      · cases h
      · cases h
        exact List.mem_of_find?_eq_some hq
  · split at h
    · cases h
    · rename_i q hq
      cases h
      exact List.mem_of_mem_filter (hq ▸ List.mem_singleton_self _)
    · cases h

theorem Dataset.new_product {p : Product} {doc : Document} {uris : List String} {d : Dataset}
    (h : Dataset.new p doc uris = .ok d) : d.product = p := by
  simp only [Dataset.new, Except.bind_eq_ok, Except.pure_eq_ok] at h
  obtain ⟨_, -, _, -, _, -, rfl⟩ := h
  rfl

/-- A document is bound to one of the products it is matched against. -/
theorem prepare_product {products : List Product} {src : SourceDocument} {o : IngestOptions}
    {d : Dataset} (h : prepare products src o = .ok d) : d.product ∈ products := by
  unfold prepare at h
  split at h
  · simp only [Except.bind_eq_ok, Except.mapError_eq_ok] at h
    obtain ⟨p, hp, hd⟩ := h
    rw [Dataset.new_product hd]
    exact matchProduct_mem hp
  · cases h

/-- The dataset of a bound entry names a product stored under its name. -/
theorem Index.product?_of_prepared {ix : Index} {src : SourceDocument} {o : IngestOptions}
    {d : Dataset} (h : prepare ix.products src o = .ok d) : (ix.product? d.product.name).isSome := by
  rw [Index.product?, List.find?_isSome]
  exact ⟨d.product, prepare_product h, beq_self_eq_true _⟩

/-! ### Writing -/

theorem writeOutcome_dry {o : IngestOptions} (hd : o.dryRun = true) (ix : Index) (d : Dataset) :
    writeOutcome o ix d = .ok (!ix.has d.id, ix) := by
  simp [writeOutcome, hd]

/-- Writing a dataset of a stored product succeeds, says whether its id is new,
and leaves the index holding the ids it held and the new one. -/
theorem writeOutcome_real {o : IngestOptions} (hd : o.dryRun = false) {ix : Index} {d : Dataset}
    (hp : (ix.product? d.product.name).isSome) :
    ∃ ix', writeOutcome o ix d = .ok (!ix.has d.id, ix') ∧
      (∀ x, ix'.has x = (ix.has x || x == d.id)) ∧ ix'.products = ix.products := by
  obtain ⟨b, ix', hrun⟩ := Index.addDataset_run_ok o.withLineage hp
  obtain ⟨rfl, hhas, hprod⟩ := Index.addDataset_run_has hrun
  exact ⟨ix', by simp [writeOutcome, hd, hrun], hhas, hprod⟩

/-- A real write that succeeds says whether the id is new, and leaves the index
holding the ids it held and the new one. -/
theorem writeOutcome_real_has {o : IngestOptions} (hd : o.dryRun = false) {ix ix' : Index}
    {d : Dataset} {b : Bool} (h : writeOutcome o ix d = .ok (b, ix')) :
    b = !ix.has d.id ∧ (∀ x, ix'.has x = (ix.has x || x == d.id)) ∧ ix'.products = ix.products := by
  simp only [writeOutcome, hd, Bool.false_eq_true, if_false] at h
  exact Index.addDataset_run_has h

/-- The outcome of a successful write: indexed when the dataset is new, else
existing. -/
def Outcome.written (isNew : Bool) (id : Uuid) : Outcome :=
  if isNew then .indexed id else .existing id

theorem writeEntry_ok {o : IngestOptions} {st : BatchState} {e : Prepared} {b : Bool} {ix : Index}
    (h : writeOutcome o st.index e.dataset = .ok (b, ix)) :
    writeEntry o st e =
      ({ st with index := ix, report := st.report.add (.written b e.dataset.id) }, true) := by
  unfold writeEntry
  rw [h]
  cases b <;> rfl

theorem writeEntry_error {o : IngestOptions} {st : BatchState} {e : Prepared} {err : CatalogError}
    (h : writeOutcome o st.index e.dataset = .error err) :
    writeEntry o st e =
      ({ st with report := st.report.fail e.uri (some e.dataset.id) (.catalog err) }, false) := by
  unfold writeEntry
  rw [h]

namespace BatchState

variable {o : IngestOptions} {st : BatchState} {e : Prepared}

theorem write_ok {b : Bool} {ix : Index} (h : writeOutcome o st.index e.dataset = .ok (b, ix)) :
    st.write o e =
      { st with index := ix, report := st.report.add (.written b e.dataset.id),
                accepted := st.accepted ++ [e.dataset.id] } := by
  rw [write, writeEntry_ok h]
  rfl

theorem write_error {err : CatalogError} (h : writeOutcome o st.index e.dataset = .error err) :
    st.write o e =
      { st with report := st.report.fail e.uri (some e.dataset.id) (.catalog err),
                failed := st.failed ++ [e.dataset.id] } := by
  rw [write, writeEntry_error h]
  rfl

theorem writeCyclic_verified (hv : o.verifyLineage = true) :
    st.writeCyclic o e =
      { st with report := st.report.fail e.uri (some e.dataset.id) (.lineageCycle e.dataset.id) } := by
  rw [writeCyclic, if_pos hv]

theorem writeCyclic_unverified (hv : o.verifyLineage = false) :
    st.writeCyclic o e = (writeEntry o st e).1 := by
  rw [writeCyclic, if_neg (by simp [hv])]

theorem writeOrdered_rejected {err : IngestionError} (hv : o.verifyLineage = true)
    (h : verifySources st.index e.dataset st.accepted st.failed = .error err) :
    st.writeOrdered o e =
      { st with failed := st.failed ++ [e.dataset.id],
                report := st.report.fail e.uri (some e.dataset.id) err } := by
  rw [writeOrdered, if_pos hv, h]

theorem writeOrdered_checked (hv : o.verifyLineage = true)
    (h : verifySources st.index e.dataset st.accepted st.failed = .ok ()) :
    st.writeOrdered o e = st.write o e := by
  rw [writeOrdered, if_pos hv, h]

theorem writeOrdered_unverified (hv : o.verifyLineage = false) : st.writeOrdered o e = st.write o e := by
  rw [writeOrdered, if_neg (by simp [hv])]

/-- A step that verifies lineage either fails its entry, recording a failure
that names it and making its id a failed one, or finds its sources sound and
writes it. -/
theorem writeOrdered_cases (hv : o.verifyLineage = true) :
    (∃ f : FailedDocument, f.datasetId = some e.dataset.id ∧
      st.writeOrdered o e =
        { st with report := st.report.add (.failed f), failed := st.failed ++ [e.dataset.id] }) ∨
    (∃ b ix, verifySources st.index e.dataset st.accepted st.failed = .ok () ∧
      writeOutcome o st.index e.dataset = .ok (b, ix) ∧
      st.writeOrdered o e =
        { st with index := ix, report := st.report.add (.written b e.dataset.id),
                  accepted := st.accepted ++ [e.dataset.id] }) := by
  cases hver : verifySources st.index e.dataset st.accepted st.failed with
  | error err => exact .inl ⟨_, rfl, by rw [writeOrdered_rejected hv hver]; rfl⟩
  | ok u =>
    rw [writeOrdered_checked hv hver]
    cases hout : writeOutcome o st.index e.dataset with
    | error err => exact .inl ⟨_, rfl, write_error hout⟩
    | ok r =>
      obtain ⟨b, ix⟩ := r
      exact .inr ⟨b, ix, rfl, rfl, write_ok hout⟩

end BatchState

/-! ### Checking sources -/

section Sources

variable {d : Dataset} {accepted failed : List Uuid}

/-- The look-up list grows by each source not accepted and not yet in it, and
the loop stops at the first source that failed in the batch. -/
theorem unresolvedSources_loop :
    ∀ (l : List LineageRef) (u₀ u : List Uuid),
      (l.foldlM (fun unresolved s =>
        if failed.contains s.sourceId then throw (IngestionError.sourceFailed d.id s.sourceId)
        else if !accepted.contains s.sourceId && !unresolved.contains s.sourceId then
          pure (unresolved ++ [s.sourceId])
        else pure unresolved) u₀ : Except IngestionError (List Uuid)) = .ok u →
      (∀ s ∈ l, s.sourceId ∉ failed) ∧ ∀ x, x ∈ u ↔ x ∈ u₀ ∨ (x ∈ l.map (·.sourceId) ∧ x ∉ accepted)
  | [], u₀, u, h => by
    simp only [List.foldlM_nil, Except.pure_eq_ok] at h
    subst h
    simp
  | s :: l, u₀, u, h => by
    rw [List.foldlM_cons, Except.bind_eq_ok] at h
    obtain ⟨u₁, hstep, hrest⟩ := h
    obtain ⟨hnot, hmem⟩ := unresolvedSources_loop l u₁ u hrest
    -- the step itself: fail, grow, or keep
    have hfail : s.sourceId ∉ failed := by
      intro hin
      simp [hin] at hstep
    have hgrow : ∀ x, x ∈ u₁ ↔ x ∈ u₀ ∨ (x = s.sourceId ∧ x ∉ accepted) := by
      intro x
      simp only [List.contains_eq_mem, hfail, decide_false, Bool.false_eq_true, if_false,
        Bool.and_eq_true, Bool.not_eq_true', decide_eq_false_iff_not] at hstep
      split at hstep
      · rename_i hnew
        simp only [Except.pure_eq_ok] at hstep
        subst hstep
        simp only [List.mem_append, List.mem_singleton]
        constructor
        · rintro (h | rfl)
          · exact .inl h
          · exact .inr ⟨rfl, hnew.1⟩
        · rintro (h | ⟨rfl, -⟩)
          · exact .inl h
          · exact .inr rfl
      · rename_i hold
        simp only [Except.pure_eq_ok] at hstep
        subst hstep
        constructor
        · exact .inl
        · rintro (h | ⟨rfl, hacc⟩)
          · exact h
          · by_contra hx
            exact hold ⟨hacc, hx⟩
    refine ⟨fun s' hs' => ?_, fun x => ?_⟩
    · rcases List.mem_cons.1 hs' with rfl | hs'
      · exact hfail
      · exact hnot s' hs'
    · rw [hmem, hgrow, List.map_cons, List.mem_cons]
      tauto

theorem unresolvedSources_eq_ok {u : List Uuid} (h : unresolvedSources d accepted failed = .ok u) :
    (∀ x ∈ d.sourceIds, x ∉ failed) ∧ ∀ x, x ∈ u ↔ x ∈ d.sourceIds ∧ x ∉ accepted := by
  obtain ⟨hnot, hmem⟩ := unresolvedSources_loop d.sources [] u h
  refine ⟨fun x hx => ?_, fun x => by simpa [Dataset.sourceIds] using hmem x⟩
  obtain ⟨s, hs, rfl⟩ := List.mem_map.1 hx
  exact hnot s hs

/-- Sources pass the check only when none failed in the batch and each is
accepted in it or indexed. -/
theorem verifySources_eq_ok {ix : Index} (h : verifySources ix d accepted failed = .ok ()) :
    ∀ x ∈ d.sourceIds, x ∉ failed ∧ (x ∈ accepted ∨ ix.has x = true) := by
  simp only [verifySources, Except.bind_eq_ok] at h
  obtain ⟨u, hu, h⟩ := h
  obtain ⟨hnot, hmem⟩ := unresolvedSources_eq_ok hu
  -- nothing left to look up is missing from the index
  have hfound : ∀ x ∈ u, ix.has x = true := by
    intro x hx
    split at h
    · simp at h
    · rename_i hempty
      by_contra hno
      have : x ∈ u.filter (!ix.has ·) := List.mem_filter.2 ⟨hx, by simpa using hno⟩
      simp_all
  intro x hx
  refine ⟨hnot x hx, ?_⟩
  by_cases hacc : x ∈ accepted
  · exact .inl hacc
  · exact .inr (hfound x ((hmem x).2 ⟨hx, hacc⟩))

/-- The check reads the index only for the sources not accepted in the batch. -/
theorem verifySources_congr {ix ix' : Index} (h : ∀ x, x ∉ accepted → ix.has x = ix'.has x) :
    verifySources ix d accepted failed = verifySources ix' d accepted failed := by
  unfold verifySources
  cases hu : unresolvedSources d accepted failed with
  | error err => rfl
  | ok u =>
    have hsame : u.filter (!ix.has ·) = u.filter (!ix'.has ·) :=
      List.filter_congr fun x hx => by rw [h x ((unresolvedSources_eq_ok hu).2 x |>.1 hx).2]
    dsimp only [bind, Except.bind]
    rw [hsame]

end Sources

end Geocube
