import Geocube.Proofs.Ingest.Steps
import Geocube.Proofs.Catalog.Reachable

/-!
# Lineage safety of verified batches

When a batch verifies lineage and writes for real, a dataset is written only
after its sources: at the moment it is written each of its source ids is in the
index, and no entry of the batch that failed before it carries one of them.
The entries in or below a lineage cycle all fail and write nothing. The main
statement is `verified_batch_writes_after_sources`.

Two invariants of the states the ordered entries meet carry the first part:
every id the report lists as failed is among the ids sources are checked
against, and every accepted id is in the index (`BatchState.Guarded`).

For batches whose entries have distinct ids, a failure also reaches every
entry derived from it, directly or through other entries (`DerivesFrom`): the
ordered entries come after the in-batch entries their sources name, so when an
entry is checked each of its in-batch sources is settled
(`BatchState.Propagates`). A batch that repeats an id can write a dataset and
only then fail another entry with its source's id, since the ordered part
takes an id as placed once its first entry is.
-/

namespace Geocube

namespace IngestionReport

/-- The dataset ids the report lists as failed. -/
def failedIds (r : IngestionReport) : List Uuid := r.failed.filterMap (·.datasetId)

@[simp] theorem failedIds_add_failed (r : IngestionReport) (f : FailedDocument) :
    (r.add (.failed f)).failedIds = r.failedIds ++ f.datasetId.toList := by
  cases h : f.datasetId <;> simp [failedIds, add, h]

@[simp] theorem failedIds_add_written (r : IngestionReport) (b : Bool) (id : Uuid) :
    (r.add (.written b id)).failedIds = r.failedIds := by
  cases b <;> rfl

/-- The step from `r` to `r'` reports the dataset `id` as written: newly
indexed, or indexed already. -/
def Writes (r r' : IngestionReport) (id : Uuid) : Prop := ∃ b, r' = r.add (.written b id)

theorem not_writes_add_failed (r : IngestionReport) (f : FailedDocument) (id : Uuid) :
    ¬ r.Writes (r.add (.failed f)) id := by
  rintro ⟨b, h⟩
  have hlen := congrArg (fun r => r.failed.length) h
  cases b <;> simp [add, Outcome.written] at hlen

/-- Every failed id that an entry of `done` names as a source made that entry
fail too. -/
def Propagated (r : IngestionReport) (done : List Prepared) : Prop :=
  ∀ x ∈ r.failedIds, ∀ e ∈ done, x ∈ e.dataset.sourceIds → e.dataset.id ∈ r.failedIds

end IngestionReport

/-- The entries of a batch derived from the dataset `x`: those that name it as
a source, and those that name an entry derived from it. -/
inductive DerivesFrom (es : List Prepared) (x : Uuid) : Prepared → Prop
  | source {e : Prepared} : e ∈ es → x ∈ e.dataset.sourceIds → DerivesFrom es x e
  | derived {d e : Prepared} : DerivesFrom es x d → e ∈ es → d.dataset.id ∈ e.dataset.sourceIds →
      DerivesFrom es x e

/-- A failure that reaches each entry naming it reaches every entry derived
from it. -/
theorem IngestionReport.Propagated.derivesFrom {r : IngestionReport} {es : List Prepared}
    {x : Uuid} {e : Prepared} (h : r.Propagated es) (hx : x ∈ r.failedIds) (hd : DerivesFrom es x e) :
    e.dataset.id ∈ r.failedIds := by
  induction hd with
  | source he hsrc => exact h x hx _ he hsrc
  | derived _ he hsrc ih => exact h _ ih _ he hsrc

namespace BatchState

variable {o : IngestOptions} {st : BatchState} {e : Prepared}

/-! ### Entries in or below a cycle -/

/-- The report after failing the entries `es` as in or below a cycle. -/
def failCycle (r : IngestionReport) (es : List Prepared) : IngestionReport :=
  es.foldl (fun r e => r.fail e.uri (some e.dataset.id) (.lineageCycle e.dataset.id)) r

theorem failedIds_failCycle : ∀ (r : IngestionReport) (es : List Prepared),
    (failCycle r es).failedIds = r.failedIds ++ es.map (·.dataset.id)
  | _, [] => by simp [failCycle]
  | r, e :: es => by
    rw [failCycle, List.foldl_cons, ← failCycle, failedIds_failCycle, IngestionReport.fail,
      IngestionReport.failedIds_add_failed]
    simp

/-- Entries in or below a cycle all fail when lineage is verified, and change
nothing but the report. -/
theorem foldl_writeCyclic_verified (hv : o.verifyLineage = true) :
    ∀ (es : List Prepared) (st : BatchState),
      es.foldl (writeCyclic o) st = { st with report := failCycle st.report es }
  | [], _ => rfl
  | e :: es, st => by
    rw [List.foldl_cons, writeCyclic_verified hv, foldl_writeCyclic_verified hv es]
    rfl

/-! ### Writing after the sources -/

/-- What a verified batch keeps while it writes for real: each id its report
lists as failed is one its sources are checked against, and each id it
accepted is in the index. -/
structure Guarded (st : BatchState) : Prop where
  failed : ∀ x ∈ st.report.failedIds, x ∈ st.failed
  accepted : ∀ x ∈ st.accepted, st.index.has x = true

theorem Guarded.writeOrdered (hv : o.verifyLineage = true) (hd : o.dryRun = false)
    (h : st.Guarded) : (st.writeOrdered o e).Guarded := by
  rcases @writeOrdered_cases o st e hv with ⟨f, hf, heq⟩ | ⟨b, ix, -, hout, heq⟩
  · rw [heq]
    refine ⟨fun x hx => ?_, h.accepted⟩
    simp only [IngestionReport.failedIds_add_failed, hf, Option.toList_some, List.mem_append,
      List.mem_singleton] at hx ⊢
    exact hx.imp_left (h.failed x)
  · -- a real write keeps every id indexed and adds the new one
    obtain ⟨-, hhas, -⟩ := writeOutcome_real_has hd hout
    rw [heq]
    refine ⟨fun x hx => h.failed x (by simpa using hx), fun x hx => ?_⟩
    rw [hhas]
    rcases List.mem_append.1 hx with hx | hx
    · simp [h.accepted x hx]
    · simp [List.mem_singleton.1 hx]

/-- An entry written from a guarded state has each source in the index, and no
entry that failed before it carries one of its sources. -/
theorem Guarded.sources_of_writes (hv : o.verifyLineage = true) (h : st.Guarded)
    (hw : st.report.Writes (st.writeOrdered o e).report e.dataset.id) :
    ∀ x ∈ e.dataset.sourceIds, st.index.has x = true ∧ x ∉ st.report.failedIds := by
  rcases @writeOrdered_cases o st e hv with ⟨f, -, heq⟩ | ⟨b, ix, hver, -, -⟩
  · rw [heq] at hw
    exact absurd hw (IngestionReport.not_writes_add_failed _ _ _)
  · intro x hx
    obtain ⟨hnot, hin⟩ := verifySources_eq_ok hver x hx
    exact ⟨hin.elim (h.accepted x) id, fun hf => hnot (h.failed x hf)⟩

/-! ### Failures reach what derives from them -/

/-- A verified batch after the entries `done`, with `rest` to come: every id
the report lists as failed is one sources are checked against, every failure
reached the entries of `done` naming it, and an entry of `done` that names an
entry still to come has failed. -/
structure Propagates (st : BatchState) (done rest : List Prepared) : Prop where
  failed : ∀ x ∈ st.report.failedIds, x ∈ st.failed
  propagated : st.report.Propagated done
  early : ∀ e ∈ done, ∀ x ∈ e.dataset.sourceIds, x ∈ rest.map (·.dataset.id) →
    e.dataset.id ∈ st.report.failedIds

/-- An entry that fails joins the failed ids, so the failure reaches the
entries before it that name it. -/
theorem Propagates.fail {done rest : List Prepared} (h : st.Propagates done (e :: rest))
    {f : FailedDocument} (hf : f.datasetId = some e.dataset.id) :
    Propagates { st with report := st.report.add (.failed f), failed := st.failed ++ [e.dataset.id] }
      (done ++ [e]) rest := by
  have hids : (st.report.add (.failed f)).failedIds = st.report.failedIds ++ [e.dataset.id] := by
    rw [IngestionReport.failedIds_add_failed, hf]
    rfl
  refine ⟨fun x hx => ?_, fun x hx e' he' hsrc' => ?_, fun e' he' x hsrc' hx => ?_⟩
  · rw [hids] at hx
    exact List.mem_append.2 ((List.mem_append.1 hx).imp_left (h.failed x))
  · rw [hids] at hx ⊢
    rcases List.mem_append.1 he' with he' | he'
    · rcases List.mem_append.1 hx with hx | hx
      · exact List.mem_append_left _ (h.propagated x hx e' he' hsrc')
      · -- an earlier entry naming this one is in or below a cycle, and failed
        rw [List.mem_singleton.1 hx] at hsrc'
        exact List.mem_append_left _ (h.early e' he' _ hsrc' List.mem_cons_self)
    · rw [List.mem_singleton.1 he']
      exact List.mem_append_right _ List.mem_cons_self
  · rw [hids]
    rcases List.mem_append.1 he' with he' | he'
    · exact List.mem_append_left _ (h.early e' he' x hsrc' (List.mem_cons_of_mem _ hx))
    · rw [List.mem_singleton.1 he']
      exact List.mem_append_right _ List.mem_cons_self

/-- An entry written after its sources passed the check names no failed id,
and no entry still to come, once its in-batch sources were placed before it
and the ids are distinct. -/
theorem Propagates.written {done rest : List Prepared} {inBatch : List Uuid}
    (h : st.Propagates done (e :: rest))
    (hver : verifySources st.index e.dataset st.accepted st.failed = .ok ())
    (hsrc : ∀ x ∈ e.dataset.sourceIds, x ∈ inBatch → x ∈ done.map (·.dataset.id))
    (hin : ∀ e' ∈ rest, e'.dataset.id ∈ inBatch)
    (hnodup : ((done ++ e :: rest).map (·.dataset.id)).Nodup) (b : Bool) (ix : Index) :
    Propagates { st with index := ix, report := st.report.add (.written b e.dataset.id),
                         accepted := st.accepted ++ [e.dataset.id] } (done ++ [e]) rest := by
  have hids := IngestionReport.failedIds_add_written st.report b e.dataset.id
  have hclean := verifySources_eq_ok hver
  refine ⟨fun x hx => h.failed x (hids ▸ hx), fun x hx e' he' hsrc' => ?_,
    fun e' he' x hsrc' hx => ?_⟩
  · rw [hids] at hx ⊢
    rcases List.mem_append.1 he' with he' | he'
    · exact h.propagated x hx e' he' hsrc'
    · rw [List.mem_singleton.1 he'] at hsrc'
      exact absurd (h.failed x hx) (hclean x hsrc').1
  · rw [hids]
    rcases List.mem_append.1 he' with he' | he'
    · exact h.early e' he' x hsrc' (List.mem_cons_of_mem _ hx)
    · -- its in-batch sources were placed before it, so none is still to come
      rw [List.mem_singleton.1 he'] at hsrc'
      obtain ⟨e'', he'', rfl⟩ := List.mem_map.1 hx
      have hdone := hsrc _ hsrc' (hin e'' he'')
      rw [List.map_append, List.nodup_append] at hnodup
      exact absurd rfl (hnodup.2.2 _ hdone _ (List.mem_cons_of_mem _ (List.mem_map_of_mem he'')))

theorem Propagates.writeOrdered (hv : o.verifyLineage = true) {done rest : List Prepared}
    {inBatch : List Uuid} (h : st.Propagates done (e :: rest))
    (hsrc : ∀ x ∈ e.dataset.sourceIds, x ∈ inBatch → x ∈ done.map (·.dataset.id))
    (hin : ∀ e' ∈ rest, e'.dataset.id ∈ inBatch)
    (hnodup : ((done ++ e :: rest).map (·.dataset.id)).Nodup) :
    (st.writeOrdered o e).Propagates (done ++ [e]) rest := by
  rcases @writeOrdered_cases o st e hv with ⟨f, hf, heq⟩ | ⟨b, ix, hver, -, heq⟩
  · rw [heq]
    exact h.fail hf
  · rw [heq]
    exact h.written hver hsrc hin hnodup b ix

/-- Writing the ordered entries keeps the failures reaching what names them,
through to the last entry. -/
theorem Propagates.foldl (hv : o.verifyLineage = true) {inBatch : List Uuid} :
    ∀ (rest done : List Prepared) (placed : List Uuid) (st : BatchState),
      st.Propagates done rest → SourcesFirst inBatch placed rest →
      (∀ x ∈ placed, x ∈ done.map (·.dataset.id)) → (∀ e ∈ rest, e.dataset.id ∈ inBatch) →
      ((done ++ rest).map (·.dataset.id)).Nodup →
      (rest.foldl (BatchState.writeOrdered o) st).report.Propagated (done ++ rest)
  | [], done, _, _, h, _, _, _, _ => by simpa using h.propagated
  | e :: rest, done, placed, st, h, ⟨hsrc, hfirst⟩, hplaced, hin, hnodup => by
    rw [List.foldl_cons]
    have hstep := h.writeOrdered hv (fun x hx hx' => hplaced x (hsrc x hx hx'))
      (fun e' he' => hin e' (List.mem_cons_of_mem _ he')) hnodup
    have hrest := Propagates.foldl hv rest (done ++ [e]) (placed ++ [e.dataset.id]) _ hstep hfirst
      (fun x hx => by
        rcases List.mem_append.1 hx with hx | hx
        · exact List.mem_map.2 ((List.mem_map.1 (hplaced x hx)).imp fun _ ⟨h1, h2⟩ =>
            ⟨List.mem_append_left _ h1, h2⟩)
        · exact List.mem_map.2 ⟨e, by simp, (List.mem_singleton.1 hx).symm⟩)
      (fun e' he' => hin e' (List.mem_cons_of_mem _ he'))
      (by simpa using hnodup)
    simpa using hrest

end BatchState

/-! ### The batch -/

section Batch

variable (ix : Index) (docs : List SourceDocument) {o : IngestOptions}

theorem startBatch_verified (hv : o.verifyLineage = true) :
    (startBatch ix docs o).1 =
      { index := ix, report := BatchState.failCycle (prepareAll ix.products docs o).1
          (lineageOrder (prepareAll ix.products docs o).2).2,
        accepted := [],
        failed := (BatchState.failCycle (prepareAll ix.products docs o).1
          (lineageOrder (prepareAll ix.products docs o).2).2).failedIds } := by
  rw [startBatch_eq]
  simp only [BatchState.foldl_writeCyclic_verified hv]
  rfl

theorem startBatch_guarded (hv : o.verifyLineage = true) : (startBatch ix docs o).1.Guarded := by
  rw [startBatch_verified ix docs hv]
  exact ⟨fun _ hx => hx, fun _ hx => nomatch hx⟩

/-- Before its ordered entries, a verified batch has failed every entry in or
below a cycle, and failures reach what names them. -/
theorem startBatch_propagates (hv : o.verifyLineage = true) :
    (startBatch ix docs o).1.Propagates (lineageOrder (prepareAll ix.products docs o).2).2
      (lineageOrder (prepareAll ix.products docs o).2).1 := by
  rw [startBatch_verified ix docs hv]
  have hcyc : ∀ e ∈ (lineageOrder (prepareAll ix.products docs o).2).2,
      e.dataset.id ∈ (BatchState.failCycle (prepareAll ix.products docs o).1
        (lineageOrder (prepareAll ix.products docs o).2).2).failedIds := fun e he => by
    rw [BatchState.failedIds_failCycle]
    exact List.mem_append_right _ (List.mem_map_of_mem he)
  exact ⟨fun _ hx => hx, fun _ _ e he _ => hcyc e he, fun e he _ _ _ => hcyc e he⟩

/-- In a verified batch, a failure reaches every entry that names it, once the
batch's entries have distinct ids. -/
theorem indexDocuments_propagated (hv : o.verifyLineage = true)
    (hnodup : ((prepareAll ix.products docs o).2.map (·.dataset.id)).Nodup) :
    (indexDocuments ix docs o).1.Propagated (prepareAll ix.products docs o).2 := by
  have hperm := lineageOrder_perm (prepareAll ix.products docs o).2
  have hsettled := List.perm_append_comm.trans hperm
  have hfold := BatchState.Propagates.foldl (o := o) hv _ _ [] _ (startBatch_propagates ix docs hv)
    (lineageOrder_sourcesFirst _) (fun _ hx => nomatch hx)
    (fun e he => List.mem_map_of_mem (hperm.subset (List.mem_append_left _ he)))
    ((hsettled.map _).nodup_iff.2 hnodup)
  exact fun x hx e he => hfold x hx e (hsettled.symm.subset he)

end Batch

/-- A batch that verifies lineage and writes for real writes a dataset only
after its sources. The entries in or below a lineage cycle write nothing; when
an ordered entry is reported written, each of its source ids is in the index
at that moment, and no entry that failed before it carries one of them. When
the batch's entries have distinct ids, the failure of an entry reaches every
entry derived from it, directly or through other entries. -/
theorem verified_batch_writes_after_sources (ix : Index) (docs : List SourceDocument)
    (o : IngestOptions) (hv : o.verifyLineage = true) (hd : o.dryRun = false) :
    (startBatch ix docs o).1.index = ix ∧
    (∀ pre e post, (startBatch ix docs o).2 = pre ++ e :: post →
      let st := pre.foldl (BatchState.writeOrdered o) (startBatch ix docs o).1
      st.report.Writes (st.writeOrdered o e).report e.dataset.id →
      ∀ x ∈ e.dataset.sourceIds, st.index.has x = true ∧ x ∉ st.report.failedIds) ∧
    (((prepareAll ix.products docs o).2.map (·.dataset.id)).Nodup →
      ∀ x e, x ∈ (indexDocuments ix docs o).1.failedIds →
        DerivesFrom (prepareAll ix.products docs o).2 x e →
        e.dataset.id ∈ (indexDocuments ix docs o).1.failedIds) := by
  refine ⟨by rw [startBatch_verified ix docs hv], fun pre e post _ hw => ?_,
    fun hnodup x e hx hd => (indexDocuments_propagated ix docs hv hnodup).derivesFrom hx hd⟩
  -- every state the ordered entries meet is guarded
  have hguard : (pre.foldl (BatchState.writeOrdered o) (startBatch ix docs o).1).Guarded :=
    List.foldlRecOn pre _ (startBatch_guarded ix docs hv) fun _ h _ _ => h.writeOrdered hv hd
  exact hguard.sources_of_writes hv hw

/-- The January scene, sent twice. -/
def repeatedScene : List SourceDocument :=
  [⟨"mem://scene.yaml", sceneDoc⟩, ⟨"mem://scene-again.yaml", sceneDoc⟩]

/-- The default options verify lineage and write for real, so the January
scene sent twice to the index of its product is written after its sources. -/
theorem repeated_scene_writes_after_sources :
    ({} : IngestOptions).verifyLineage = true ∧ ({} : IngestOptions).dryRun = false ∧
    (startBatch januaryProductIndex repeatedScene {}).1.index = januaryProductIndex ∧
    (∀ pre e post, (startBatch januaryProductIndex repeatedScene {}).2 = pre ++ e :: post →
      let st := pre.foldl (BatchState.writeOrdered {})
        (startBatch januaryProductIndex repeatedScene {}).1
      st.report.Writes (st.writeOrdered {} e).report e.dataset.id →
      ∀ x ∈ e.dataset.sourceIds, st.index.has x = true ∧ x ∉ st.report.failedIds) ∧
    (((prepareAll januaryProductIndex.products repeatedScene {}).2.map
        (·.dataset.id)).Nodup →
      ∀ x e, x ∈ (indexDocuments januaryProductIndex repeatedScene {}).1.failedIds →
        DerivesFrom (prepareAll januaryProductIndex.products repeatedScene {}).2 x e →
        e.dataset.id ∈ (indexDocuments januaryProductIndex repeatedScene {}).1.failedIds) :=
  ⟨rfl, rfl, verified_batch_writes_after_sources _ _ _ rfl rfl⟩

end Geocube
