import Geocube.Proofs.Ingest.Lineage

/-!
# Dry runs

A dry run probes the index for each id instead of writing it. It leaves the
index as it found it, and every check of the batch sees what the real run's
check sees: the ids the real run has written are accepted ones when sources
are checked, and an accepted source is never looked up. So the dry run fails
exactly the documents the real run fails, with the same errors and in the
same order, and reports the same ids written (`dryRun_predicts_failures`).

Only whether an id is new can differ. The probe does not see the batch's own
earlier entries, so an id that a batch repeats is reported new each time.
When the entries of a batch have distinct ids, the two reports are equal.

`DryFollows` relates the dry and the real state along the two runs, and
`DryMatches` adds, for batches of distinct ids, that the reports are equal and
no entry still to come has been written.
-/

namespace Geocube

namespace IngestionReport

/-- The ids the report lists as written, newly or not. -/
def writtenIds (r : IngestionReport) : List Uuid := r.indexed ++ r.existing

@[simp] theorem failed_add_written (r : IngestionReport) (b : Bool) (id : Uuid) :
    (r.add (.written b id)).failed = r.failed := by
  cases b <;> rfl

theorem writtenIds_add_written (r : IngestionReport) (b : Bool) (id : Uuid) :
    (r.add (.written b id)).writtenIds.Perm (r.writtenIds ++ [id]) := by
  cases b
  · exact (List.append_assoc _ _ _).symm ▸ List.Perm.refl _
  · show ((r.indexed ++ [id]) ++ r.existing).Perm ((r.indexed ++ r.existing) ++ [id])
    rw [List.append_assoc, List.append_assoc]
    exact List.perm_append_comm.append_left _

end IngestionReport

theorem Index.product?_congr {ix ix' : Index} (h : ix'.products = ix.products) (name : String) :
    ix'.product? name = ix.product? name := by
  rw [Index.product?, Index.product?, h]

/-- Every entry of a batch is bound to a product the index stores. -/
theorem prepareAll_stored (ix : Index) (docs : List SourceDocument) (o : IngestOptions) :
    ∀ e ∈ (prepareAll ix.products docs o).2, (ix.product? e.dataset.product.name).isSome := by
  obtain ⟨_, bound, _, entries, -, -, hbound, hfold⟩ := prepareAll_split ix.products o docs {} []
  have hentries : (prepareAll ix.products docs o).2 = entries := by
    rw [prepareAll, hfold, List.nil_append]
  rw [hentries]
  clear hentries hfold
  intro e he
  induction hbound with
  | nil => cases he
  | cons hb _ ih =>
    rcases List.mem_cons.1 he with rfl | he
    · exact Index.product?_of_prepared hb.1
    · exact ih he

/-! ### One write, dry and real -/

section Writes

variable {o : IngestOptions} {st : BatchState} {e : Prepared}

theorem writeEntry_dry (hd : o.dryRun = true) (st : BatchState) (e : Prepared) :
    writeEntry o st e =
      ({ st with report := st.report.add (.written (!st.index.has e.dataset.id) e.dataset.id) },
        true) :=
  writeEntry_ok (writeOutcome_dry hd _ _)

theorem writeEntry_real (hd : o.dryRun = false)
    (hp : (st.index.product? e.dataset.product.name).isSome) :
    ∃ ix', writeEntry o st e =
        ({ st with index := ix',
                   report := st.report.add (.written (!st.index.has e.dataset.id) e.dataset.id) },
          true) ∧
      (∀ x, ix'.has x = (st.index.has x || x == e.dataset.id)) ∧ ix'.products = st.index.products := by
  obtain ⟨ix', hout, hhas, hprod⟩ := writeOutcome_real hd hp
  exact ⟨ix', writeEntry_ok hout, hhas, hprod⟩

theorem BatchState.write_dry (hd : o.dryRun = true) (st : BatchState) (e : Prepared) :
    st.write o e =
      { st with report := st.report.add (.written (!st.index.has e.dataset.id) e.dataset.id),
                accepted := st.accepted ++ [e.dataset.id] } :=
  write_ok (writeOutcome_dry hd _ _)

theorem BatchState.write_real (hd : o.dryRun = false)
    (hp : (st.index.product? e.dataset.product.name).isSome) :
    ∃ ix', st.write o e =
        { st with index := ix',
                  report := st.report.add (.written (!st.index.has e.dataset.id) e.dataset.id),
                  accepted := st.accepted ++ [e.dataset.id] } ∧
      (∀ x, ix'.has x = (st.index.has x || x == e.dataset.id)) ∧ ix'.products = st.index.products := by
  obtain ⟨ix', hout, hhas, hprod⟩ := writeOutcome_real hd hp
  exact ⟨ix', write_ok hout, hhas, hprod⟩

end Writes

/-! ### The dry state follows the real one -/

/-- What a dry run keeps in step with the real run of the same batch from
`ix`: the dry index is `ix`, the real one stores the same products, the
accepted ids, the failed ids and the failures are the same, the written ids
are the same up to order, and, when sources are checked, the real index
differs from `ix` only at accepted ids. Every entry still to come is bound to
a stored product. -/
structure DryFollows (ix : Index) (verify : Bool) (rest : List Prepared) (dry real : BatchState) :
    Prop where
  index : dry.index = ix
  products : real.index.products = ix.products
  accepted : dry.accepted = real.accepted
  failed : dry.failed = real.failed
  failures : dry.report.failed = real.report.failed
  written : dry.report.writtenIds.Perm real.report.writtenIds
  unwritten : verify = true → ∀ x, x ∉ real.accepted → real.index.has x = ix.has x
  bound : ∀ e ∈ rest, (ix.product? e.dataset.product.name).isSome

/-- ... and, for a batch of distinct ids, the two reports are equal and no
entry still to come has been written. -/
structure DryMatches (ix : Index) (verify : Bool) (rest : List Prepared) (dry real : BatchState) :
    Prop extends DryFollows ix verify rest dry real where
  report : dry.report = real.report
  pending : ∀ e ∈ rest, real.index.has e.dataset.id = ix.has e.dataset.id
  distinct : (rest.map (·.dataset.id)).Nodup

section Follows

variable {ix : Index} {v : Bool} {e : Prepared} {rest : List Prepared} {dry real : BatchState}

theorem DryFollows.start (hbound : ∀ e ∈ rest, (ix.product? e.dataset.product.name).isSome)
    (r : IngestionReport) : DryFollows ix v rest ⟨ix, r, [], []⟩ ⟨ix, r, [], []⟩ :=
  ⟨rfl, rfl, rfl, rfl, rfl, .refl _, fun _ _ _ => rfl, hbound⟩

theorem DryFollows.real_stored (h : DryFollows ix v (e :: rest) dry real) :
    (real.index.product? e.dataset.product.name).isSome := by
  rw [Index.product?_congr h.products]
  exact h.bound e List.mem_cons_self

/-- Both runs record the same failure, and add the same to their failed ids. -/
theorem DryFollows.fail (h : DryFollows ix v (e :: rest) dry real) (f : FailedDocument)
    (g : List Uuid → List Uuid) :
    DryFollows ix v rest { dry with report := dry.report.add (.failed f), failed := g dry.failed }
      { real with report := real.report.add (.failed f), failed := g real.failed } :=
  { index := h.index
    products := h.products
    accepted := h.accepted
    failed := by rw [h.failed]
    failures := by simp [IngestionReport.add, h.failures]
    written := h.written
    unwritten := h.unwritten
    bound := fun e' he' => h.bound e' (List.mem_cons_of_mem _ he') }

/-- Both runs take their failed ids from their failures. -/
theorem DryFollows.settle (h : DryFollows ix v rest dry real) :
    DryFollows ix v rest { dry with failed := dry.report.failedIds }
      { real with failed := real.report.failedIds } :=
  { h with failed := congrArg (·.filterMap FailedDocument.datasetId) h.failures }

/-- Both runs write `e`: the dry one probes, the real one adds it. Their
accepted ids change alike, and when sources are checked the id joins them. -/
theorem DryFollows.write (h : DryFollows ix v (e :: rest) dry real) {ix' : Index}
    (hhas : ∀ x, ix'.has x = (real.index.has x || x == e.dataset.id))
    (hprod : ix'.products = real.index.products) (g : List Uuid → List Uuid)
    (hg : v = true → ∀ l x, x ∉ g l → x ∉ l ∧ x ≠ e.dataset.id) :
    DryFollows ix v rest
      { dry with report := dry.report.add (.written (!dry.index.has e.dataset.id) e.dataset.id),
                 accepted := g dry.accepted }
      { real with index := ix',
                  report := real.report.add (.written (!real.index.has e.dataset.id) e.dataset.id),
                  accepted := g real.accepted } :=
  { index := h.index
    products := hprod.trans h.products
    accepted := by rw [h.accepted]
    failed := h.failed
    failures := by simp [h.failures]
    written := (IngestionReport.writtenIds_add_written _ _ _).trans
      ((h.written.append_right _).trans (IngestionReport.writtenIds_add_written _ _ _).symm)
    unwritten := fun hv x hx => by
      obtain ⟨hx, hne⟩ := hg hv _ x hx
      rw [hhas, h.unwritten hv x hx, beq_false_of_ne hne, Bool.or_false]
    bound := fun e' he' => h.bound e' (List.mem_cons_of_mem _ he') }

/-- The ids that the batch's ordered steps accept grow by the entry written. -/
theorem accepted_append_spec (e : Prepared) :
    ∀ (l : List Uuid) (x : Uuid), x ∉ l ++ [e.dataset.id] → x ∉ l ∧ x ≠ e.dataset.id := by
  intro l x hx
  simp only [List.mem_append, List.mem_singleton, not_or] at hx
  exact hx

end Follows

/-! ### Equal reports for distinct ids -/

section Matches

variable {ix : Index} {v : Bool} {e : Prepared} {rest : List Prepared} {dry real : BatchState}

theorem DryMatches.start (hbound : ∀ e ∈ rest, (ix.product? e.dataset.product.name).isSome)
    (hdistinct : (rest.map (·.dataset.id)).Nodup) (r : IngestionReport) :
    DryMatches ix v rest ⟨ix, r, [], []⟩ ⟨ix, r, [], []⟩ :=
  { DryFollows.start hbound r with
    report := rfl
    pending := fun _ _ => rfl
    distinct := hdistinct }

theorem DryMatches.fail (h : DryMatches ix v (e :: rest) dry real) (f : FailedDocument)
    (g : List Uuid → List Uuid) :
    DryMatches ix v rest { dry with report := dry.report.add (.failed f), failed := g dry.failed }
      { real with report := real.report.add (.failed f), failed := g real.failed } :=
  { h.toDryFollows.fail f g with
    report := by rw [h.report]
    pending := fun e' he' => h.pending e' (List.mem_cons_of_mem _ he')
    distinct := (List.nodup_cons.1 h.distinct).2 }

theorem DryMatches.settle (h : DryMatches ix v rest dry real) :
    DryMatches ix v rest { dry with failed := dry.report.failedIds }
      { real with failed := real.report.failedIds } :=
  { h.toDryFollows.settle with
    report := h.report
    pending := h.pending
    distinct := h.distinct }

theorem DryMatches.write (h : DryMatches ix v (e :: rest) dry real) {ix' : Index}
    (hhas : ∀ x, ix'.has x = (real.index.has x || x == e.dataset.id))
    (hprod : ix'.products = real.index.products) (g : List Uuid → List Uuid)
    (hg : v = true → ∀ l x, x ∉ g l → x ∉ l ∧ x ≠ e.dataset.id) :
    DryMatches ix v rest
      { dry with report := dry.report.add (.written (!dry.index.has e.dataset.id) e.dataset.id),
                 accepted := g dry.accepted }
      { real with index := ix',
                  report := real.report.add (.written (!real.index.has e.dataset.id) e.dataset.id),
                  accepted := g real.accepted } :=
  have hfresh : e.dataset.id ∉ rest.map (·.dataset.id) ∧ (rest.map (·.dataset.id)).Nodup :=
    List.nodup_cons.1 h.distinct
  { h.toDryFollows.write hhas hprod g hg with
    -- the id is not written yet, so the probe answers as the real write does
    report := by rw [h.report, h.index, h.pending e List.mem_cons_self]
    pending := fun e' he' => by
      have hne : e'.dataset.id ≠ e.dataset.id := fun heq =>
        hfresh.1 (by rw [← heq]; exact List.mem_map_of_mem he')
      rw [hhas, h.pending e' (List.mem_cons_of_mem _ he'), beq_false_of_ne hne, Bool.or_false]
    distinct := hfresh.2 }

end Matches

/-! ### The batch steps, dry and real -/

/-- A relation between the dry and the real state that the batch steps keep:
it gives `DryFollows`, and recording one failure on both sides, writing an
entry on both sides, and taking the failed ids from the failures keep it. -/
structure DryStep (ix : Index) (v : Bool) (rel : List Prepared → BatchState → BatchState → Prop) :
    Prop where
  follows : ∀ {rest dry real}, rel rest dry real → DryFollows ix v rest dry real
  fail : ∀ {e rest dry real}, rel (e :: rest) dry real →
    ∀ (f : FailedDocument) (g : List Uuid → List Uuid),
      rel rest { dry with report := dry.report.add (.failed f), failed := g dry.failed }
        { real with report := real.report.add (.failed f), failed := g real.failed }
  write : ∀ {e rest dry real}, rel (e :: rest) dry real → ∀ {ix' : Index},
    (∀ x, ix'.has x = (real.index.has x || x == e.dataset.id)) →
    ix'.products = real.index.products → ∀ (g : List Uuid → List Uuid),
    (v = true → ∀ l x, x ∉ g l → x ∉ l ∧ x ≠ e.dataset.id) →
      rel rest
        { dry with report := dry.report.add (.written (!dry.index.has e.dataset.id) e.dataset.id),
                   accepted := g dry.accepted }
        { real with index := ix',
                    report := real.report.add (.written (!real.index.has e.dataset.id) e.dataset.id),
                    accepted := g real.accepted }
  settle : ∀ {rest dry real}, rel rest dry real →
    rel rest { dry with failed := dry.report.failedIds } { real with failed := real.report.failedIds }

theorem DryFollows.step (ix : Index) (v : Bool) : DryStep ix v (DryFollows ix v) :=
  ⟨id, DryFollows.fail, DryFollows.write, DryFollows.settle⟩

theorem DryMatches.step (ix : Index) (v : Bool) : DryStep ix v (DryMatches ix v) :=
  ⟨DryMatches.toDryFollows, DryMatches.fail, DryMatches.write, DryMatches.settle⟩

/-- The two runs check an entry's sources alike: an accepted source is not
looked up, and the real index differs from the dry one only at accepted ids. -/
theorem DryFollows.verifySources_eq {ix : Index} {e : Prepared} {rest : List Prepared}
    {dry real : BatchState} (h : DryFollows ix true (e :: rest) dry real) :
    verifySources dry.index e.dataset dry.accepted dry.failed =
      verifySources real.index e.dataset real.accepted real.failed := by
  rw [h.index, h.accepted, h.failed]
  exact verifySources_congr fun x hx => (h.unwritten rfl x hx).symm

namespace DryStep

variable {ix : Index} {v : Bool} {rel : List Prepared → BatchState → BatchState → Prop}
  {o o' : IngestOptions} {e : Prepared} {rest : List Prepared} {dry real : BatchState}

theorem writeCyclic (hs : DryStep ix v rel) (hd : o.dryRun = true) (hd' : o'.dryRun = false)
    (hv : o.verifyLineage = v) (hv' : o'.verifyLineage = v) (h : rel (e :: rest) dry real) :
    rel rest (dry.writeCyclic o e) (real.writeCyclic o' e) := by
  cases v
  · -- unchecked: both write, and nothing reads the accepted ids
    obtain ⟨ix', hreal, hhas, hprod⟩ := writeEntry_real hd' (hs.follows h).real_stored
    rw [BatchState.writeCyclic_unverified hv, BatchState.writeCyclic_unverified hv',
      writeEntry_dry hd, hreal]
    exact hs.write h hhas hprod id nofun
  · rw [BatchState.writeCyclic_verified hv, BatchState.writeCyclic_verified hv']
    exact hs.fail h _ id

theorem writeOrdered (hs : DryStep ix v rel) (hd : o.dryRun = true) (hd' : o'.dryRun = false)
    (hv : o.verifyLineage = v) (hv' : o'.verifyLineage = v) (h : rel (e :: rest) dry real) :
    rel rest (dry.writeOrdered o e) (real.writeOrdered o' e) := by
  obtain ⟨ix', hreal, hhas, hprod⟩ := BatchState.write_real hd' (hs.follows h).real_stored
  have hwrite : rel rest (dry.write o e) (real.write o' e) := by
    rw [BatchState.write_dry hd, hreal]
    exact hs.write h hhas hprod (· ++ [e.dataset.id]) fun _ => accepted_append_spec e
  cases v
  · rwa [BatchState.writeOrdered_unverified hv, BatchState.writeOrdered_unverified hv']
  · -- both runs check the sources alike, so both reject or both write
    have hsame := (hs.follows h).verifySources_eq
    cases hver : verifySources real.index e.dataset real.accepted real.failed with
    | error err =>
      rw [BatchState.writeOrdered_rejected hv (hsame.trans hver),
        BatchState.writeOrdered_rejected hv' hver]
      exact hs.fail h _ (· ++ [e.dataset.id])
    | ok u =>
      rwa [BatchState.writeOrdered_checked hv (hsame.trans hver),
        BatchState.writeOrdered_checked hv' hver]

end DryStep

/-- Two runs related at every step stay related over a whole list of entries. -/
theorem foldl_related {f g : BatchState → Prepared → BatchState}
    (rel : List Prepared → BatchState → BatchState → Prop)
    (step : ∀ e rest dry real, rel (e :: rest) dry real → rel rest (f dry e) (g real e)) :
    ∀ (es rest : List Prepared) (dry real : BatchState),
      rel (es ++ rest) dry real → rel rest (es.foldl f dry) (es.foldl g real)
  | [], _, _, _, h => h
  | e :: es, rest, dry, real, h => foldl_related rel step es rest _ _ (step e _ dry real h)

/-! ### The batch -/

section Batch

variable (ix : Index) (docs : List SourceDocument) {o : IngestOptions}

/-- The same batch read for a dry run and for a real one. -/
theorem prepareAll_dryRun :
    prepareAll ix.products docs { o with dryRun := false } = prepareAll ix.products docs o := rfl

/-- A relation the batch steps keep, and that holds of the two runs' first
states, holds of their last ones. -/
theorem DryStep.indexDocuments {rel : List Prepared → BatchState → BatchState → Prop}
    (hs : DryStep ix o.verifyLineage rel) (o' : IngestOptions) (hd : o.dryRun = true)
    (hd' : o'.dryRun = false) (hv : o'.verifyLineage = o.verifyLineage)
    (hprep : prepareAll ix.products docs o' = prepareAll ix.products docs o)
    (hstart : rel ((lineageOrder (prepareAll ix.products docs o).2).2 ++
        (lineageOrder (prepareAll ix.products docs o).2).1)
      ⟨ix, (prepareAll ix.products docs o).1, [], []⟩ ⟨ix, (prepareAll ix.products docs o).1, [], []⟩) :
    rel []
      ((startBatch ix docs o).2.foldl (BatchState.writeOrdered o) (startBatch ix docs o).1)
      ((startBatch ix docs o').2.foldl (BatchState.writeOrdered o') (startBatch ix docs o').1) := by
  -- entries in or below a cycle first, then the ordered ones
  have hcyc := foldl_related (f := BatchState.writeCyclic o) (g := BatchState.writeCyclic o') rel
    (fun _ _ _ _ h => hs.writeCyclic hd hd' rfl hv h) _ _ _ _ hstart
  have hord := foldl_related (f := BatchState.writeOrdered o) (g := BatchState.writeOrdered o') rel
    (fun _ _ _ _ h => hs.writeOrdered hd hd' rfl hv h) _ [] _ _
    (by rw [List.append_nil]; exact hs.settle hcyc)
  rw [startBatch_eq, startBatch_eq, hprep]
  exact hord

end Batch

/-- A dry run leaves the index as it found it, fails the documents the real
run fails, with the same errors and in the same order, and reports the same
ids written, up to order. When the batch's entries have distinct ids, its
report is the real run's. -/
theorem dryRun_predicts_failures (ix : Index) (docs : List SourceDocument) (o : IngestOptions)
    (hd : o.dryRun = true) :
    (indexDocuments ix docs o).2 = ix ∧
    (indexDocuments ix docs o).1.failed = (indexDocuments ix docs { o with dryRun := false }).1.failed ∧
    ((indexDocuments ix docs o).1.indexed ++ (indexDocuments ix docs o).1.existing).Perm
      ((indexDocuments ix docs { o with dryRun := false }).1.indexed ++
        (indexDocuments ix docs { o with dryRun := false }).1.existing) ∧
    (((prepareAll ix.products docs o).2.map (·.dataset.id)).Nodup →
      (indexDocuments ix docs o).1 = (indexDocuments ix docs { o with dryRun := false }).1) := by
  -- every entry of the batch, cyclic or ordered, is bound to a stored product
  have hperm := List.perm_append_comm.trans (lineageOrder_perm (prepareAll ix.products docs o).2)
  have hbound := fun e he => prepareAll_stored ix docs o e (hperm.subset he)
  have h := (DryFollows.step ix o.verifyLineage).indexDocuments ix docs { o with dryRun := false }
    hd rfl rfl (prepareAll_dryRun ix docs) (DryFollows.start hbound _)
  refine ⟨h.index, h.failures, h.written, fun hdistinct => ?_⟩
  have hmatch := (DryMatches.step ix o.verifyLineage).indexDocuments ix docs
    { o with dryRun := false } hd rfl rfl (prepareAll_dryRun ix docs)
    (DryMatches.start hbound ((hperm.map _).nodup_iff.2 hdistinct) _)
  exact hmatch.report

/-- A dry run of the January scene sent twice to the index of its product
predicts the default run. -/
theorem repeated_scene_dry_run_predicts_failures :
    ({ dryRun := true } : IngestOptions).dryRun = true ∧
    (indexDocuments januaryProductIndex repeatedScene { dryRun := true }).2 = januaryProductIndex ∧
    (indexDocuments januaryProductIndex repeatedScene { dryRun := true }).1.failed =
      (indexDocuments januaryProductIndex repeatedScene {}).1.failed ∧
    ((indexDocuments januaryProductIndex repeatedScene { dryRun := true }).1.indexed ++
        (indexDocuments januaryProductIndex repeatedScene { dryRun := true }).1.existing).Perm
      ((indexDocuments januaryProductIndex repeatedScene {}).1.indexed ++
        (indexDocuments januaryProductIndex repeatedScene {}).1.existing) ∧
    (((prepareAll januaryProductIndex.products repeatedScene { dryRun := true }).2.map
        (·.dataset.id)).Nodup →
      (indexDocuments januaryProductIndex repeatedScene { dryRun := true }).1 =
        (indexDocuments januaryProductIndex repeatedScene {}).1) :=
  ⟨rfl, dryRun_predicts_failures _ _ _ rfl⟩

end Geocube
