import Geocube.Proofs.Ingest.Order
import Mathlib.Data.List.Forall2

/-!
# Every document of a batch is reported once

A batch report is a log: each step of `indexDocuments` adds exactly one
outcome to it (`IngestionReport.add`). Binding adds a failure for each
document that cannot be bound; every bound entry is then settled once, in or
below a lineage cycle or in the ordered part, and settling it adds one outcome
that names it.

The main statement, `indexDocuments_reports_each_document_once`, says that
the report of a batch lists one outcome per document: taken in some order of
the documents, the outcomes correspond one to one, and each is one that
document can have (`Outcome.Reports`). So the report's total is the number of
documents, a document that cannot be bound is a failure without an id, and
every other failure carries the id of the dataset the document describes.
-/

namespace Geocube

namespace IngestionReport

/-- The report that lists these outcomes, in order. -/
def ofOutcomes (outs : List Outcome) : IngestionReport := outs.foldl add {}

@[simp] theorem total_add (r : IngestionReport) (out : Outcome) : (r.add out).total = r.total + 1 := by
  cases out <;> simp only [add, total, List.length_append, List.length_singleton] <;> omega

theorem total_foldl_add (outs : List Outcome) (r : IngestionReport) :
    (outs.foldl add r).total = r.total + outs.length := by
  induction outs generalizing r with
  | nil => rfl
  | cons out outs ih => rw [List.foldl_cons, ih, total_add, List.length_cons]; omega

theorem total_ofOutcomes (outs : List Outcome) : (ofOutcomes outs).total = outs.length := by
  rw [ofOutcomes, total_foldl_add]
  exact Nat.zero_add _

/-- A report of one outcome for each document counts every document. -/
theorem total_ofOutcomes_of_forall₂ {α : Type} {R : α → Outcome → Prop} {order docs : List α}
    {outs : List Outcome} (hperm : order.Perm docs) (h : List.Forall₂ R order outs) :
    (ofOutcomes outs).total = docs.length := by
  rw [total_ofOutcomes, ← h.length_eq, hperm.length_eq]

end IngestionReport

/-- An outcome of the entry `e`: its id, indexed or existing, or a failure at
its location that names its id. -/
def Outcome.About (e : Prepared) : Outcome → Prop
  | .indexed id | .existing id => id = e.dataset.id
  | .failed f => f.uri = e.uri ∧ f.datasetId = some e.dataset.id

/-- An outcome the document `src` can have in a batch bound against
`products`: when it cannot be bound, the failure at its location with no id
and the reason; once bound to a dataset, an outcome of the entry it became. -/
def Outcome.Reports (products : List Product) (o : IngestOptions) (src : SourceDocument)
    (out : Outcome) : Prop :=
  match prepare products src o with
  | .error e => out = .failed ⟨src.uri, none, e⟩
  | .ok d => out.About ⟨src.uri, d⟩

/-- The entry `e` is what the document `src` becomes once bound. -/
def Prepared.BoundFrom (products : List Product) (o : IngestOptions) (src : SourceDocument)
    (e : Prepared) : Prop :=
  prepare products src o = .ok e.dataset ∧ e.uri = src.uri

theorem Outcome.Reports.of_about {products : List Product} {o : IngestOptions}
    {src : SourceDocument} {e : Prepared} {out : Outcome} (hfrom : e.BoundFrom products o src)
    (habout : out.About e) : out.Reports products o src := by
  obtain ⟨uri, d⟩ := e
  obtain ⟨hprep, rfl⟩ := hfrom
  simp only [Outcome.Reports, hprep]
  exact habout

/-! ### Binding -/

/-- Binding a batch leaves a failure for each document that cannot be bound,
and an entry for each other, each in batch order. -/
theorem prepareAll_split (products : List Product) (o : IngestOptions) :
    ∀ (docs : List SourceDocument) (r : IngestionReport) (ps : List Prepared),
      ∃ failing bound fails entries, (failing ++ bound).Perm docs ∧
        List.Forall₂ (fun src out => out.Reports products o src) failing fails ∧
        List.Forall₂ (Prepared.BoundFrom products o) bound entries ∧
        docs.foldl (prepareStep products o) (r, ps) = (fails.foldl IngestionReport.add r, ps ++ entries)
  | [], r, ps => ⟨[], [], [], [], .nil, .nil, .nil, by simp⟩
  | src :: docs, r, ps => by
    rw [List.foldl_cons]
    cases hprep : prepare products src o with
    | ok d =>
      obtain ⟨failing, bound, fails, entries, hperm, hfail, hbound, hfold⟩ :=
        prepareAll_split products o docs r (ps ++ [⟨src.uri, d⟩])
      refine ⟨failing, src :: bound, fails, ⟨src.uri, d⟩ :: entries, ?_, hfail,
        .cons ⟨hprep, rfl⟩ hbound, ?_⟩
      · exact List.perm_middle.trans (hperm.cons src)
      · simpa only [prepareStep, hprep, List.append_assoc, List.singleton_append] using hfold
    | error err =>
      obtain ⟨failing, bound, fails, entries, hperm, hfail, hbound, hfold⟩ :=
        prepareAll_split products o docs (r.add (.failed ⟨src.uri, none, err⟩)) ps
      refine ⟨src :: failing, bound, .failed ⟨src.uri, none, err⟩ :: fails, entries, hperm.cons src,
        .cons (by simp only [Outcome.Reports, hprep]) hfail, hbound, ?_⟩
      simpa only [prepareStep, hprep, IngestionReport.fail, List.foldl_cons] using hfold

/-! ### Settling entries -/

namespace BatchState

/-- A step of a batch records one outcome of the entry it settles. -/
def RecordsOne (step : BatchState → Prepared → BatchState) : Prop :=
  ∀ st e, ∃ out, out.About e ∧ (step st e).report = st.report.add out

theorem writeEntry_records (o : IngestOptions) (st : BatchState) (e : Prepared) :
    ∃ out, out.About e ∧ (writeEntry o st e).1.report = st.report.add out := by
  unfold writeEntry
  split
  · exact ⟨.indexed _, rfl, rfl⟩
  · exact ⟨.existing _, rfl, rfl⟩
  · exact ⟨.failed _, ⟨rfl, rfl⟩, rfl⟩

theorem write_report (o : IngestOptions) (st : BatchState) (e : Prepared) :
    (st.write o e).report = (writeEntry o st e).1.report := by
  unfold write
  obtain ⟨st', ok⟩ := writeEntry o st e
  cases ok <;> rfl

theorem writeCyclic_records (o : IngestOptions) : RecordsOne (writeCyclic o) := by
  intro st e
  unfold writeCyclic
  split
  · exact ⟨.failed _, ⟨rfl, rfl⟩, rfl⟩
  · exact writeEntry_records o st e

theorem writeOrdered_records (o : IngestOptions) : RecordsOne (writeOrdered o) := by
  intro st e
  unfold writeOrdered
  split
  · split
    · exact ⟨.failed _, ⟨rfl, rfl⟩, rfl⟩
    · rw [write_report]
      exact writeEntry_records o st e
  · rw [write_report]
    exact writeEntry_records o st e

/-- Settling entries one after another records one outcome of each, in order. -/
theorem foldl_records {step : BatchState → Prepared → BatchState} (hstep : RecordsOne step) :
    ∀ (es : List Prepared) (st : BatchState), ∃ outs,
      List.Forall₂ (fun e out => Outcome.About e out) es outs ∧
        (es.foldl step st).report = outs.foldl IngestionReport.add st.report
  | [], _ => ⟨[], .nil, rfl⟩
  | e :: es, st => by
    obtain ⟨out, habout, hrep⟩ := hstep st e
    obtain ⟨outs, hall, hfold⟩ := foldl_records hstep es (step st e)
    refine ⟨out :: outs, .cons habout hall, ?_⟩
    rw [List.foldl_cons, hfold, hrep, List.foldl_cons]

end BatchState

/-- Two lists related to one list are related to each other through it. -/
theorem List.forall₂_through {α β γ : Type} {R : α → β → Prop} {S : α → γ → Prop} :
    ∀ {as : List α} {bs : List β} {cs : List γ}, List.Forall₂ R as bs → List.Forall₂ S as cs →
      List.Forall₂ (fun b c => ∃ a, R a b ∧ S a c) bs cs
  | [], [], [], .nil, .nil => .nil
  | _ :: _, _ :: _, _ :: _, .cons hr hrs, .cons hs hss => .cons ⟨_, hr, hs⟩ (forall₂_through hrs hss)

/-- The state a batch's ordered entries start from: the bound batch with its
entries in or below a cycle settled, and the failed ids collected. -/
theorem startBatch_eq (ix : Index) (docs : List SourceDocument) (o : IngestOptions) :
    startBatch ix docs o =
      let st := (lineageOrder (prepareAll ix.products docs o).2).2.foldl (BatchState.writeCyclic o)
        ⟨ix, (prepareAll ix.products docs o).1, [], []⟩
      ({ st with failed := st.report.failed.filterMap (·.datasetId) },
        (lineageOrder (prepareAll ix.products docs o).2).1) := rfl

theorem indexDocuments_eq (ix : Index) (docs : List SourceDocument) (o : IngestOptions) :
    indexDocuments ix docs o =
      let st := (startBatch ix docs o).2.foldl (BatchState.writeOrdered o) (startBatch ix docs o).1
      (st.report, st.index) := rfl

/-- The report of a batch is that of binding it, followed by one outcome of
each entry in or below a cycle and then one of each ordered entry. -/
theorem indexDocuments_report (ix : Index) (docs : List SourceDocument) (o : IngestOptions) :
    ∃ cycOuts ordOuts,
      List.Forall₂ (fun e out => Outcome.About e out)
        (lineageOrder (prepareAll ix.products docs o).2).2 cycOuts ∧
      List.Forall₂ (fun e out => Outcome.About e out)
        (lineageOrder (prepareAll ix.products docs o).2).1 ordOuts ∧
      (indexDocuments ix docs o).1 =
        (cycOuts ++ ordOuts).foldl IngestionReport.add (prepareAll ix.products docs o).1 := by
  obtain ⟨cycOuts, hcyc, hcycRep⟩ := BatchState.foldl_records (BatchState.writeCyclic_records o)
    (lineageOrder (prepareAll ix.products docs o).2).2 ⟨ix, (prepareAll ix.products docs o).1, [], []⟩
  obtain ⟨ordOuts, hord, hordRep⟩ := BatchState.foldl_records (BatchState.writeOrdered_records o)
    (lineageOrder (prepareAll ix.products docs o).2).1 (startBatch ix docs o).1
  refine ⟨cycOuts, ordOuts, hcyc, hord, ?_⟩
  -- the ordered part starts from the report the cyclic part leaves
  have hstart : (startBatch ix docs o).1.report = cycOuts.foldl IngestionReport.add
      (prepareAll ix.products docs o).1 := hcycRep
  rw [indexDocuments_eq]
  simp only
  rw [show (startBatch ix docs o).2 = (lineageOrder (prepareAll ix.products docs o).2).1 from rfl,
    hordRep, hstart, List.foldl_append]

/-- Every document of a batch is reported exactly once: the report lists one
outcome for each document, in some order of the documents, and each outcome is
one that its document can have. -/
theorem indexDocuments_reports_each_document_once (ix : Index) (docs : List SourceDocument)
    (o : IngestOptions) :
    (indexDocuments ix docs o).1.total = docs.length ∧
      ∃ order outs, order.Perm docs ∧
        List.Forall₂ (fun src out => Outcome.Reports ix.products o src out) order outs ∧
        (indexDocuments ix docs o).1 = IngestionReport.ofOutcomes outs := by
  obtain ⟨failing, bound, fails, entries, hperm, hfails, hbound, hprep⟩ :=
    prepareAll_split ix.products o docs {} []
  have hprep' : prepareAll ix.products docs o = (IngestionReport.ofOutcomes fails, entries) := by
    rw [prepareAll, hprep, List.nil_append]
    rfl
  obtain ⟨cycOuts, ordOuts, hcyc, hord, hrep⟩ := indexDocuments_report ix docs o
  rw [hprep'] at hcyc hord hrep
  have hsettled : ((lineageOrder entries).2 ++ (lineageOrder entries).1).Perm entries :=
    List.perm_append_comm.trans (lineageOrder_perm entries)
  -- each settled entry was bound from a document of the bound ones, in some order
  obtain ⟨sources, hsources, hsperm⟩ := List.perm_comp_forall₂ hsettled hbound.flip
  have hreports : List.Forall₂ (fun src out => Outcome.Reports ix.products o src out) sources
      (cycOuts ++ ordOuts) :=
    (List.forall₂_through hsources (List.rel_append hcyc hord)).imp
      fun _ _ ⟨_, hfrom, habout⟩ => Outcome.Reports.of_about hfrom habout
  have hreport : (indexDocuments ix docs o).1 = IngestionReport.ofOutcomes (fails ++ (cycOuts ++ ordOuts)) := by
    rw [hrep]
    simp only [IngestionReport.ofOutcomes, List.foldl_append]
  -- the failing documents first, then the bound ones in the order they were settled
  have horder : (failing ++ sources).Perm docs := (hsperm.append_left failing).trans hperm
  have hall := List.rel_append hfails hreports
  refine ⟨?_, failing ++ sources, fails ++ (cycOuts ++ ordOuts), horder, hall, hreport⟩
  rw [hreport]
  exact IngestionReport.total_ofOutcomes_of_forall₂ horder hall

end Geocube
