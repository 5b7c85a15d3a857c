import Geocube.Catalog.Index
import Geocube.Proofs.Catalog.Prefilter
import Mathlib.Data.List.Basic

/-
Searching the index page by page finds what one pass over its records finds.

A search reads the records that pass its first phase in pages of `pageSize`,
from offset 0, and stops after the first short page; each page is bound to the
plan's products and checked exactly. Consecutive pages are consecutive slices
of one list, so their concatenation is the whole list from the first offset
(`pagesFrom_eq`). With an ordering every page is collected before `finish`;
with a limit only the first matches are taken, which is what `finish` does
without an ordering (`runPlan_eq`).

The one-pass answer binds each stored record to the stored product of its
name and keeps those the exact check accepts (`Index.matching`). The paged
search equals it once two things hold of the index: product names are
distinct, so the plan's products bind records exactly as the store does, and
the recorded time and bounds of each record are missing or are those of the
record as its product now reads it (`DatasetRecord.Fresh`), so that the first
phase never drops a match (`search_eq_matching`).
-/

namespace Geocube

namespace SearchPlan

/-- The datasets of a list of records that the plan binds and accepts. -/
def matchRecords (p : SearchPlan) (rs : List DatasetRecord) : List Dataset :=
  (rs.filterMap fun r => (p.product? r.product).map r.bind).filter p.accepts

@[simp] theorem matchRecords_nil (p : SearchPlan) : p.matchRecords [] = [] := rfl

theorem matchRecords_append (p : SearchPlan) (rs rs' : List DatasetRecord) :
    p.matchRecords (rs ++ rs') = p.matchRecords rs ++ p.matchRecords rs' := by
  simp [matchRecords]

theorem matchRecords_of_isEmpty {p : SearchPlan} (h : p.isEmpty = true) (rs : List DatasetRecord) :
    p.matchRecords rs = [] := by
  simp only [isEmpty, List.isEmpty_iff] at h
  simp [matchRecords, product?, h]

theorem finish_nil (p : SearchPlan) : p.finish [] = [] := by
  unfold finish
  split <;> split <;> simp [insertionSort_nil]

end SearchPlan

namespace Index

variable (ix : Index) (p : SearchPlan)

/-- The records the first phase of a plan passes, in the order they were added. -/
def passing (f : CandidateFilter) : List DatasetRecord :=
  ix.datasets.filter fun r => f.accepts r.product r.archived r.time r.bounds

theorem candidates_page (offset : Nat) :
    ix.candidates p.prefilter offset (some pageSize) =
      ((ix.passing p.prefilter).drop offset).take pageSize := rfl

/-- Pages from `offset` on are the matches among the passing records from
`offset` on: a full page is followed by the next slice, and a short page holds
everything that is left. -/
theorem pagesFrom_eq (offset : Nat) :
    ix.pagesFrom p offset = p.matchRecords ((ix.passing p.prefilter).drop offset) := by
  fun_induction ix.pagesFrom p offset with
  | case1 offset found matched hfull ih =>
    have hsplit : (ix.passing p.prefilter).drop offset =
        ((ix.passing p.prefilter).drop offset).take pageSize ++
          (ix.passing p.prefilter).drop (offset + pageSize) := by
      rw [← List.drop_drop, List.take_append_drop]
    rw [ih, hsplit, SearchPlan.matchRecords_append]
    rfl
  | case2 offset found matched hshort =>
    have hlen : ((ix.passing p.prefilter).drop offset).length ≤ pageSize := by
      have : found.length ≠ pageSize := hshort
      simp only [found, candidates_page, List.length_take] at this
      omega
    show p.matchRecords (ix.candidates p.prefilter offset (some pageSize)) = _
    rw [candidates_page, List.take_of_length_le hlen]

/-- A planned search is `finish` applied to the matches among all passing
records, whichever branch collects them. -/
theorem runPlan_eq : ix.runPlan p = p.finish (p.matchRecords (ix.passing p.prefilter)) := by
  have hpages := ix.pagesFrom_eq p 0
  rw [List.drop_zero] at hpages
  unfold runPlan
  split
  · rename_i hempty
    rw [SearchPlan.matchRecords_of_isEmpty hempty, SearchPlan.finish_nil]
  · split
    · rw [hpages]
    · rename_i hnone
      simp only [Option.isSome_iff_ne_none, ne_eq, Decidable.not_not] at hnone
      unfold SearchPlan.finish
      cases p.limit <;> simp [hnone, hpages]

end Index

/-! ### The one-pass answer -/

namespace DatasetRecord

/-- The recorded time and bounds are missing or are those of the record as the
product `q` reads it. -/
def Fresh (r : DatasetRecord) (q : Product) : Prop :=
  (∀ t, r.time = some t → (r.bind q).timeRange = some t) ∧
    (∀ b, r.bounds = some b → (r.bind q).boundsLonLat = some b)

end DatasetRecord

namespace Index

/-- Every stored record bound to the stored product of its name, in the order
they were added, kept when the plan accepts it. -/
def matching (ix : Index) (p : SearchPlan) : List Dataset :=
  (ix.datasets.filterMap fun r => (ix.product? r.product).map r.bind).filter p.accepts

theorem find?_name_of_mem {ps : List Product} (hnames : (ps.map (·.name)).Nodup) {q : Product}
    (hq : q ∈ ps) : ps.find? (·.name == q.name) = some q := by
  induction ps with
  | nil => cases hq
  | cons q' ps ih =>
    simp only [List.map_cons, List.nodup_cons, List.mem_map] at hnames
    rcases List.mem_cons.1 hq with rfl | hq
    · simp
    · have hne : q'.name ≠ q.name := fun h => hnames.1 ⟨q, hq, h.symm⟩
      simp [hne, ih hnames.2 hq]

variable {ix : Index} {p : SearchPlan}

theorem product?_name {n : String} {q : Product} (h : ix.product? n = some q) : q.name = n := by
  simpa using List.find?_some h

theorem product?_eq_of_mem (hnames : (ix.products.map (·.name)).Nodup) {q : Product}
    (hq : q ∈ ix.products) : ix.product? q.name = some q :=
  find?_name_of_mem hnames hq

end Index

namespace SearchPlan

theorem mem_products_of_new {terms : SearchTerms} {products : List Product} {plan : SearchPlan}
    (h : SearchPlan.new terms products = .ok plan) {q : Product} (hq : q ∈ plan.products) :
    q ∈ products := by
  unfold SearchPlan.new at h
  simp only [Except.bind_eq_ok] at h
  obtain ⟨-, -, preds, -, h⟩ := h
  -- the polygon is read last, and the plan takes the filtered products
  have hprod : plan.products = (terms.product.elim products fun n =>
        products.filter fun (p : Product) => p.name == n).filter fun (p : Product) =>
        (terms.fields.map (fun e : String × Term => e.1) ++ terms.orderBy.toList).all
          fun f => (p.metadataType.field? f).isSome := by
    split at h
    · split at h
      · simp only [Except.bind_eq_ok, Except.pure_eq_ok] at h
        obtain ⟨_, -, rfl⟩ := h
        cases terms.product <;> rfl
      · simp [throw, throwThe, MonadExceptOf.throw] at h
    · simp only [Except.bind_eq_ok, Except.pure_eq_ok] at h
      obtain ⟨_, -, rfl⟩ := h
      cases terms.product <;> rfl
  rw [hprod] at hq
  have hq := (List.mem_filter.1 hq).1
  cases hp : terms.product with
  | none =>
    rw [hp] at hq
    exact hq
  | some n =>
    rw [hp] at hq
    exact (List.mem_filter.1 hq).1

end SearchPlan

namespace Index

variable {ix : Index} {p : SearchPlan}

/-- Where product names are distinct and the plan's products are stored, a
stored record is bound by the plan as the store binds it, or not at all. -/
theorem plan_product?_eq (hnames : (ix.products.map (·.name)).Nodup)
    (hsub : ∀ q ∈ p.products, q ∈ ix.products) {n : String} {q : Product}
    (hq : p.product? n = some q) : ix.product? n = some q := by
  have hname : q.name = n := by simpa using List.find?_some hq
  rw [← hname]
  exact product?_eq_of_mem hnames (hsub q (List.mem_of_find?_eq_some hq))

/-- The exact check accepts a record bound to a stored product only through the
plan's binding of it. -/
theorem plan_product?_of_accepts (hnames : (ix.products.map (·.name)).Nodup)
    (hsub : ∀ q ∈ p.products, q ∈ ix.products) {r : DatasetRecord} {q : Product}
    (hq : ix.product? r.product = some q) (hacc : p.accepts (r.bind q) = true) :
    p.product? r.product = some q := by
  simp only [SearchPlan.accepts, Bool.and_eq_true] at hacc
  obtain ⟨q', hq'⟩ := Option.isSome_iff_exists.1 hacc.1.1.1
  have hbind : (r.bind q).product.name = r.product := product?_name hq
  rw [hbind] at hq'
  rw [hq', ← Option.some_inj, ← hq, plan_product?_eq hnames hsub hq']

theorem search_of_plan {terms : SearchTerms} {plan : SearchPlan}
    (hplan : ix.plan terms = .ok plan) :
    ix.search terms = .ok (plan.finish (plan.matchRecords (ix.passing plan.prefilter))) := by
  unfold search
  rw [hplan]
  show Except.ok (ix.runPlan plan) = _
  rw [runPlan_eq]

/-- A planned search of an index with distinct product names and fresh records
returns `finish` of the one-pass answer. -/
theorem search_eq_matching {terms : SearchTerms} {plan : SearchPlan}
    (hplan : ix.plan terms = .ok plan) (hnames : (ix.products.map (·.name)).Nodup)
    (hfresh : ∀ r ∈ ix.datasets, ∀ q, ix.product? r.product = some q → r.Fresh q) :
    ix.search terms = .ok (plan.finish (ix.matching plan)) := by
  have hsub : ∀ q ∈ plan.products, q ∈ ix.products :=
    fun _ hq => SearchPlan.mem_products_of_new hplan hq
  rw [search_of_plan hplan]
  congr 2
  simp only [SearchPlan.matchRecords, matching, passing, List.filter_filterMap,
    List.filterMap_filter]
  apply List.filterMap_congr
  intro r hr
  -- one record: both sides bind it to the same product, or neither does
  cases hq : ix.product? r.product with
  | none =>
    cases hq' : plan.product? r.product with
    | none => simp
    | some q => simp [plan_product?_eq hnames hsub hq'] at hq
  | some q =>
    by_cases hacc : plan.accepts (r.bind q) = true
    · have hbound := plan_product?_of_accepts hnames hsub hq hacc
      have hpass : plan.prefilter.accepts r.product r.archived r.time r.bounds = true := by
        rw [← product?_name hq]
        exact SearchPlan.prefilter_accepts_of_columns hplan hacc
          (hfresh r hr q hq).1 (hfresh r hr q hq).2
      simp [hpass, hbound]
    · cases hq' : plan.product? r.product with
      | none => simp [Option.filter, hacc]
      | some q' =>
        obtain rfl : q' = q := Option.some_inj.1 ((plan_product?_eq hnames hsub hq').symm.trans hq)
        split <;> simp [Option.filter, hacc]

end Index

end Geocube
