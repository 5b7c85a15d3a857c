import Geocube.Proofs.Catalog.CheckThenAct
import Geocube.Proofs.Catalog.Paging

/-!
# A search read page by page while others write

A search reads the records that pass its first phase in pages: each page is the
`pageSize` records from an offset into the list of passing records as that list
stands when the page is read. Writers running between two pages change the
list. An add appends a record; where the plan leaves archived records out, an
archive takes a record out of the list and a restore puts one back in its place,
so the records past it shift.

Every write keeps the stored records in their places and appends new ones
(`Index.Shifts`). Where no record starts passing between two pages (no restore,
or a plan that takes archived records in), positions only move back, and what
was read stays behind the offset: no dataset is returned twice
(`Client.Unrepeated`). Where no record stops passing (no archive, or a plan that
takes archived records in), positions only move forward, and a dataset the plan
finds in every state is read on some page (`Client.Reaches`). A search and its
writers run as one system (`System.stream`), and both facts hold after every
schedule (`stream_pages_under_writes`). Neither holds without its condition: on
501 records, one more than a page, an archive between the two pages loses the
last record and a restore returns it twice (`stream_pages_shift`).
-/

namespace Geocube

namespace CandidateFilter

/-- Whether a record, as it stands, passes the filter. -/
def passes (f : CandidateFilter) (r : DatasetRecord) : Bool :=
  f.accepts r.product r.archived r.time r.bounds

variable (f : CandidateFilter) (r : DatasetRecord)

/-- Archiving a record can only stop it passing. -/
theorem passes_archive_le : f.passes { r with archived := true } ≤ f.passes r := by
  unfold passes accepts
  intro h
  simp only [Bool.not_true, Bool.false_or, Bool.and_eq_true] at h
  simp only [h, Bool.or_true, Bool.and_self]

/-- Restoring a record can only start it passing. -/
theorem passes_le_restore : f.passes r ≤ f.passes { r with archived := false } := by
  unfold passes accepts
  intro h
  simp only [Bool.and_eq_true] at h
  simp only [h, Bool.not_false, Bool.true_or, Bool.and_self]

/-- A filter that takes archived records in does not look at the flag. -/
theorem passes_flag (h : f.includeArchived = true) (b : Bool) :
    f.passes { r with archived := b } = f.passes r := by
  unfold passes accepts
  simp only [h, Bool.or_true, Bool.and_true]

@[simp] theorem passes_addLocations (uris : List String) : f.passes (r.addLocations uris) = f.passes r := by
  rw [DatasetRecord.addLocations_eq]
  rfl

end CandidateFilter

namespace Index

variable {f : CandidateFilter} {ix ix' : Index}

theorem passing_eq_filter (ix : Index) (f : CandidateFilter) : ix.passing f = ix.datasets.filter f.passes :=
  rfl

/-- How a write changes the records passing `f`: every stored record keeps its
place and its id, and passes afterwards as `R` allows given whether it passed
before; the records after them have ids not stored before. -/
def Shifts (f : CandidateFilter) (R : Bool → Bool → Prop) (ix ix' : Index) : Prop :=
  ∃ kept added, ix'.datasets = kept ++ added ∧
    List.Forall₂ (fun r r' => r'.id = r.id ∧ R (f.passes r) (f.passes r')) ix.datasets kept ∧
    ∀ r ∈ added, r.id ∉ ix.datasets.map (·.id)

theorem Shifts.refl {R : Bool → Bool → Prop} (hrefl : ∀ a, R a a) (ix : Index) : ix.Shifts f R ix :=
  ⟨ix.datasets, [], by simp, List.forall₂_same.2 fun _ _ => ⟨rfl, hrefl _⟩, by simp⟩

/-- A write that replaces every record in place. -/
theorem Shifts.of_map {R : Bool → Bool → Prop} {g : DatasetRecord → DatasetRecord}
    (hg : ∀ r ∈ ix.datasets, (g r).id = r.id ∧ R (f.passes r) (f.passes (g r)))
    (h : ix'.datasets = ix.datasets.map g) : ix.Shifts f R ix' :=
  ⟨ix.datasets.map g, [], by simp [h], List.forall₂_map_right_iff.2 (List.forall₂_same.2 hg),
    by simp⟩

/-- A write that appends the record of a new id. -/
theorem Shifts.of_append {R : Bool → Bool → Prop} (hrefl : ∀ a, R a a) {r : DatasetRecord}
    (hnew : ix.record? r.id = none) (h : ix'.datasets = ix.datasets ++ [r]) : ix.Shifts f R ix' := by
  refine ⟨ix.datasets, [r], h, List.forall₂_same.2 fun x _ => ⟨rfl, hrefl _⟩, fun x hx => ?_⟩
  rw [List.mem_singleton.1 hx, List.mem_map]
  rintro ⟨y, hy, hid⟩
  exact record?_eq_none_iff.1 hnew y hy hid

/-- Flagging the records of a batch changes them in place. -/
theorem Shifts.withFlag {R : Bool → Bool → Prop} (hrefl : ∀ a, R a a) (ids : List Uuid) (b : Bool)
    (hflag : ∀ r, r.id ∈ ids → R (f.passes r) (f.passes { r with archived := b })) :
    ix.Shifts f R (ix.withFlag ids b) := by
  refine .of_map (g := fun x => if x.id ∈ ids then { x with archived := b } else x) (fun x _ => ?_) rfl
  split
  · exact ⟨rfl, hflag x ‹_›⟩
  · exact ⟨rfl, hrefl _⟩

/-- Records kept in place keep their ids in order. -/
theorem ids_of_forall₂ {R : DatasetRecord → DatasetRecord → Prop} {l l' : List DatasetRecord}
    (h : List.Forall₂ (fun r r' => r'.id = r.id ∧ R r r') l l') : l'.map (·.id) = l.map (·.id) := by
  induction h with
  | nil => rfl
  | cons hr _ ih => simp only [List.map_cons, hr.1, ih]

/-- Records kept in place, each passing `q` afterwards only if it passed `p`
before, pass in the order they did: the ids of those passing after are a
sublist of the ids of those passing before. -/
theorem ids_filter_sublist {p q : DatasetRecord → Bool} {l l' : List DatasetRecord}
    (h : List.Forall₂ (fun r r' => r'.id = r.id ∧ q r' ≤ p r) l l') :
    ((l'.filter q).map (·.id)).Sublist ((l.filter p).map (·.id)) := by
  induction h with
  | nil => exact .slnil
  | @cons r r' l l' hr _ ih =>
    by_cases hq : q r' = true
    · rw [List.filter_cons_of_pos hq, List.filter_cons_of_pos (hr.2 hq), List.map_cons,
        List.map_cons, hr.1]
      exact ih.cons_cons _
    · rw [List.filter_cons_of_neg hq]
      by_cases hp : p r = true
      · rw [List.filter_cons_of_pos hp, List.map_cons]
        exact ih.cons _
      · rw [List.filter_cons_of_neg hp]
        exact ih

theorem Shifts.mem_ids {R : Bool → Bool → Prop} (h : ix.Shifts f R ix') {x : Uuid}
    (hx : x ∈ ix.datasets.map (·.id)) : x ∈ ix'.datasets.map (·.id) := by
  obtain ⟨kept, added, heq, hkept, -⟩ := h
  rw [heq, List.map_append, ids_of_forall₂ hkept]
  exact List.mem_append_left _ hx

/-- Across a write that starts no record passing, the passing ids are those
passing before, some dropped, followed by new ids. -/
theorem Shifts.passing_down (h : ix.Shifts f (fun a b => b ≤ a) ix') :
    ∃ kept added, (ix'.passing f).map (·.id) = kept ++ added ∧
      kept.Sublist ((ix.passing f).map (·.id)) ∧ ∀ x ∈ added, x ∉ ix.datasets.map (·.id) := by
  obtain ⟨kept, added, heq, hkept, hnew⟩ := h
  refine ⟨(kept.filter f.passes).map (·.id), (added.filter f.passes).map (·.id), ?_,
    ids_filter_sublist hkept, fun x hx => ?_⟩
  · rw [passing_eq_filter, heq, List.filter_append, List.map_append]
  · obtain ⟨r, hr, rfl⟩ := List.mem_map.1 hx
    exact hnew r (List.mem_filter.1 hr).1

/-- Across a write that stops no record passing, the ids passing before still
pass, in order. -/
theorem Shifts.passing_up (h : ix.Shifts f (· ≤ ·) ix') :
    ((ix.passing f).map (·.id)).Sublist ((ix'.passing f).map (·.id)) := by
  obtain ⟨kept, added, heq, hkept, -⟩ := h
  have hflip : List.Forall₂ (fun r' r => r.id = r'.id ∧ f.passes r ≤ f.passes r') kept ix.datasets :=
    List.Forall₂.flip (hkept.imp fun _ _ hr => ⟨hr.1.symm, hr.2⟩)
  rw [passing_eq_filter, passing_eq_filter, heq, List.filter_append, List.map_append]
  exact (ids_filter_sublist hflip).trans (List.sublist_append_left _ _)

/-- An id stored, and not at or past the offset `o` among the passing records,
stays so across a write that starts no record passing. -/
theorem Shifts.behind (h : ix.Shifts f (fun a b => b ≤ a) ix') {x : Uuid} {o : Nat}
    (hx : x ∈ ix.datasets.map (·.id)) (hbehind : x ∉ ((ix.passing f).drop o).map (·.id)) :
    x ∈ ix'.datasets.map (·.id) ∧ x ∉ ((ix'.passing f).drop o).map (·.id) := by
  refine ⟨h.mem_ids hx, fun hx' => ?_⟩
  obtain ⟨kept, added, heq, hsub, hnew⟩ := h.passing_down
  rw [List.map_drop, heq, List.drop_append] at hx'
  rcases List.mem_append.1 hx' with hk | ha
  · exact hbehind (List.map_drop .. ▸ (hsub.drop o).subset hk)
  · exact hnew x (List.mem_of_mem_drop ha) hx

/-- An id at or past the offset `o` among the passing records stays so across a
write that stops no record passing. -/
theorem Shifts.ahead (h : ix.Shifts f (· ≤ ·) ix') {x : Uuid} {o : Nat}
    (hx : x ∈ ((ix.passing f).drop o).map (·.id)) : x ∈ ((ix'.passing f).drop o).map (·.id) := by
  rw [List.map_drop] at hx ⊢
  exact (h.passing_up.drop o).subset hx

end Index

namespace Request

/-- The datasets a request archives. -/
def archived : Request → List Uuid
  | archive ids _ => ids
  | _ => []

variable {ρ : Request} {f : CandidateFilter} {ix ix' : Index}

/-- A request's write seen through a filter: stored records keep their places
and ids, a record's flag changes only when the request archives or restores it,
and an add appends the record of a new id. -/
theorem Guarantee.shifts {R : Bool → Bool → Prop} (hrefl : ∀ a, R a a) (hd : ix.IdsDistinct)
    (hg : ρ.Guarantee ix ix')
    (harchive : ∀ r, r.id ∈ ρ.archived → R (f.passes r) (f.passes { r with archived := true }))
    (hrestore : ∀ r, r.id ∈ ρ.restored → R (f.passes r) (f.passes { r with archived := false })) :
    ix.Shifts f R ix' := by
  rcases hg.cases_write hd with hsame | ⟨d, withLineage, -, hnew, rfl⟩ |
    ⟨d, withLineage, r, -, hr, rfl⟩ | ⟨name, -, rfl⟩ | ⟨ids, force, rfl, rfl⟩ | ⟨ids, rfl, rfl⟩
  · subst ix'
    exact .refl hrefl _
  · exact .of_append hrefl (by rwa [DatasetRecord.ofDataset_id]) rfl
  · refine .of_map (g := fun x => if x.id == d.id then r.addLocations d.uris else x)
      (fun x hx => ?_) rfl
    split
    next hid =>
      -- the record merged into is the one stored under the id
      obtain rfl : x = r := hd.eq_of_id hr hx (beq_iff_eq.1 hid)
      exact ⟨DatasetRecord.addLocations_id x _, by rw [CandidateFilter.passes_addLocations]; exact hrefl _⟩
    next => exact ⟨rfl, hrefl _⟩
  · exact .of_map (g := id) (fun _ _ => ⟨rfl, hrefl _⟩) (List.map_id _).symm
  · exact .withFlag hrefl ids true harchive
  · exact .withFlag hrefl ids false hrestore

/-- A request that restores nothing starts no record passing a filter; nor does
any request where the filter takes archived records in. -/
theorem Guarantee.shifts_down (hd : ix.IdsDistinct) (hg : ρ.Guarantee ix ix')
    (hρ : f.includeArchived = true ∨ ρ.restored = []) : ix.Shifts f (fun a b => b ≤ a) ix' := by
  refine hg.shifts (fun a => le_refl a) hd (fun r _ => f.passes_archive_le r) fun r hr => ?_
  rcases hρ with hinc | hnone
  · exact (f.passes_flag r hinc false).le
  · rw [hnone] at hr
    cases hr

/-- A request that archives nothing stops no record passing a filter; nor does
any request where the filter takes archived records in. -/
theorem Guarantee.shifts_up (hd : ix.IdsDistinct) (hg : ρ.Guarantee ix ix')
    (hρ : f.includeArchived = true ∨ ρ.archived = []) : ix.Shifts f (· ≤ ·) ix' := by
  refine hg.shifts (fun a => le_refl a) hd (fun r hr => ?_) fun r _ => f.passes_le_restore r
  rcases hρ with hinc | hnone
  · exact (f.passes_flag r hinc true).ge
  · rw [hnone] at hr
    cases hr

end Request

/-! ### Pages -/

namespace Index

variable {ix : Index}

theorem passing_ids_nodup (hd : ix.IdsDistinct) (f : CandidateFilter) :
    ((ix.passing f).map (·.id)).Nodup :=
  (List.filter_sublist.map _).nodup hd

theorem mem_of_passing {f : CandidateFilter} {r : DatasetRecord} {o : Nat}
    (hr : r ∈ (ix.passing f).drop o) : r ∈ ix.datasets :=
  List.mem_of_mem_filter (List.mem_of_mem_drop hr)

theorem mem_ids_of_passing {f : CandidateFilter} {x : Uuid} {o : Nat}
    (hx : x ∈ ((ix.passing f).drop o).map (·.id)) : x ∈ ix.datasets.map (·.id) :=
  ((List.drop_sublist _ _).trans List.filter_sublist).map _ |>.subset hx

end Index

/-- In a list of records with distinct ids, the ids of the first `n` are none
of the ids after them. -/
theorem ids_take_disjoint_drop {rs : List DatasetRecord} (hnd : (rs.map (·.id)).Nodup) (n : Nat)
    {x : Uuid} (hx : x ∈ (rs.take n).map (·.id)) : x ∉ (rs.drop n).map (·.id) := by
  rw [← List.take_append_drop n rs, List.map_append, List.nodup_append] at hnd
  exact fun hx' => hnd.2.2 x hx x hx' rfl

namespace SearchPlan

/-- The plan finds the dataset `id` in `ix`: its record passes the first
phase, and the plan binds it to a dataset that the exact check accepts. -/
def Finds (p : SearchPlan) (ix : Index) (id : Uuid) : Prop :=
  ∃ r, ix.record? id = some r ∧ p.prefilter.passes r = true ∧
    ∃ q, p.product? r.product = some q ∧ p.accepts (r.bind q) = true

variable {p : SearchPlan}

theorem finds_iff {ix : Index} {id : Uuid} : p.Finds ix id ↔
    (ix.record? id).any (fun r => p.prefilter.passes r &&
      (p.product? r.product).any fun q => p.accepts (r.bind q)) = true := by
  simp only [Finds, Option.any_eq_true, Bool.and_eq_true]

instance (p : SearchPlan) (ix : Index) (id : Uuid) : Decidable (p.Finds ix id) :=
  decidable_of_iff _ finds_iff.symm

/-- A plan that finds a dataset has products. -/
theorem Finds.not_isEmpty {ix : Index} {id : Uuid} (h : p.Finds ix id) : p.isEmpty = false := by
  obtain ⟨r, -, -, q, hq, -⟩ := h
  have hmem : q ∈ p.products := List.mem_of_find?_eq_some hq
  simpa [isEmpty, List.isEmpty_iff] using List.ne_nil_of_mem hmem

/-- The datasets a page gives keep the ids of their records, in order. -/
theorem ids_pageMatches_sublist (p : SearchPlan) (page : List DatasetRecord) :
    ((p.pageMatches page).map (·.id)).Sublist (page.map (·.id)) := by
  induction page with
  | nil => exact .slnil
  | cons r page ih =>
    simp only [pageMatches] at ih ⊢
    cases hq : p.product? r.product with
    | none =>
      simp only [List.filterMap_cons, hq, Option.map_none, List.map_cons]
      exact ih.cons _
    | some q =>
      simp only [List.filterMap_cons, hq, Option.map_some, List.map_cons]
      by_cases hacc : p.accepts (r.bind q) = true
      · rw [List.filter_cons_of_pos hacc, List.map_cons]
        exact ih.cons_cons _
      · rw [List.filter_cons_of_neg hacc]
        exact ih.cons _

theorem bind_mem_pageMatches {page : List DatasetRecord} {r : DatasetRecord} {q : Product}
    (hr : r ∈ page) (hq : p.product? r.product = some q) (hacc : p.accepts (r.bind q) = true) :
    r.bind q ∈ p.pageMatches page := by
  simp only [pageMatches, List.mem_filter, List.mem_filterMap]
  exact ⟨⟨r, hr, by simp [hq]⟩, hacc⟩

/-- Without an ordering, finishing a search only cuts what it found. -/
theorem finish_sublist (hord : p.orderBy = none) (ds : List Dataset) : (p.finish ds).Sublist ds := by
  unfold finish
  rw [hord]
  cases p.limit with
  | none => exact .refl _
  | some n => exact List.take_sublist n ds

theorem finish_of_none (hord : p.orderBy = none) (hlim : p.limit = none) (ds : List Dataset) :
    p.finish ds = ds := by
  unfold finish
  rw [hord, hlim]

theorem wantsMore_of_none (hlim : p.limit = none) (found : List Dataset) : p.wantsMore found = true := by
  simp [wantsMore, hlim]

end SearchPlan

namespace Client

/-- A search reads the page at its offset among the records passing its first
phase, and changes nothing. -/
theorem advance_pages (p : SearchPlan) (o : Nat) (found : List Dataset) (ix : Index) :
    (pages p o found).advance ix =
      some (ix, afterPage p o found (((ix.passing p.prefilter).drop o).take Index.pageSize)) :=
  rfl

/-- What a search for `p` keeps while it repeats nothing: the datasets found so
far have distinct ids, each stored and none at or past the offset among the
records passing the first phase; a finished search returned distinct datasets. -/
def Unrepeated (p : SearchPlan) : Client → Index → Prop
  | pages q o found, ix => q = p ∧ (found.map (·.id)).Nodup ∧
      ∀ x ∈ found.map (·.id), x ∈ ix.datasets.map (·.id) ∧
        x ∉ ((ix.passing p.prefilter).drop o).map (·.id)
  | finish (.ok (.datasets ds)), _ => (ds.map (·.id)).Nodup
  | _, _ => False

/-- What a search for `p` keeps about a dataset `x` it is to find: `x` was
found, or it is at or past the offset among the records passing the first
phase; a finished search returned it. -/
def Reaches (p : SearchPlan) (x : Uuid) : Client → Index → Prop
  | pages q o found, ix => q = p ∧
      (x ∈ found.map (·.id) ∨ x ∈ ((ix.passing p.prefilter).drop o).map (·.id))
  | finish (.ok (.datasets ds)), _ => x ∈ ds.map (·.id)
  | _, _ => False

variable {p : SearchPlan} {c c' : Client} {ix ix' : Index}

theorem unrepeated_search (p : SearchPlan) (ix : Index) : Unrepeated p (search p) ix := by
  unfold search
  split
  · exact List.nodup_nil
  · exact ⟨rfl, List.nodup_nil, fun x hx => by cases hx⟩

theorem reaches_search {x : Uuid} (h : p.Finds ix x) : Reaches p x (search p) ix := by
  have hne := h.not_isEmpty
  obtain ⟨r, hr, hpass, -⟩ := h
  rw [search, hne]
  refine ⟨rfl, .inr ?_⟩
  rw [List.drop_zero, ← Index.record?_id hr]
  exact List.mem_map_of_mem (List.mem_filter.2 ⟨Index.record?_mem hr, hpass⟩)

/-- A search that has repeated nothing reads a page and still has not: the page
holds distinct ids, all at or past the offset, so none found before. -/
theorem Unrepeated.advance (hord : p.orderBy = none) (hd : ix.IdsDistinct) (h : Unrepeated p c ix)
    (hadv : c.advance ix = some (ix', c')) : ix' = ix ∧ Unrepeated p c' ix := by
  cases c with
  | finish o => simp [Client.advance] at hadv
  | call d k => cases h
  | pages q o found =>
    obtain ⟨hq, hnd, hfound⟩ := h
    subst q
    rw [advance_pages] at hadv
    obtain ⟨rfl, rfl⟩ := Prod.mk.inj (Option.some.inj hadv)
    refine ⟨rfl, ?_⟩
    set rest := (ix.passing p.prefilter).drop o with hrest
    have hrestnd : (rest.map (·.id)).Nodup := by
      rw [hrest, List.map_drop]
      exact (List.drop_sublist _ _).nodup (Index.passing_ids_nodup hd _)
    have hpage : ((p.pageMatches (rest.take Index.pageSize)).map (·.id)).Sublist (rest.map (·.id)) :=
      (p.ids_pageMatches_sublist _).trans ((List.take_sublist _ _).map _)
    have hnd' : ((found ++ p.pageMatches (rest.take Index.pageSize)).map (·.id)).Nodup := by
      rw [List.map_append, List.nodup_append]
      refine ⟨hnd, hpage.nodup hrestnd, ?_⟩
      rintro x hx y hy rfl
      exact (hfound x hx).2 (hpage.subset hy)
    unfold afterPage
    dsimp only
    split
    · refine ⟨rfl, hnd', fun x hx => ?_⟩
      rw [← List.drop_drop]
      rw [List.map_append, List.mem_append] at hx
      rcases hx with hx | hx
      · -- found before: behind the offset, so behind the next one too
        exact ⟨(hfound x hx).1, fun hx' => (hfound x hx).2 (((List.drop_sublist _ _).map _).subset hx')⟩
      · -- found on this page: behind the next offset
        have hx := (p.ids_pageMatches_sublist _).subset hx
        exact ⟨Index.mem_ids_of_passing (((List.take_sublist _ _).map _).subset hx),
          ids_take_disjoint_drop hrestnd _ hx⟩
    · exact ((p.finish_sublist hord _).map _).nodup hnd'

/-- A search that is to find `x` reads a page: `x` was found, is on the page,
or lies past it; and a record past the page makes the page full, so the search
reads on. -/
theorem Reaches.advance (hord : p.orderBy = none) (hlim : p.limit = none) (hd : ix.IdsDistinct)
    {x : Uuid} (hfind : p.Finds ix x) (h : Reaches p x c ix) (hadv : c.advance ix = some (ix', c')) :
    ix' = ix ∧ Reaches p x c' ix := by
  cases c with
  | finish o => simp [Client.advance] at hadv
  | call d k => cases h
  | pages q o found =>
    obtain ⟨hq, hx⟩ := h
    subst q
    rw [advance_pages] at hadv
    obtain ⟨rfl, rfl⟩ := Prod.mk.inj (Option.some.inj hadv)
    refine ⟨rfl, ?_⟩
    set rest := (ix.passing p.prefilter).drop o with hrest
    have hfound : x ∈ found.map (·.id) ∨ x ∈ (rest.take Index.pageSize).map (·.id) →
        x ∈ (found ++ p.pageMatches (rest.take Index.pageSize)).map (·.id) := by
      rw [List.map_append, List.mem_append]
      refine Or.imp_right fun hx => ?_
      -- the record on the page with id `x` is the one the plan finds
      obtain ⟨r, hr, -, q, hq, hacc⟩ := hfind
      obtain ⟨y, hy, rfl⟩ := List.mem_map.1 hx
      obtain rfl : y = r := hd.eq_of_id hr (Index.mem_of_passing ((List.take_sublist _ _).subset hy)) rfl
      exact List.mem_map_of_mem (p.bind_mem_pageMatches hy hq hacc)
    -- the records from the offset on are the page and those past it
    have hsplit : x ∈ rest.map (·.id) →
        x ∈ (rest.take Index.pageSize).map (·.id) ∨ x ∈ (rest.drop Index.pageSize).map (·.id) := by
      rw [← List.mem_append, ← List.map_append, List.take_append_drop]
      exact id
    unfold afterPage
    dsimp only
    split
    · refine ⟨rfl, ?_⟩
      rw [← List.drop_drop]
      rcases hx with hx | hx
      · exact .inl (hfound (.inl hx))
      · exact (hsplit hx).imp_left fun hx => hfound (.inr hx)
    · rename_i hlast
      rw [p.finish_of_none hord hlim]
      refine hfound (hx.imp_right fun hx => (hsplit hx).resolve_right fun hpast => hlast ⟨?_, ?_⟩)
      · -- a record past the page leaves the page full
        have hlong : Index.pageSize < rest.length := by
          have := List.length_pos_of_mem hpast
          rw [List.length_map, List.length_drop] at this
          omega
        rw [List.length_take]
        omega
      · exact p.wantsMore_of_none hlim _

/-- A write that starts no record passing keeps a search unrepeated. -/
theorem Unrepeated.shift (h : ix.Shifts p.prefilter (fun a b => b ≤ a) ix') :
    Unrepeated p c ix → Unrepeated p c ix' := by
  cases c with
  | pages q o found =>
    rintro ⟨hq, hnd, hfound⟩
    exact ⟨hq, hnd, fun x hx => h.behind (hfound x hx).1 (hfound x hx).2⟩
  | finish o =>
    rcases o with _ | a
    · exact id
    · cases a <;> exact id
  | call d k => exact id

/-- A write that stops no record passing keeps a search on its way to `x`. -/
theorem Reaches.shift {x : Uuid} (h : ix.Shifts p.prefilter (· ≤ ·) ix') :
    Reaches p x c ix → Reaches p x c ix' := by
  cases c with
  | pages q o found => exact And.imp_right (Or.imp_right h.ahead)
  | finish o =>
    rcases o with _ | a
    · exact id
    · cases a <;> exact id
  | call d k => exact id

end Client

/-! ### A search among writers -/

namespace System

/-- A search for `p`, client 0, and the writers `reqs` after it, on `ix`. -/
def stream (ix : Index) (p : SearchPlan) (reqs : List Request) : System :=
  ⟨ix, Client.search p :: reqs.map Request.client⟩

theorem step_cons_zero {ix ix' : Index} {c c' : Client} {cs : List Client}
    (h : c.advance ix = some (ix', c')) : (System.mk ix (c :: cs)).step 0 = ⟨ix', c' :: cs⟩ := by
  simp [step, h]

theorem step_cons_zero_of_none {ix : Index} {c : Client} {cs : List Client}
    (h : c.advance ix = none) : (System.mk ix (c :: cs)).step 0 = ⟨ix, c :: cs⟩ := by
  simp [step, h]

/-- A step of a client after the first is a step of the system without the first. -/
theorem step_cons_succ (ix : Index) (c : Client) (cs : List Client) (j : Nat) :
    (System.mk ix (c :: cs)).step (j + 1) =
      ⟨((System.mk ix cs).step j).index, c :: ((System.mk ix cs).step j).clients⟩ := by
  simp only [step, List.getElem?_cons_succ]
  split
  · split <;> simp
  · rfl

/-- A system whose client 0 is a search of which `F` holds and whose other
clients are writers at the stages of `reqs`, on an index with distinct ids. -/
structure SearchAmong (reqs : List Request) (F : Client → Index → Prop) (s : System) : Prop where
  idsDistinct : s.index.IdsDistinct
  split : ∃ c cs, s.clients = c :: cs ∧ (System.mk s.index cs).AtStages reqs ∧ F c s.index

variable {reqs : List Request} {F : Client → Index → Prop} {Q : Index → Prop}

theorem searchAmong_stream {ix : Index} (hd : ix.IdsDistinct) {p : SearchPlan}
    (hF : F (Client.search p) ix) : SearchAmong reqs F (stream ix p reqs) :=
  ⟨hd, _, _, rfl, atStages_start ix reqs, hF⟩

/-- One step of a search among writers: the search's own step keeps `F` where
`Q` holds, and every writer's step keeps it across its request's guarantee. -/
theorem SearchAmong.step
    (hown : ∀ {c c' ix ix'}, ix.IdsDistinct → Q ix → F c ix → c.advance ix = some (ix', c') →
      ix' = ix ∧ F c' ix)
    (hwrite : ∀ ρ ∈ reqs, ∀ {c ix ix'}, ix.IdsDistinct → ρ.Guarantee ix ix' → F c ix → F c ix')
    {s : System} (hs : SearchAmong reqs F s) (hq : Q s.index) (i : Nat) :
    SearchAmong reqs F (s.step i) := by
  obtain ⟨ix, clients⟩ := s
  obtain ⟨hd, c, cs, hcl, hat, hf⟩ := hs
  dsimp only at hcl hat hf hd hq
  subst hcl
  cases i with
  | zero =>
    cases hadv : c.advance ix with
    | none =>
      rw [step_cons_zero_of_none hadv]
      exact ⟨hd, c, cs, rfl, hat, hf⟩
    | some next =>
      obtain ⟨ix', c'⟩ := next
      obtain ⟨rfl, hf'⟩ := hown hd hq hf hadv
      rw [step_cons_zero hadv]
      exact ⟨hd, c', cs, rfl, hat, hf'⟩
  | succ j =>
    rw [step_cons_succ]
    -- a writer moved: the search's fact crosses the writer's guarantee
    rcases hat.step_cases j with hsame | ⟨ρ, d, ix', d', hρ, -, -, hg, hstep⟩
    · rw [hsame]
      exact ⟨hd, c, cs, rfl, hsame ▸ hat.step j, hf⟩
    · have hat' := hat.step j
      rw [hstep] at hat' ⊢
      exact ⟨hg.idsDistinct hd, c, _, rfl, hat', hwrite ρ (List.mem_of_getElem? hρ) hd hg hf⟩

/-- What every step keeps holds after every schedule along which `Q` holds
before each step. -/
theorem SearchAmong.run
    (hown : ∀ {c c' ix ix'}, ix.IdsDistinct → Q ix → F c ix → c.advance ix = some (ix', c') →
      ix' = ix ∧ F c' ix)
    (hwrite : ∀ ρ ∈ reqs, ∀ {c ix ix'}, ix.IdsDistinct → ρ.Guarantee ix ix' → F c ix → F c ix') :
    ∀ (sched : List Nat) {s : System}, SearchAmong reqs F s →
      (∀ k < sched.length, Q (s.run (sched.take k)).index) → SearchAmong reqs F (s.run sched)
  | [], _, hs, _ => hs
  | i :: sched, s, hs, hq =>
    SearchAmong.run hown hwrite sched (hs.step hown hwrite (hq 0 (by simp)) i)
      fun k hk => hq (k + 1) (by simp [hk])

end System

/-! ### Streams under writes -/

/-- A search for `p` without an ordering, read page by page while the writers
`reqs` run, over any schedule after which it has finished with `ds`. If no
writer restores a dataset, or the plan takes archived datasets in, no dataset
is returned twice. Without a limit, if no writer archives a dataset, or the
plan takes archived datasets in, every dataset the plan finds in every state
of the run is returned. -/
theorem stream_pages_under_writes (p : SearchPlan) (reqs : List Request) {ix : Index}
    (hd : ix.IdsDistinct) (hord : p.orderBy = none) (sched : List Nat) {ds : List Dataset}
    (hfin : ((System.stream ix p reqs).run sched).clients[0]? = some (.finish (.ok (.datasets ds)))) :
    ((p.includeArchived = true ∨ ∀ ρ ∈ reqs, ρ.restored = []) → (ds.map (·.id)).Nodup) ∧
    (p.limit = none → (p.includeArchived = true ∨ ∀ ρ ∈ reqs, ρ.archived = []) →
      ∀ x, (∀ k ≤ sched.length, p.Finds ((System.stream ix p reqs).run (sched.take k)).index x) →
        x ∈ ds.map (·.id)) := by
  -- what the search keeps is read off its finished client
  have hfinished : ∀ {F : Client → Index → Prop},
      System.SearchAmong reqs F ((System.stream ix p reqs).run sched) →
        F (.finish (.ok (.datasets ds))) ((System.stream ix p reqs).run sched).index := by
    rintro F ⟨-, c, cs, hcl, -, hf⟩
    rw [hcl, List.getElem?_cons_zero, Option.some.injEq] at hfin
    exact hfin ▸ hf
  constructor
  · intro hρ
    exact hfinished (System.SearchAmong.run (Q := fun _ => True)
      (fun hd _ hf hadv => Client.Unrepeated.advance hord hd hf hadv)
      (fun ρ hmem _ _ _ hd hg hf => hf.shift (hg.shifts_down hd (hρ.imp_right fun h => h ρ hmem)))
      sched (System.searchAmong_stream hd (Client.unrepeated_search p ix)) fun _ _ => trivial)
  · intro hlim hρ x hfind
    exact hfinished (System.SearchAmong.run (Q := fun ix => p.Finds ix x)
      (fun hd hq hf hadv => Client.Reaches.advance hord hlim hd hq hf hadv)
      (fun ρ hmem _ _ _ hd hg hf => hf.shift (hg.shifts_up hd (hρ.imp_right fun h => h ρ hmem)))
      sched (System.searchAmong_stream hd (Client.reaches_search (hfind 0 (Nat.zero_le _))))
      fun k hk => hfind k hk.le)

/-- Adding the dataset derived from the scene, with its lineage. -/
def derivedSceneAdd : Request := .add (derivedScene (sceneProduct "mt" "a0" "a1")) true

/-- A January search of the scene's index reads its page after the derived
dataset is added, and returns both. -/
theorem derived_scene_streamed :
    januaryIndex.IdsDistinct ∧ januaryPlan.orderBy = none ∧
    ∃ ds, ((System.stream januaryIndex januaryPlan [derivedSceneAdd]).run [1, 1, 0]).clients[0]? =
        some (.finish (.ok (.datasets ds))) ∧ ds.map (·.id) = [⟨1⟩, ⟨2⟩] ∧
      ((januaryPlan.includeArchived = true ∨ ∀ ρ ∈ [derivedSceneAdd], ρ.restored = []) →
        (ds.map (·.id)).Nodup) ∧
      (januaryPlan.limit = none →
        (januaryPlan.includeArchived = true ∨ ∀ ρ ∈ [derivedSceneAdd], ρ.archived = []) →
        ∀ x, (∀ k ≤ [1, 1, 0].length,
          januaryPlan.Finds ((System.stream januaryIndex januaryPlan [derivedSceneAdd]).run
            ([1, 1, 0].take k)).index x) → x ∈ ds.map (·.id)) :=
  have hd : januaryIndex.IdsDistinct := List.nodup_singleton _
  ⟨hd, rfl, _, rfl, rfl, stream_pages_under_writes januaryPlan [derivedSceneAdd] hd rfl [1, 1, 0] rfl⟩

/-! ### Pages shifted by an archive and by a restore -/

/-- The ids of the datasets a finished search returned. -/
def Client.returned : Client → Option (List Uuid)
  | .finish (.ok (.datasets ds)) => some (ds.map (·.id))
  | _ => none

/-- A record of product `p` with no recorded time or bounds. -/
def bulkRecord (n : Nat) : DatasetRecord := ⟨⟨n⟩, "p", .null, false, [], none, none, []⟩

/-- Records `0` to `500` of product `p`: one more than a page. -/
def bulkIndex : Index :=
  { products := [sceneProduct "mt" "a0" "a1"], datasets := (List.range 501).map bulkRecord }

/-- Every active dataset of product `p`. -/
def bulkPlan : SearchPlan := ⟨[sceneProduct "mt" "a0" "a1"], [], none, none, false, none, none⟩

/-- Archiving record `0` after the first page of a search of the 501 records
moves record `500` onto the first page, already read: the plan finds it in
every state, and the search returns records `0` to `499` only. With record `0`
archived to begin with, restoring it after the first page moves record `500`
onto the second page, and the search returns it twice. -/
theorem stream_pages_shift :
    (∀ k ≤ 3, bulkPlan.Finds
      ((System.stream bulkIndex bulkPlan [.archive [⟨0⟩] true]).run ([0, 1, 0].take k)).index ⟨500⟩) ∧
    ((System.stream bulkIndex bulkPlan [.archive [⟨0⟩] true]).run [0, 1, 0]).clients[0]?.bind
      Client.returned = some ((List.range 500).map Uuid.mk) ∧
    (((System.stream (bulkIndex.withFlag [⟨0⟩] true) bulkPlan [.restore [⟨0⟩]]).run
      [0, 1, 0]).clients[0]?.bind Client.returned).map (·.count ⟨500⟩) = some 2 :=
  ⟨by decide +kernel, by decide +kernel, by decide +kernel⟩

end Geocube
