import Geocube.Catalog.Search
import Geocube.Proofs.Except
import Geocube.Proofs.Time.Order

/-!
# The first phase of a search never loses a match

A planned search runs in two phases. `CandidateFilter.accepts` sees only the
columns an index keeps beside each dataset: the name of its product, whether it
is archived, its acquisition time and its geographic bounds. `SearchPlan.accepts`
then checks every constraint against the dataset's document.

`SearchPlan.prefilter_accepts_of_accepts` says that for columns read off the
dataset itself, the first phase passes every dataset the second accepts. Each
column has its own reason:

* the product names of the filter are those of the plan's products;
* the archived test is the same in both phases;
* the filter's time range comes from the first constraint on `time` whose value
  is a time or a pair of times, and the exact check evaluated that same
  constraint against the same value (`Predicate.timeSpan_of_evaluate_range`);
  reversed ends are harmless because overlap with a span is symmetric in them
  (`TimeRange.overlaps_new`);
* the filter's bounds are the query polygon's, present only with a polygon, and
  the exact check tested the dataset's bounds against them the other way round
  (`BoundingBox.intersects_comm`).
-/

namespace Geocube

theorem BoundingBox.intersects_comm (a b : BoundingBox) : a.intersects b = b.intersects a := by
  simp only [BoundingBox.intersects, ge_iff_le]
  cases decide (a.minX ≤ b.maxX) <;> cases decide (b.minX ≤ a.maxX) <;>
    cases decide (a.minY ≤ b.maxY) <;> cases decide (b.minY ≤ a.maxY) <;> rfl

namespace Predicate

/-- A constraint on a range of times holds only of a time value whose span the
range overlaps. -/
theorem timeSpan_of_evaluate_range {q : Predicate} {a b : Instant} {v : FieldValue}
    (hterm : q.term = .range (.time a) (.time b)) (h : q.evaluate v = true) :
    ∃ r, v.timeSpan? = some r ∧ r.start ≤ b ∧ a ≤ r.stop := by
  cases v <;>
    simp_all [evaluate, FieldValue.timeSpan?, FieldValue.numberSpan?, spansOverlap]

/-- A constraint equal to a time holds only of a time value whose span contains it. -/
theorem timeSpan_of_evaluate_eq {q : Predicate} {t : Instant} {v : FieldValue}
    (hterm : q.term = .eq (.time t)) (h : q.evaluate v = true) :
    ∃ r, v.timeSpan? = some r ∧ r.start ≤ t ∧ t ≤ r.stop := by
  cases v <;>
    simp_all [evaluate, FieldValue.timeSpan?, FieldValue.numberSpan?, spansOverlap]

end Predicate

namespace SearchPlan

/-- Planning keeps the query polygon, and gives bounds to filter on only when
there is one. -/
theorem new_geopolygon {terms : SearchTerms} {products : List Product} {plan : SearchPlan}
    (h : SearchPlan.new terms products = .ok plan) :
    plan.geopolygon = terms.geopolygon ∧
      (terms.geopolygon = none → plan.geopolygonBounds = none) := by
  unfold SearchPlan.new at h
  simp only [Except.bind_eq_ok] at h
  -- the two loops only check and collect predicates; the polygon is read last
  obtain ⟨-, -, preds, -, h⟩ := h
  cases hg : terms.geopolygon with
  | none =>
    simp only [hg, Except.pure_eq_ok, Except.bind_eq_ok] at h
    obtain ⟨_, rfl, rfl⟩ := h
    simp
  | some g =>
    simp only [hg] at h
    split at h
    · simp only [Except.pure_eq_ok, Except.bind_eq_ok] at h
      obtain ⟨_, -, rfl⟩ := h
      simp
    · simp [throw, throwThe, MonadExceptOf.throw] at h

variable {p : SearchPlan} {d : Dataset}

theorem evaluate_of_accepts (hd : p.accepts d = true) {q : Predicate} (hq : q ∈ p.predicates) :
    ∃ v, d.field q.field = some v ∧ q.evaluate v = true := by
  simp only [accepts, Bool.and_eq_true, List.all_eq_true] at hd
  have hq := hd.1.2 q hq
  split at hq
  · exact ⟨_, ‹_›, hq⟩
  · exact absurd hq Bool.false_ne_true

/-- The time range of the first phase overlaps the acquisition time of every
accepted dataset. -/
theorem prefilter_time_overlaps (hd : p.accepts d = true) {q t : TimeRange}
    (hq : p.prefilter.time = some q) (ht : d.timeRange = some t) : q.overlaps t = true := by
  simp only [prefilter] at hq
  obtain ⟨c, hc, hcq⟩ := List.exists_of_findSome?_eq_some hq
  -- `c` is the constraint the range was read from: it names `time`
  by_cases hf : c.field = timeField
  · obtain ⟨v, hv, hev⟩ := evaluate_of_accepts hd hc
    have hspan : v.timeSpan? = some t := by
      rw [← ht, Dataset.timeRange, ← hf, hv, Option.bind_some]
    simp only [hf, bne_self_eq_false, Bool.false_eq_true, if_false] at hcq
    split at hcq
    · rename_i a b hterm
      obtain ⟨r, hr, hstart, hstop⟩ := Predicate.timeSpan_of_evaluate_range hterm hev
      rw [hspan, Option.some_inj] at hr
      subst hr
      cases hcq
      exact TimeRange.overlaps_new hstart hstop
    · rename_i s hterm
      obtain ⟨r, hr, hstart, hstop⟩ := Predicate.timeSpan_of_evaluate_eq hterm hev
      rw [hspan, Option.some_inj] at hr
      subst hr
      cases hcq
      exact TimeRange.overlaps_instant hstart hstop
    · cases hcq
  · simp [hf] at hcq

/-- The bounds test of the first phase passes every accepted dataset of a
planned search. -/
theorem prefilter_bounds_intersect {terms : SearchTerms} {products : List Product}
    (hplan : SearchPlan.new terms products = .ok p) (hd : p.accepts d = true) {qb b : BoundingBox}
    (hq : p.prefilter.bounds = some qb) (hb : d.boundsLonLat = some b) : qb.intersects b = true := by
  obtain ⟨hpoly, hnone⟩ := new_geopolygon hplan
  simp only [prefilter] at hq
  simp only [accepts, Bool.and_eq_true] at hd
  have hgeo := hd.2
  cases hg : p.geopolygon with
  | none => simp [hnone (hpoly ▸ hg)] at hq
  | some g =>
    simp only [hg, hb, hq, Bool.and_eq_true] at hgeo
    rw [BoundingBox.intersects_comm]
    exact hgeo.1

/-- The first phase of a planned search passes every dataset the second phase
accepts, with any recorded time and bounds that are missing or are the
dataset's own. -/
theorem prefilter_accepts_of_columns {terms : SearchTerms} {products : List Product}
    (hplan : SearchPlan.new terms products = .ok p) (hd : p.accepts d = true)
    {time : Option TimeRange} {bounds : Option BoundingBox}
    (htime : ∀ t, time = some t → d.timeRange = some t)
    (hbounds : ∀ b, bounds = some b → d.boundsLonLat = some b) :
    p.prefilter.accepts d.product.name d.archived time bounds = true := by
  have hparts := hd
  simp only [accepts, Bool.and_eq_true] at hparts
  obtain ⟨⟨⟨hprod, harch⟩, -⟩, -⟩ := hparts
  unfold CandidateFilter.accepts
  simp only [Bool.and_eq_true]
  refine ⟨⟨⟨?_, ?_⟩, ?_⟩, ?_⟩
  · -- the product is one of the plan's, so its name is among the filter's
    obtain ⟨q, hq⟩ := Option.isSome_iff_exists.1 hprod
    have hname := List.find?_some hq
    simp only [beq_iff_eq] at hname
    simp only [prefilter, List.contains_iff_mem, List.mem_map]
    exact ⟨q, List.mem_of_find?_eq_some hq, hname⟩
  · exact harch
  · split
    · rename_i q t hq
      exact prefilter_time_overlaps hd hq (htime t rfl)
    · rfl
  · split
    · rename_i qb b hq
      exact prefilter_bounds_intersect hplan hd hq (hbounds b rfl)
    · rfl

/-- The first phase of a planned search passes the columns of every dataset the
second phase accepts: its product's name, its archived state, its acquisition
time and its geographic bounds. -/
theorem prefilter_accepts_of_accepts {terms : SearchTerms} {products : List Product}
    (hplan : SearchPlan.new terms products = .ok p) (hd : p.accepts d = true) :
    p.prefilter.accepts d.product.name d.archived d.timeRange d.boundsLonLat = true :=
  prefilter_accepts_of_columns hplan hd (fun _ h => h) (fun _ h => h)

/-! ### A search whose time range is given backwards -/

/-- A metadata type whose `time` field spans the `start` and `end` of a document. -/
def spanType : MetadataType :=
  ⟨"spans", none, ⟨⟨[["id"]]⟩, ⟨[["created"]]⟩, .empty, .empty, .empty, .empty, .empty, .empty,
    .empty, .empty,
    [("time", ⟨"time", none, .datetimeRange, .empty, ⟨[["start"]]⟩, ⟨[["end"]]⟩, [], none⟩)]⟩, .null⟩

def spanProduct : Product := ⟨"scenes", none, spanType, none, .obj [], [], none, none, [], none, .null⟩

/-- A scene acquired from the first to the third of January 2020. -/
def januaryScene : Dataset :=
  ⟨⟨1⟩, spanProduct, .obj [("created", .str "2020-01-01T00:00:00Z"),
    ("end", .str "2020-01-03T00:00:00Z"), ("start", .str "2020-01-01T00:00:00Z")], [], false, []⟩

/-- A search for the second to the fourth of January with its ends swapped. -/
def reversedSearch : SearchTerms := SearchTerms.time {} ⟨⟨18265⟩, 0, 0⟩ ⟨⟨18263⟩, 0, 0⟩

/-- The plan of `reversedSearch`: planning put the ends in order. -/
def reversedPlan : SearchPlan :=
  ⟨[spanProduct], [⟨"time", .datetimeRange, .range (.time ⟨⟨18263⟩, 0, 0⟩) (.time ⟨⟨18265⟩, 0, 0⟩)⟩],
    none, none, false, none, none⟩

theorem reversed_time_search_keeps_scene :
    SearchPlan.new reversedSearch [spanProduct] = .ok reversedPlan ∧
      reversedPlan.accepts januaryScene = true ∧
      reversedPlan.prefilter.accepts januaryScene.product.name januaryScene.archived
        januaryScene.timeRange januaryScene.boundsLonLat = true :=
  have hplan : SearchPlan.new reversedSearch [spanProduct] = .ok reversedPlan := rfl
  have hacc : reversedPlan.accepts januaryScene = true := by decide
  ⟨hplan, hacc, prefilter_accepts_of_accepts hplan hacc⟩

end SearchPlan
end Geocube
