import Geocube.Load.Lazy
import Geocube.Proofs.Load.Fold
import Geocube.Proofs.Catalog.Columns

/-!
Memoised units keep a lazy cube consistent.

A unit's computation reads the plan only, never what other units stored, so a
stored result is always what computing that unit from scratch gives (`Memo`),
whatever order the units ran in and wherever a run stopped. A scheduler is seen
through the order in which it takes the pending units and the check at which it
first finds the token cancelled (`runTasks`); the runs of the library's two
schedulers are runs of unit computations too (`runs_runUnits`), and on a token
never cancelled both fail with the first failing unit by position
(`runUnits_fst`).
-/

namespace Geocube
namespace LazyCube

/-! ## One unit -/

/-- The stored result of unit `i`, if it was computed. -/
def stored (c : LazyCube) (i : Nat) : Option (Raster × List SkippedRead) := (c.results[i]?).bind id

/-- The cube with unit `i` computed to `r`. -/
def store (c : LazyCube) (i : Nat) (r : Raster × List SkippedRead) : LazyCube :=
  { c with results := c.results.set i (some r) }

/-- What computing unit `i` from scratch gives: `none` when there is no such unit
or its band or group is missing. It reads the plan, never the stored results. -/
def unitResult (c : LazyCube) (i : Nat) : Option (LoadResult (Raster × List SkippedRead)) := do
  let u ← c.units[i]?
  let m ← c.measurements[u.band]?
  let gr ← c.groups[u.group]?
  pure (fusePlane c.context (Raster.filled u.window.height u.window.width m.fillValue)
    (c.geobox.window u.window) u.group gr.datasets m)

@[simp] theorem unitResult_withResults (c : LazyCube) (rs : List (Option (Raster × List SkippedRead))) :
    ({ c with results := rs } : LazyCube).unitResult = c.unitResult := rfl

@[simp] theorem store_results (c : LazyCube) (i : Nat) (r : Raster × List SkippedRead) :
    (c.store i r).results = c.results.set i (some r) := rfl

theorem stored_store (c : LazyCube) (i j : Nat) (r : Raster × List SkippedRead) :
    (c.store i r).stored j = if i = j ∧ i < c.results.length then some r else c.stored j := by
  unfold stored
  rw [store_results, List.getElem?_set]
  by_cases hij : i = j
  · subst hij
    by_cases hi : i < c.results.length <;> simp [hi]
  · simp [hij]

/-- Computing a unit: nothing to do when it is stored or is no unit of the plan;
otherwise its result from scratch is stored, or its failure returned. -/
theorem computeUnit_eq (c : LazyCube) (i : Nat) :
    c.computeUnit i =
      if (c.stored i).isSome then .ok c
      else (c.unitResult i).elim (.ok c) fun x => c.store i <$> x := by
  unfold computeUnit unitResult stored store
  cases hu : c.units[i]? with
  | none =>
    split
    · contradiction
    · split <;> rfl
  | some u =>
    by_cases hs : ((c.results[i]?).bind id).isSome = true
    · simp only [hs, if_true]
      rfl
    · simp only [hs, if_false, Bool.false_eq_true]
      rcases hm : c.measurements[u.band]? with _ | m
      · simp [hm]
      · rcases hg : c.groups[u.group]? with _ | gr
        · simp [hm, hg]
        · simp only [hm, hg, Option.bind_eq_bind, Option.bind_some, Option.pure_def, Option.elim_some,
            bind_pure_comp]

/-- Everything a successful unit computation can do. -/
theorem computeUnit_eq_ok {c c' : LazyCube} {i : Nat} (h : c.computeUnit i = .ok c') :
    (c' = c ∧ ((c.stored i).isSome ∨ c.unitResult i = none)) ∨
      ∃ r, c.stored i = none ∧ c.unitResult i = some (.ok r) ∧ c' = c.store i r := by
  rw [computeUnit_eq] at h
  by_cases hs : (c.stored i).isSome = true
  · rw [if_pos hs] at h
    cases h
    exact .inl ⟨rfl, .inl hs⟩
  · rw [if_neg hs] at h
    have hnone : c.stored i = none := by simpa using hs
    rcases hx : c.unitResult i with _ | (e | r)
    · rw [hx] at h
      cases h
      exact .inl ⟨rfl, .inr rfl⟩
    · rw [hx] at h
      cases h
    · rw [hx] at h
      cases h
      exact .inr ⟨r, hnone, rfl, rfl⟩

/-- A unit computation fails only on a unit not stored yet, with the failure of
computing it from scratch. -/
theorem computeUnit_eq_error {c : LazyCube} {i : Nat} {e : LoadError} (h : c.computeUnit i = .error e) :
    c.stored i = none ∧ c.unitResult i = some (.error e) := by
  rw [computeUnit_eq] at h
  by_cases hs : (c.stored i).isSome = true
  · rw [if_pos hs] at h
    cases h
  · rw [if_neg hs] at h
    refine ⟨by simpa using hs, ?_⟩
    rcases hx : c.unitResult i with _ | (e' | r) <;> rw [hx] at h <;> cases h
    rfl

theorem computeUnit_of_stored {c : LazyCube} {i : Nat} (hs : (c.stored i).isSome) :
    c.computeUnit i = .ok c := by
  rw [computeUnit_eq, if_pos hs]

theorem computeUnit_of_pending {c : LazyCube} {i : Nat} (hs : c.stored i = none) :
    c.computeUnit i = (c.unitResult i).elim (.ok c) fun x => c.store i <$> x := by
  rw [computeUnit_eq, hs]
  rfl

/-! ## What a cube may hold -/

/-- `c` is the plan `c₀` with some units computed, each to what computing it from
scratch gives. -/
structure Memo (c₀ c : LazyCube) : Prop where
  plan : c = { c₀ with results := c.results }
  length : c.results.length = c₀.units.length
  sound : ∀ i r, c.stored i = some r → c₀.unitResult i = some (.ok r)

/-- Every unit of the plan names a band and a group of it. -/
def UnitsValid (c₀ : LazyCube) : Prop := ∀ i < c₀.units.length, (c₀.unitResult i).isSome

namespace Memo

variable {c₀ c c' : LazyCube}

theorem unitResult_eq (h : Memo c₀ c) : c.unitResult = c₀.unitResult := by
  rw [h.plan]
  rfl

theorem units_eq (h : Memo c₀ c) : c.units = c₀.units := by
  rw [h.plan]

/-- A stored result is what computing the unit from scratch gives. -/
theorem stored_eq (h : Memo c₀ c) {i : Nat} (hs : (c.stored i).isSome) :
    c.stored i = (c₀.unitResult i).bind Except.toOption := by
  obtain ⟨r, hr⟩ := Option.isSome_iff_exists.1 hs
  rw [hr, h.sound i r hr]
  rfl

/-- Only units of the plan are stored. -/
theorem lt_of_stored (h : Memo c₀ c) {i : Nat} {x : Raster × List SkippedRead} (hs : c.stored i = some x) :
    i < c₀.units.length := by
  rw [← h.length]
  by_contra hge
  unfold stored at hs
  rw [List.getElem?_eq_none (Nat.le_of_not_lt hge)] at hs
  cases hs

/-- One unit computation keeps the invariant. -/
theorem computeUnit (h : Memo c₀ c) {i : Nat} (hc : c.computeUnit i = .ok c') : Memo c₀ c' := by
  rcases computeUnit_eq_ok hc with ⟨rfl, -⟩ | ⟨r, -, hr, rfl⟩
  · exact h
  · refine ⟨?_, ?_, ?_⟩
    · -- a store changes the results only
      have hp := h.plan
      cases c
      cases c₀
      simp only [LazyCube.mk.injEq] at hp
      obtain ⟨rfl, rfl, rfl, rfl, rfl, -, rfl⟩ := hp
      rfl
    · rw [store_results, List.length_set, h.length]
    · intro j r' hj
      rw [stored_store] at hj
      by_cases hij : i = j ∧ i < c.results.length
      · rw [if_pos hij] at hj
        cases hj
        rw [← hij.1, ← h.unitResult_eq, hr]
      · rw [if_neg hij] at hj
        exact h.sound j r' hj

/-- Under a valid plan, a unit computation stores exactly the unit it computes,
when it is a unit of the plan. -/
theorem stored_isSome_iff (h : Memo c₀ c) (hv : UnitsValid c₀) {i : Nat}
    (hc : c.computeUnit i = .ok c') (j : Nat) :
    (c'.stored j).isSome ↔ (c.stored j).isSome ∨ (j = i ∧ i < c₀.units.length) := by
  rcases computeUnit_eq_ok hc with ⟨rfl, hs | hx⟩ | ⟨r, hnone, -, rfl⟩
  · constructor
    · exact .inl
    · rintro (hj | ⟨rfl, -⟩)
      · exact hj
      · exact hs
  · -- a unit with no result from scratch lies outside the plan
    have hi : ¬ i < c₀.units.length := by
      intro hi
      have := hv i hi
      rw [← h.unitResult_eq, hx] at this
      exact absurd this (by simp)
    constructor
    · exact .inl
    · rintro (hj | ⟨-, hi'⟩)
      · exact hj
      · exact absurd hi' hi
  · rw [stored_store, ← h.length]
    by_cases hij : i = j
    · subst hij
      by_cases hi : i < c.results.length <;> simp [hi, hnone]
    · have hji : ¬ j = i := fun e => hij e.symm
      simp [hij, hji]

end Memo

/-- How many units are stored, read position by position. -/
theorem computedCount_eq (c : LazyCube) :
    c.computedCount = ((List.range c.results.length).filter fun j => (c.stored j).isSome).length := by
  unfold computedCount stored
  generalize c.results = l
  induction l with
  | nil => rfl
  | cons x l ih =>
    rw [List.length_cons, List.range_succ_eq_map, List.filter_cons, List.filter_cons, List.filter_map]
    cases x <;> simp [ih, Function.comp_def]

/-! ## Runs of unit computations -/

/-- Unit computations one after another; `t` lists, in order, the units whose
computation finished. Whatever a scheduler does, and wherever its run stops,
the cube it leaves is reached so. -/
inductive Runs : LazyCube → List Nat → LazyCube → Prop
  | nil (c : LazyCube) : Runs c [] c
  | step {c c' c'' : LazyCube} {i : Nat} {t : List Nat} :
      c.computeUnit i = .ok c' → Runs c' t c'' → Runs c (i :: t) c''

namespace Runs

variable {c₀ c c' c'' : LazyCube} {t t' : List Nat}

theorem trans (h : Runs c t c') (h' : Runs c' t' c'') : Runs c (t ++ t') c'' := by
  induction h with
  | nil => exact h'
  | step hc _ ih => exact .step hc (ih h')

/-- A run keeps the invariant: what is stored is what computing from scratch gives. -/
theorem memo (h : Runs c t c') (hm : Memo c₀ c) : Memo c₀ c' := by
  induction h with
  | nil => exact hm
  | step hc _ ih => exact ih (hm.computeUnit hc)

/-- After a run the stored units are those stored before and the units of the plan
whose computation finished. -/
theorem stored_isSome_iff (h : Runs c t c') (hm : Memo c₀ c) (hv : UnitsValid c₀) (j : Nat) :
    (c'.stored j).isSome ↔ (c.stored j).isSome ∨ (j ∈ t ∧ j < c₀.units.length) := by
  induction h with
  | nil => simp
  | @step c c' c'' i t hc _ ih =>
    rw [ih (hm.computeUnit hc), hm.stored_isSome_iff hv hc j, List.mem_cons]
    constructor
    · rintro ((hj | ⟨rfl, hi⟩) | ⟨hj, hn⟩)
      · exact .inl hj
      · exact .inr ⟨.inl rfl, hi⟩
      · exact .inr ⟨.inr hj, hn⟩
    · rintro (hj | ⟨rfl | hj, hn⟩)
      · exact .inl (.inl hj)
      · exact .inl (.inr ⟨rfl, hn⟩)
      · exact .inr ⟨hj, hn⟩

/-- After a run the count of computed units is the count of units stored before or
finished in the run. -/
theorem computedCount_eq (h : Runs c t c') (hm : Memo c₀ c) (hv : UnitsValid c₀) :
    c'.computedCount =
      ((List.range c₀.units.length).filter fun j => (c.stored j).isSome || decide (j ∈ t)).length := by
  rw [LazyCube.computedCount_eq, (h.memo hm).length]
  congr 1
  apply List.filter_congr
  intro j hj
  have hjn : j < c₀.units.length := List.mem_range.1 hj
  rw [Bool.eq_iff_iff, h.stored_isSome_iff hm hv j, Bool.or_eq_true, decide_eq_true_eq]
  constructor
  · rintro (hs | ⟨ht, -⟩)
    · exact .inl hs
    · exact .inr ht
  · rintro (hs | ht)
    · exact .inl hs
    · exact .inr ⟨ht, hjn⟩

end Runs

/-! ## A scheduler's run -/

section Tasks

variable {c c' : LazyCube} {i k : Nat} {tasks : List Nat}

theorem runTasks_nil (c : LazyCube) (k : Nat) :
    c.runTasks [] k = (if k = 0 then .error .cancelled else .ok (), c) := by
  rw [runTasks]

theorem runTasks_of_ok (hk : k ≠ 0) (hc : c.computeUnit i = .ok c') :
    c.runTasks (i :: tasks) k = c'.runTasks tasks (k - 1) := by
  rw [runTasks, if_neg hk, hc]

theorem runTasks_of_error {e : LoadError} (hk : k ≠ 0) (hc : c.computeUnit i = .error e) :
    c.runTasks (i :: tasks) k = (.error e, c) := by
  rw [runTasks, if_neg hk, hc]

/-! The cases of a run follow `runTasks`: the tasks ran out (`case1`), the check
found the token cancelled (`case2`), the next unit finished (`case3`) or failed
(`case4`). -/

/-- Whatever the order and wherever the token is cancelled, a run leaves the cube
reached by finishing a prefix of its tasks. -/
theorem runs_runTasks (c : LazyCube) (tasks : List Nat) (k : Nat) :
    ∃ t, t <+: tasks ∧ c.Runs t (c.runTasks tasks k).2 := by
  fun_induction c.runTasks tasks k with
  | case1 c k => exact ⟨[], List.prefix_refl _, .nil c⟩
  | case2 c i tasks => exact ⟨[], List.nil_prefix, .nil c⟩
  | case3 c i tasks k _ c' hc ih =>
    obtain ⟨t, ht, hrun⟩ := ih
    exact ⟨i :: t, (List.prefix_cons_inj i).2 ht, .step hc hrun⟩
  | case4 c i tasks k _ e _ => exact ⟨[], List.nil_prefix, .nil c⟩

/-- A run succeeds only when no check finds the token cancelled and every task
finished. -/
theorem runTasks_eq_ok (h : (c.runTasks tasks k).1 = .ok ()) :
    tasks.length < k ∧ c.Runs tasks (c.runTasks tasks k).2 := by
  fun_induction c.runTasks tasks k with
  | case1 c k =>
    by_cases hk : k = 0
    · simp [hk] at h
    · exact ⟨Nat.pos_of_ne_zero hk, .nil c⟩
  | case2 => cases h
  | case3 c i tasks k _ c' hc ih =>
    obtain ⟨hlen, hrun⟩ := ih h
    exact ⟨by simp only [List.length_cons]; omega, .step hc hrun⟩
  | case4 => cases h

theorem runTasks_of_stored (hall : ∀ i ∈ tasks, (c.stored i).isSome)
    (hk : tasks.length < k) : c.runTasks tasks k = (.ok (), c) := by
  induction tasks generalizing k with
  | nil => rw [runTasks_nil, if_neg (by omega)]
  | cons i tasks ih =>
    rw [runTasks_of_ok (by omega) (computeUnit_of_stored (hall i List.mem_cons_self))]
    exact ih (fun j hj => hall j (List.mem_cons_of_mem i hj)) (by simp at hk; omega)

theorem mem_pending : i ∈ c.pending ↔ i < c.units.length ∧ c.stored i = none := by
  simp [pending, stored, Option.isNone_iff_eq_none]

/-- Once every unit is stored nothing is pending. -/
theorem pending_eq_nil (hall : ∀ j < c.units.length, (c.stored j).isSome) : c.pending = [] := by
  rw [pending, List.filter_eq_nil_iff]
  intro j hj
  have hs := hall j (List.mem_range.1 hj)
  unfold stored at hs
  revert hs
  cases (c.results[j]?).bind id <;> simp

end Tasks

/-! ## The first failure -/

/-- The failure of the first unit among `idx` whose computation from scratch fails. -/
def firstFailure (c₀ : LazyCube) (idx : List Nat) : Option LoadError :=
  idx.findSome? fun i => (c₀.unitResult i).bind failureOf

theorem firstFailure_cons (c₀ : LazyCube) (i : Nat) (idx : List Nat) :
    firstFailure c₀ (i :: idx) = ((c₀.unitResult i).bind failureOf).or (firstFailure c₀ idx) := by
  unfold firstFailure
  rw [List.findSome?_cons]
  cases (c₀.unitResult i).bind failureOf <;> rfl

section First

variable {c₀ c c' : LazyCube} {i : Nat}

theorem failure_eq_some_iff {e : LoadError} :
    (c₀.unitResult i).bind failureOf = some e ↔ c₀.unitResult i = some (.error e) := by
  rcases c₀.unitResult i with _ | (e' | r) <;> simp [failureOf]

theorem firstFailure_eq_none_iff {idx : List Nat} :
    firstFailure c₀ idx = none ↔ ∀ i ∈ idx, (c₀.unitResult i).bind failureOf = none := by
  unfold firstFailure
  exact List.findSome?_eq_none_iff

theorem failure_eq_none_of_ok (hm : Memo c₀ c) (hc : c.computeUnit i = .ok c') :
    (c₀.unitResult i).bind failureOf = none := by
  rw [← hm.unitResult_eq]
  rcases computeUnit_eq_ok hc with ⟨-, hs | hx⟩ | ⟨r, -, hr, -⟩
  · obtain ⟨r, hr⟩ := Option.isSome_iff_exists.1 hs
    rw [hm.unitResult_eq, hm.sound i r hr]
    rfl
  · rw [hx]
    rfl
  · rw [hr]
    rfl

theorem failure_eq_of_error {e : LoadError} (hm : Memo c₀ c) (hc : c.computeUnit i = .error e) :
    (c₀.unitResult i).bind failureOf = some e := by
  rw [← hm.unitResult_eq, (computeUnit_eq_error hc).2]
  rfl

/-- A run taking the tasks in order, on a token never cancelled, fails with the
first failure among them. -/
theorem runTasks_fst (hm : Memo c₀ c) (tasks : List Nat) {k : Nat} (hk : tasks.length < k) :
    (c.runTasks tasks k).1 = (firstFailure c₀ tasks).elim (.ok ()) .error := by
  fun_induction c.runTasks tasks k with
  | case1 c k =>
    rw [if_neg (by simp at hk; omega)]
    rfl
  | case2 => simp at hk
  | case3 c i tasks k _ c' hc ih =>
    rw [firstFailure_cons, failure_eq_none_of_ok hm hc, Option.none_or]
    exact ih (hm.computeUnit hc) (by simp at hk; omega)
  | case4 c i tasks k _ e hc =>
    rw [firstFailure_cons, failure_eq_of_error hm hc, Option.some_or]
    rfl

/-- One round of the parallel run: the unit is computed whatever came before, and
the first failure is kept. -/
def parallelStep (acc : LoadResult Unit × LazyCube) (i : Nat) : LoadResult Unit × LazyCube :=
  match acc.2.computeUnit i with
  | .ok c' => (acc.1, c')
  | .error e => (match acc.1 with
    | .ok () => .error e
    | err => err, acc.2)

theorem runUnits_parallel (c : LazyCube) (idx : List Nat) :
    c.runUnits idx .parallel false = idx.foldl parallelStep (.ok (), c) := rfl

/-- The parallel run finishes every unit that does not fail. -/
theorem runs_foldl_parallelStep (hm : Memo c₀ c) (idx : List Nat) (r : LoadResult Unit) :
    c.Runs (idx.filter fun i => ((c₀.unitResult i).bind failureOf).isNone)
      (idx.foldl parallelStep (r, c)).2 := by
  induction idx generalizing c r with
  | nil => exact .nil c
  | cons i idx ih =>
    rw [List.foldl_cons, List.filter_cons]
    rcases hc : c.computeUnit i with e | c'
    · have hstep : parallelStep (r, c) i = ((match r with | .ok () => .error e | err => err), c) := by
        simp only [parallelStep, hc]
      rw [hstep, failure_eq_of_error hm hc]
      exact ih hm _
    · have hstep : parallelStep (r, c) i = (r, c') := by
        simp only [parallelStep, hc]
      rw [hstep, failure_eq_none_of_ok hm hc]
      exact .step hc (ih (hm.computeUnit hc) r)

/-- The parallel run fails with the first failure by position. -/
theorem foldl_parallelStep_fst (hm : Memo c₀ c) (idx : List Nat) :
    (idx.foldl parallelStep (.ok (), c)).1 = (firstFailure c₀ idx).elim (.ok ()) .error := by
  suffices h : ∀ (r : LoadResult Unit) (c : LazyCube), Memo c₀ c →
      (idx.foldl parallelStep (r, c)).1 = r.bind fun _ => (firstFailure c₀ idx).elim (.ok ()) .error from
    h _ c hm
  induction idx with
  | nil =>
    intro r c _
    cases r <;> rfl
  | cons i idx ih =>
    intro r c hm
    rw [List.foldl_cons, firstFailure_cons]
    rcases hc : c.computeUnit i with e | c'
    · have hstep : parallelStep (r, c) i = ((match r with | .ok () => .error e | err => err), c) := by
        simp only [parallelStep, hc]
      rw [hstep, ih _ c hm, failure_eq_of_error hm hc, Option.some_or]
      cases r <;> rfl
    · have hstep : parallelStep (r, c) i = (r, c') := by
        simp only [parallelStep, hc]
      rw [hstep, ih r c' (hm.computeUnit hc), failure_eq_none_of_ok hm hc, Option.none_or]

theorem firstFailure_pending (hm : Memo c₀ c) :
    firstFailure c₀ c.pending = firstFailure c₀ (List.range c₀.units.length) := by
  unfold firstFailure pending
  rw [hm.units_eq]
  apply findSome?_filter_of_none
  intro j _ hj
  -- a unit that is not pending is stored, so it does not fail
  have hs : (c.stored j).isSome := by
    unfold stored
    simpa using hj
  obtain ⟨r, hr⟩ := Option.isSome_iff_exists.1 hs
  rw [hm.sound j r hr]
  rfl

theorem filter_failureOf_eq_self {idx : List Nat} (h : firstFailure c₀ idx = none) :
    idx.filter (fun i => ((c₀.unitResult i).bind failureOf).isNone) = idx := by
  rw [List.filter_eq_self]
  intro i hi
  rw [List.findSome?_eq_none_iff.1 h i hi]
  rfl

end First

/-! ## The library's schedulers -/

section Library

variable {c₀ c : LazyCube}

/-- A run of one of the library's schedulers is a run of unit computations. -/
theorem runs_runUnits (hm : Memo c₀ c) (idx : List Nat) (s : Scheduler) (cancelled : Bool) :
    ∃ t, c.Runs t (c.runUnits idx s cancelled).2 := by
  cases cancelled with
  | true => exact ⟨[], .nil c⟩
  | false =>
    cases s with
    | sequential =>
      obtain ⟨t, -, h⟩ := runs_runTasks c idx (idx.length + 1)
      exact ⟨t, h⟩
    | parallel => exact ⟨_, runs_foldl_parallelStep hm idx _⟩

/-- A run of one of the library's schedulers, on a token never cancelled, fails
with the first failure by position. -/
theorem runUnits_fst (hm : Memo c₀ c) (idx : List Nat) (s : Scheduler) :
    (c.runUnits idx s false).1 = (firstFailure c₀ idx).elim (.ok ()) .error := by
  cases s with
  | sequential => exact runTasks_fst hm idx (Nat.lt_succ_self _)
  | parallel => exact foldl_parallelStep_fst hm idx

/-- A successful run of one of the library's schedulers finished all its units. -/
theorem runUnits_eq_ok (hm : Memo c₀ c) {idx : List Nat} {s : Scheduler} {cancelled : Bool}
    (h : (c.runUnits idx s cancelled).1 = .ok ()) : c.Runs idx (c.runUnits idx s cancelled).2 := by
  cases cancelled with
  | true => cases h
  | false =>
    cases s with
    | sequential => exact (runTasks_eq_ok h).2
    | parallel =>
      rw [runUnits_parallel] at h ⊢
      have hnone : firstFailure c₀ idx = none := by
        rw [foldl_parallelStep_fst hm] at h
        cases hf : firstFailure c₀ idx with
        | none => rfl
        | some e =>
          rw [hf] at h
          cases h
      have hrun := runs_foldl_parallelStep hm idx (.ok ())
      rwa [filter_failureOf_eq_self hnone] at hrun

end Library

end LazyCube
end Geocube
