import Geocube.Proofs.Load.Memo

/-!
A lazy cube computes its whole plan or nothing.

`computed` is the plan with every unit computed from scratch. Any run that
finishes every pending unit, in any order, reaches it (`Runs.eq_computed`), so a
successful `compute` never assembles a partial cube; on a token never cancelled
a `compute` fails with the plan's first failing unit or gives `computed`,
whatever was computed before (`compute_fst`); and once it has succeeded, no
later `compute` or `plane` computes a unit (`compute_again`).
-/

namespace Geocube
namespace LazyCube

/-! ## A plan and its computed cube -/

/-- The plan with every unit computed, each to what computing it from scratch
gives. -/
def computed (c₀ : LazyCube) : LazyCube :=
  { c₀ with results := (List.range c₀.units.length).map fun j => (c₀.unitResult j).bind Except.toOption }

theorem computed_stored {c₀ : LazyCube} {i : Nat} (hi : i < c₀.units.length) :
    c₀.computed.stored i = (c₀.unitResult i).bind Except.toOption := by
  unfold stored computed
  rw [List.getElem?_map, List.getElem?_range hi]
  rfl

section Plan

variable {c₀ c c' : LazyCube}

/-- A cube holding every unit of the plan is the plan computed. -/
theorem Memo.eq_computed (hm : Memo c₀ c) (hall : ∀ j < c₀.units.length, (c.stored j).isSome) :
    c = c₀.computed := by
  rw [hm.plan, computed]
  congr 1
  apply List.ext_getElem?
  intro j
  rw [List.getElem?_map]
  by_cases hj : j < c₀.units.length
  · have hstored := hm.stored_eq (hall j hj)
    have hs := hall j hj
    unfold stored at hstored hs
    rw [List.getElem?_range hj]
    rcases hr : c.results[j]? with _ | x
    · rw [hr] at hs
      cases hs
    · rw [hr] at hstored
      exact congrArg some hstored
  · rw [List.getElem?_eq_none (by rw [hm.length]; omega),
      List.getElem?_eq_none (by rw [List.length_range]; omega)]
    rfl

/-- Finishing every pending unit, in any order, leaves every unit of the plan
stored. -/
theorem Runs.stored_of_perm {tasks : List Nat} (h : Runs c tasks c') (hm : Memo c₀ c) (hv : UnitsValid c₀)
    (hp : tasks.Perm c.pending) : ∀ j < c₀.units.length, (c'.stored j).isSome := by
  intro j hj
  refine (h.stored_isSome_iff hm hv j).2 ?_
  by_cases hs : (c.stored j).isSome
  · exact .inl hs
  · refine .inr ⟨hp.mem_iff.2 (mem_pending.2 ⟨?_, by simpa using hs⟩), hj⟩
    rw [hm.units_eq]
    exact hj

/-- Finishing every pending unit, in any order, computes the plan. -/
theorem Runs.eq_computed {tasks : List Nat} (h : Runs c tasks c') (hm : Memo c₀ c) (hv : UnitsValid c₀)
    (hp : tasks.Perm c.pending) : c' = c₀.computed :=
  (h.memo hm).eq_computed (h.stored_of_perm hm hv hp)

/-- A stored result is the one the plan computed stores. -/
theorem Memo.stored_computed (hm : Memo c₀ c) {i : Nat} {x : Raster × List SkippedRead}
    (h : c.stored i = some x) : c₀.computed.stored i = some x := by
  have hs : (c.stored i).isSome := by rw [h]; rfl
  rw [computed_stored (hm.lt_of_stored h), ← hm.stored_eq hs, h]

end Plan

/-! ## Computing a plan -/

/-- A plan nothing of which is computed yet, whose every unit names a band and a
group of it. -/
structure Fresh (c₀ : LazyCube) : Prop where
  memo : Memo c₀ c₀
  valid : UnitsValid c₀
  none : ∀ i, c₀.stored i = none

section New

variable (groups : List Group) (g : GeoBox) (ms : List Measurement) (ctx : PlaneContext)
  (chunk : Nat × Nat)

theorem group_lt_of_mem_new {u : ComputeUnit} (hu : u ∈ (new groups g ms ctx chunk).units) :
    u.group < groups.length ∧ u.band < ms.length := by
  simp only [new, List.mem_flatMap, List.mem_range, List.mem_map] at hu
  obtain ⟨gr, hgr, b, hb, w, -, rfl⟩ := hu
  exact ⟨hgr, hb⟩

theorem new_results :
    (new groups g ms ctx chunk).results = (new groups g ms ctx chunk).units.map fun _ => none := rfl

theorem new_stored (i : Nat) : (new groups g ms ctx chunk).stored i = none := by
  unfold stored
  rw [new_results, List.getElem?_map]
  cases (new groups g ms ctx chunk).units[i]? <;> rfl

/-- A planned load is fresh. -/
theorem new_fresh : Fresh (new groups g ms ctx chunk) where
  memo := ⟨rfl, by rw [new_results, List.length_map], fun i r h => by simp [new_stored] at h⟩
  valid := by
    intro i hi
    have hb := group_lt_of_mem_new groups g ms ctx chunk (List.getElem_mem hi)
    have hms : (new groups g ms ctx chunk).measurements = ms := rfl
    have hgroups : (new groups g ms ctx chunk).groups = groups := rfl
    simp only [unitResult, List.getElem?_eq_getElem hi, Option.bind_eq_bind, Option.bind_some, hms, hgroups,
      List.getElem?_eq_getElem hb.1, List.getElem?_eq_getElem hb.2, Option.pure_def, Option.isSome_some]
  none := new_stored groups g ms ctx chunk

end New

section Compute

variable {c₀ c c' : LazyCube} {cube : DataCube}

theorem Fresh.pending_eq (h₀ : Fresh c₀) : c₀.pending = List.range c₀.units.length := by
  rw [pending, List.filter_eq_self]
  intro i _
  have := h₀.none i
  unfold stored at this
  rw [this]
  rfl

theorem finish_fst (p : LoadResult Unit × LazyCube) : (finish p).1 = (fun _ => p.2.assemble) <$> p.1 := by
  obtain ⟨_ | _, c⟩ := p <;> rfl

theorem finish_eq_ok {r : LoadResult Unit × LazyCube} (h : finish r = (.ok cube, c')) :
    r = (.ok (), c') ∧ cube = c'.assemble := by
  obtain ⟨_ | _, c1⟩ := r
  · cases h
  · cases h
    exact ⟨rfl, rfl⟩

/-- A successful compute, by any order of the pending units, gives the cube of
the plan computed: never a partial one. -/
theorem finish_runTasks_eq_ok (hm : Memo c₀ c) (hv : UnitsValid c₀) {tasks : List Nat} {k : Nat}
    (hp : tasks.Perm c.pending) (h : finish (c.runTasks tasks k) = (.ok cube, c')) :
    c' = c₀.computed ∧ cube = c₀.computed.assemble := by
  obtain ⟨hrun, rfl⟩ := finish_eq_ok h
  have hc' : (c.runTasks tasks k).2 = c' := by rw [hrun]
  have heq := (runTasks_eq_ok (by rw [hrun])).2.eq_computed hm hv hp
  rw [hc'] at heq
  exact ⟨heq, by rw [heq]⟩

theorem runs_of_compute_eq_ok (hm : Memo c₀ c) {s : Scheduler} {cancelled : Bool}
    (h : c.compute s cancelled = (.ok cube, c')) : c.Runs c.pending c' ∧ cube = c'.assemble := by
  obtain ⟨hrun, rfl⟩ := finish_eq_ok h
  have hruns := runUnits_eq_ok hm (by rw [hrun])
  rw [hrun] at hruns
  exact ⟨hruns, rfl⟩

theorem compute_eq_ok (hm : Memo c₀ c) (hv : UnitsValid c₀) {s : Scheduler} {cancelled : Bool}
    (h : c.compute s cancelled = (.ok cube, c')) : c' = c₀.computed ∧ cube = c₀.computed.assemble := by
  obtain ⟨hrun, rfl⟩ := runs_of_compute_eq_ok hm h
  have heq := hrun.eq_computed hm hv (List.Perm.refl _)
  exact ⟨heq, by rw [heq]⟩

/-- On a token never cancelled, the library's compute fails with the first
failing unit of the plan by position, and otherwise gives the cube of the plan
computed, whatever was computed before. -/
theorem compute_fst (hm : Memo c₀ c) (hv : UnitsValid c₀) (s : Scheduler) :
    (c.compute s false).1 =
      (firstFailure c₀ (List.range c₀.units.length)).elim (.ok c₀.computed.assemble) .error := by
  have hfst := runUnits_fst hm c.pending s
  rw [firstFailure_pending hm] at hfst
  rw [compute, finish_fst, hfst]
  cases hf : firstFailure c₀ (List.range c₀.units.length) with
  | none =>
    -- no unit fails, so the run finished every pending unit
    rw [hf] at hfst
    have hc1 := (runUnits_eq_ok hm hfst).eq_computed hm hv (List.Perm.refl _)
    rw [hc1]
    rfl
  | some e => rfl

/-- With every unit stored, a compute by any scheduler on a token never cancelled
computes nothing and assembles the stored units. -/
theorem compute_of_stored (hall : ∀ j < c.units.length, (c.stored j).isSome) (s : Scheduler) :
    c.compute s false = (.ok c.assemble, c) := by
  unfold compute
  rw [pending_eq_nil hall]
  cases s <;> rfl

/-- A run of the pending units in any order, on a token never cancelled, with no
failing unit among them, computes the plan. -/
theorem finish_runTasks_of_none (hm : Memo c₀ c) (hv : UnitsValid c₀) {tasks : List Nat} {k : Nat}
    (hp : tasks.Perm c.pending) (hk : tasks.length < k) (hf : firstFailure c₀ tasks = none) :
    (finish (c.runTasks tasks k)).1 = .ok c₀.computed.assemble := by
  have hfst := runTasks_fst hm tasks hk
  rw [hf] at hfst
  have hc := (runTasks_eq_ok hfst).2.eq_computed hm hv hp
  rw [finish_fst, hfst, hc]
  rfl

/-- On a token never cancelled, a compute that takes the pending units in any
order gives what an uninterrupted compute of the fresh plan gives, taking its
units in some order. -/
theorem finish_runTasks_later (h₀ : Fresh c₀) (hm : Memo c₀ c) (hv : UnitsValid c₀) {tasks : List Nat}
    {k : Nat} (hp : tasks.Perm c.pending) (hk : tasks.length < k) :
    ∃ tasks₀, tasks₀.Perm c₀.pending ∧
      (finish (c.runTasks tasks k)).1 = (finish (c₀.runTasks tasks₀ (tasks₀.length + 1))).1 := by
  cases hf : firstFailure c₀ tasks with
  | none =>
    -- no pending unit fails, and the others are stored, so no unit of the plan fails
    have hnone : firstFailure c₀ c₀.pending = none := by
      rw [firstFailure_pending h₀.memo, ← firstFailure_pending hm, firstFailure_eq_none_iff]
      intro i hi
      exact firstFailure_eq_none_iff.1 hf i (hp.mem_iff.2 hi)
    refine ⟨c₀.pending, List.Perm.refl _, ?_⟩
    rw [finish_runTasks_of_none hm hv hp hk hf,
      finish_runTasks_of_none h₀.memo hv (List.Perm.refl _) (Nat.lt_succ_self _) hnone]
  | some e =>
    obtain ⟨l₁, i, l₂, htasks, hi, -⟩ := List.findSome?_eq_some_iff.1 hf
    have hmem : i ∈ tasks := by
      rw [htasks]
      exact List.mem_append_right _ List.mem_cons_self
    have hpend : i ∈ c₀.pending := by
      rw [h₀.pending_eq, List.mem_range, ← hm.units_eq]
      exact (mem_pending.1 (hp.mem_iff.1 hmem)).1
    -- an uninterrupted compute that takes the failing unit first fails with it
    refine ⟨i :: c₀.pending.erase i, (List.perm_cons_erase hpend).symm, ?_⟩
    have hfail : c₀.computeUnit i = .error e := by
      rw [computeUnit_of_pending (h₀.none i), failure_eq_some_iff.1 hi]
      rfl
    rw [runTasks_of_error (by omega) hfail, finish_fst, runTasks_fst hm tasks hk, hf]
    rfl

/-- A fold over two lists zipped is a fold over their positions. -/
theorem foldl_zip_eq_foldl_range {α β γ : Type} (F : γ → α × β → γ) :
    ∀ (us : List α) (rs : List β) (init : γ), us.length = rs.length →
      (us.zip rs).foldl F init =
        (List.range us.length).foldl (fun p i =>
          match us[i]?, rs[i]? with
          | some u, some r => F p (u, r)
          | _, _ => p) init
  | [], _, _, _ => rfl
  | _ :: _, [], _, h => by simp at h
  | u :: us, r :: rs, init, h => by
    rw [List.zip_cons_cons, List.foldl_cons, List.length_cons, List.range_succ_eq_map, List.foldl_cons,
      List.foldl_map, foldl_zip_eq_foldl_range F us rs _ (by simpa using h)]
    rfl

/-- With every unit stored, a plane computes nothing and is the band of the group
in the assembled cube. -/
theorem plane_of_stored (hl : c.results.length = c.units.length)
    (hall : ∀ j < c.units.length, (c.stored j).isSome) {gr b : Nat} {band : String}
    (hb : (c.measurements.map (·.name)).idxOf? band = some b) (hg : gr < c.groups.length) :
    ∃ p, (c.assemble.data[gr]?).bind (·[b]?) = some p ∧ c.plane gr band = (.ok p, c) := by
  have hbl : b < c.measurements.length := by
    obtain ⟨hlt, -⟩ := List.idxOf?_eq_some_iff.1 hb
    simpa using hlt
  unfold plane
  rw [hb]
  simp only [ge_iff_le, if_neg (Nat.not_le.2 hg)]
  rw [runUnits, if_neg Bool.false_ne_true]
  rw [runTasks_of_stored (fun i hi => hall i (List.mem_range.1 (List.mem_filter.1 hi).1)) (Nat.lt_succ_self _)]
  refine ⟨_, ?_, rfl⟩
  simp only [assemble, List.getElem?_map, List.getElem?_range hg, Option.map_some, Option.bind_some,
    List.getElem?_range hbl, List.getD_eq_getElem?_getD, Option.some.injEq]
  -- both are folds over the unit positions; the plane skips the units of other bands
  rw [foldl_zip_eq_foldl_range _ c.units c.results _ hl.symm, List.foldl_filter]
  apply List.foldl_ext
  intro p i hi
  have hu : i < c.units.length := List.mem_range.1 hi
  have hr : i < c.results.length := by rw [hl]; exact hu
  rw [List.getElem?_eq_getElem hu, List.getElem?_eq_getElem hr]
  rcases c.results[i] with _ | ⟨chunk, sk⟩
  · simp
  · simp

/-- After a successful compute every unit is stored: a later compute by any
scheduler, and any plane, computes no unit and returns the same data. -/
theorem compute_again (hm : Memo c₀ c) (hv : UnitsValid c₀) {s : Scheduler} {cancelled : Bool}
    (h : c.compute s cancelled = (.ok cube, c')) :
    (∀ s', c'.compute s' false = (.ok cube, c')) ∧
      ∀ (gr b : Nat) (band : String), (c'.measurements.map (·.name)).idxOf? band = some b →
        gr < c'.groups.length → ∃ p, (cube.data[gr]?).bind (·[b]?) = some p ∧ c'.plane gr band = (.ok p, c') := by
  obtain ⟨hrun, rfl⟩ := runs_of_compute_eq_ok hm h
  have hm' := hrun.memo hm
  have hall : ∀ j < c'.units.length, (c'.stored j).isSome := by
    rw [hm'.units_eq]
    exact hrun.stored_of_perm hm hv (List.Perm.refl _)
  have hl : c'.results.length = c'.units.length := by rw [hm'.length, hm'.units_eq]
  exact ⟨compute_of_stored hall, fun gr b band hb hg => plane_of_stored hl hall hb hg⟩

theorem runs_compute (hm : Memo c₀ c) (s : Scheduler) (cancelled : Bool) :
    ∃ t, c.Runs t (c.compute s cancelled).2 := by
  obtain ⟨t, ht⟩ := runs_runUnits hm c.pending s cancelled
  refine ⟨t, ?_⟩
  unfold compute
  rcases hrun : c.runUnits c.pending s cancelled with ⟨_ | _, c1⟩
  all_goals
    rw [hrun] at ht
    exact ht

theorem runs_plane (hm : Memo c₀ c) (gr : Nat) (band : String) : ∃ t, c.Runs t (c.plane gr band).2 := by
  unfold plane
  split
  · exact ⟨[], .nil c⟩
  · split
    · exact ⟨[], .nil c⟩
    · dsimp only
      -- either way the plane keeps the cube its run leaves
      split
      all_goals
        rename_i hrun
        have hleft := congrArg Prod.snd hrun
        dsimp only at hleft ⊢
        rw [← hleft]
        exact runs_runUnits hm _ _ _

end Compute

/-! ## A lazy cube stays consistent -/

/-- Memoisation and cancellation leave a planned lazy cube consistent. Take any
cube `c` reached from the plan by unit computations, which every call of the
library leaves (`runs_compute`, `runs_plane`, and `runs_runTasks` for a scheduler
taking the units in any order, its token cancelled at any check). Then:
every run stores exactly what computing each finished unit from scratch stores,
and counts the units stored before or finished in it; a successful run, in any
order, or a successful `compute`, gives the cube of the whole plan computed, never
a partial one; on a fresh token a later `compute` gives what an uninterrupted one
gives, with the library's schedulers exactly and with any order for some order
of the uninterrupted run; and after a successful `compute` no later `compute` or
`plane` computes a unit, and both return the same data. -/
theorem lazy_compute_memoises (groups : List Group) (g : GeoBox) (ms : List Measurement)
    (ctx : PlaneContext) (chunk : Nat × Nat) (t : List Nat) (c : LazyCube)
    (hc : (new groups g ms ctx chunk).Runs t c) :
    (∀ s cancelled, ∃ done, c.Runs done (c.compute s cancelled).2) ∧
    (∀ gr band, ∃ done, c.Runs done (c.plane gr band).2) ∧
    (∀ tasks k, ∃ done, done <+: tasks ∧ c.Runs done (c.runTasks tasks k).2 ∧
      (∀ i x, (c.runTasks tasks k).2.stored i = some x →
        (new groups g ms ctx chunk).computed.stored i = some x) ∧
      (c.runTasks tasks k).2.computedCount =
        ((List.range (new groups g ms ctx chunk).unitCount).filter fun j =>
          (c.stored j).isSome || decide (j ∈ done)).length) ∧
    (∀ tasks k cube c', tasks.Perm c.pending → finish (c.runTasks tasks k) = (.ok cube, c') →
      c' = (new groups g ms ctx chunk).computed ∧ cube = (new groups g ms ctx chunk).computed.assemble) ∧
    (∀ s cancelled cube c', c.compute s cancelled = (.ok cube, c') →
      c' = (new groups g ms ctx chunk).computed ∧ cube = (new groups g ms ctx chunk).computed.assemble) ∧
    (∀ s, (c.compute s false).1 = ((new groups g ms ctx chunk).compute s false).1) ∧
    (∀ tasks k, tasks.Perm c.pending → tasks.length < k →
      ∃ tasks₀, tasks₀.Perm (new groups g ms ctx chunk).pending ∧
        (finish (c.runTasks tasks k)).1 =
          (finish ((new groups g ms ctx chunk).runTasks tasks₀ (tasks₀.length + 1))).1) ∧
    (∀ s cancelled cube c', c.compute s cancelled = (.ok cube, c') →
      (∀ s', c'.compute s' false = (.ok cube, c')) ∧
      ∀ (gr b : Nat) (band : String), (c'.measurements.map (·.name)).idxOf? band = some b →
        gr < c'.groups.length → ∃ p, (cube.data[gr]?).bind (·[b]?) = some p ∧ c'.plane gr band = (.ok p, c')) := by
  have h₀ := new_fresh groups g ms ctx chunk
  have hm := hc.memo h₀.memo
  have hv := h₀.valid
  refine ⟨fun s cancelled => runs_compute hm s cancelled, fun gr band => runs_plane hm gr band, ?_,
    fun tasks k cube c' hp h => finish_runTasks_eq_ok hm hv hp h,
    fun s cancelled cube c' h => compute_eq_ok hm hv h, fun s => ?_,
    fun tasks k hp hk => finish_runTasks_later h₀ hm hv hp hk,
    fun s cancelled cube c' h => compute_again hm hv h⟩
  · intro tasks k
    obtain ⟨done, hpre, hrun⟩ := runs_runTasks c tasks k
    exact ⟨done, hpre, hrun, fun i x h => (hrun.memo hm).stored_computed h,
      hrun.computedCount_eq hm hv⟩
  · rw [compute_fst hm hv s, compute_fst h₀.memo hv s]

/-- A two-pixel plan in one-pixel chunks, cancelled after its first unit: a later
compute gives what an uninterrupted compute gives. -/
theorem cancelled_run_computes_alike :
    let c₀ := new [⟨default, []⟩] ⟨.wgs84, Affine.identity, (1, 2)⟩ [default] default (1, 1)
    ((c₀.runTasks c₀.pending 1).2.compute .sequential false).1 = (c₀.compute .sequential false).1 := by
  intro c₀
  obtain ⟨t, -, ht⟩ := runs_runTasks c₀ c₀.pending 1
  exact (lazy_compute_memoises _ _ _ _ _ t _ ht).2.2.2.2.2.1 .sequential

end LazyCube
end Geocube
