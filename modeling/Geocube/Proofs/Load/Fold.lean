import Geocube.Load.Cube
import Geocube.Proofs.Except

/-!
Loading folds every read into its plane.

A load reads band `b` of every dataset of group `g` onto the destination grid
and fuses the blocks into plane `(g, b)`, datasets in group order. Reads from
in-memory stores fail only as read failures (`readContribution_failsReading`):
a missing location, no store for the scheme, an unreadable window, a failed
warp. So under the skip policy a load always succeeds.

Main statement, `loadData_fuses_reads`: under the skip policy every pixel of
plane `(g, b)` is the fuser's fold, from the band's fill value, over the values
that the successful reads of group `g`, band `b` put at that pixel, and the
skipped reads are exactly the failed ones in the order group, band, dataset.
Under the abort policy the load fails with the first failed read in that order,
and otherwise gives what the skip policy gives. A plane depends on the reads of
its own group and band only, so a failed read never touches another plane.
-/

namespace Geocube

/-! ## Reads fail only as read failures -/

/-- A computation that can fail only by a read that may be skipped. -/
def FailsReading {α : Type} (x : LoadResult α) : Prop :=
  ∀ e, x = .error e → e.isReadFailure = true

namespace FailsReading

variable {α β : Type}

theorem ok (a : α) : FailsReading (.ok a : LoadResult α) := by
  intro e h
  cases h

theorem error {e : LoadError} (he : e.isReadFailure = true) : FailsReading (.error e : LoadResult α) := by
  intro e' h
  cases h
  exact he

theorem bind {x : LoadResult α} {f : α → LoadResult β} (hx : FailsReading x)
    (hf : ∀ a, FailsReading (f a)) : FailsReading (x >>= f) := by
  intro e h
  cases hx' : x with
  | error e' =>
    rw [hx'] at h
    injection h with h
    exact h ▸ hx e' hx'
  | ok a =>
    rw [hx'] at h
    exact hf a e h

end FailsReading

theorem BandSource.ofDataset_failsReading (d : Dataset) (band : String) :
    FailsReading (BandSource.ofDataset d band) := by
  unfold BandSource.ofDataset
  split
  · exact .ok _
  · exact .error rfl

theorem Registry.openSource_failsReading (r : Registry) (s : BandSource) :
    FailsReading (r.openSource s) := by
  unfold Registry.openSource Registry.resolve MemoryStore.openSource
  dsimp only
  refine .bind ?_ fun m => ?_
  · split
    · exact .ok _
    · exact .error rfl
  · split
    · exact .error rfl
    · split
      · exact .ok _
      · exact .error rfl

theorem OpenedSource.read_failsReading (o : OpenedSource) (w : Window) :
    FailsReading (o.read w) := by
  unfold OpenedSource.read
  dsimp only
  split
  · exact .error rfl
  · exact .ok _

theorem OpenedSource.reproject_failsReading (o : OpenedSource) (dst : GeoBox) (rw : ReadWindow)
    (m : Resampling) : FailsReading (o.reproject dst rw m) := by
  unfold OpenedSource.reproject
  refine .bind (o.read_failsReading rw.src) fun block => ?_
  dsimp only
  -- every strategy either returns its block or fails in the warp
  split
  · exact .ok _
  · exact .ok _
  · exact .ok _
  · split
    · exact .ok _
    · exact .error rfl

/-- Reading a band of a dataset fails only as a read failure. -/
theorem readContribution_failsReading (d : Dataset) (m : Measurement) (g : GeoBox)
    (rs : Resampling) (registry : Registry) : FailsReading (readContribution d m g rs registry) := by
  unfold readContribution
  refine .bind (BandSource.ofDataset_failsReading d m.name) fun band => ?_
  refine .bind (registry.openSource_failsReading band) fun src => ?_
  split
  · split
    · exact .ok _
    · refine .bind (src.reproject_failsReading g _ rs) fun block => ?_
      split
      · exact .bind (.error rfl) fun _ => .ok _
      · exact .ok _
  · exact .ok _

/-! ## One read, pixel by pixel -/

/-- What a read puts at pixel `(r, c)` of the destination: the value of its
block there, when the read succeeded and its window holds the pixel. -/
def contributionAt : LoadResult (Option (Window × Raster)) → Nat → Nat → Option Float
  | .ok (some (w, block)), r, c =>
    if w.rowOff ≤ r ∧ r < w.rowEnd ∧ w.colOff ≤ c ∧ c < w.colEnd then
      some (block.get (r - w.rowOff) (c - w.colOff))
    else none
  | _, _, _ => none

/-- A plane with one read fused into it; a read that failed or found nothing
leaves the plane as it is. -/
def mergeRead (f : Fuser) (fill : Float) (p : Raster) : LoadResult (Option (Window × Raster)) → Raster
  | .ok (some (w, block)) => fuseWindow f fill p w block
  | _ => p

/-- The fuser's fold at pixel `(r, c)`, from the fill value, over what the reads
put there, in order. -/
def fusedPixel (f : Fuser) (fill : Float) (reads : List (LoadResult (Option (Window × Raster))))
    (r c : Nat) : Float :=
  (reads.filterMap (contributionAt · r c)).foldl (f.pick fill) fill

section Pixels

variable {f : Fuser} {fill : Float}

@[simp] theorem mergeRead_height (p : Raster) (x : LoadResult (Option (Window × Raster))) :
    (mergeRead f fill p x).height = p.height := by
  unfold mergeRead
  split <;> rfl

@[simp] theorem mergeRead_width (p : Raster) (x : LoadResult (Option (Window × Raster))) :
    (mergeRead f fill p x).width = p.width := by
  unfold mergeRead
  split <;> rfl

theorem get_mergeRead {p : Raster} {r c : Nat} (hr : r < p.height) (hc : c < p.width)
    (x : LoadResult (Option (Window × Raster))) :
    (mergeRead f fill p x).get r c =
      ((contributionAt x r c).map (f.pick fill (p.get r c))).getD (p.get r c) := by
  rcases x with e | (_ | ⟨w, block⟩)
  · rfl
  · rfl
  · simp only [mergeRead, contributionAt]
    unfold fuseWindow
    rw [Raster.get_ofFn hr hc]
    by_cases hin : w.rowOff ≤ r ∧ r < w.rowEnd ∧ w.colOff ≤ c ∧ c < w.colEnd
    · simp [hin]
    · simp only [hin, if_false, Option.map_none, Option.getD_none]
      simp only [Bool.and_eq_true, decide_eq_true_eq] at *
      rw [if_neg (by omega)]

/-- Fusing reads one after another folds, at each pixel, what they put there. -/
theorem get_foldl_mergeRead (reads : List (LoadResult (Option (Window × Raster)))) {p : Raster}
    {r c : Nat} (hr : r < p.height) (hc : c < p.width) :
    (reads.foldl (mergeRead f fill) p).get r c =
      (reads.filterMap (contributionAt · r c)).foldl (f.pick fill) (p.get r c) := by
  induction reads generalizing p with
  | nil => rfl
  | cons x reads ih =>
    rw [List.foldl_cons, ih (by simpa using hr) (by simpa using hc), get_mergeRead hr hc,
      List.filterMap_cons]
    cases contributionAt x r c <;> rfl

end Pixels

/-! ## A plane's loop over the datasets of its group -/

/-- The read a load with these options makes of band `m` of dataset `d`. -/
def bandRead (o : LoadOptions) (registry : Registry) (g : GeoBox) (m : Measurement) (d : Dataset) :
    LoadResult (Option (Window × Raster)) :=
  readContribution d m g (o.resamplingFor m.name) registry

/-- A source pixel as a load stores it: a missing value becomes the band's fill
value, and any other is coerced to the band's pixel type. -/
def Measurement.loadedValue (m : Measurement) (v : Float) : Float :=
  if v.isNaN then m.fillValue else m.dtype.coerce v

/-- A successful read's block is a source block with every pixel as a load
stores it. -/
theorem bandRead_masked {o : LoadOptions} {registry : Registry} {g : GeoBox} {m : Measurement}
    {d : Dataset} {w : Window} {block : Raster} (h : bandRead o registry g m d = .ok (some (w, block))) :
    ∃ raw : Raster, block = raw.map m.loadedValue := by
  unfold bandRead readContribution at h
  simp only [Except.bind_eq_ok] at h
  obtain ⟨band, -, src, -, h⟩ := h
  split at h
  next rw _ =>
    split_ifs at h
    · simp at h
    · simp only [Except.bind_eq_ok] at h
      obtain ⟨raw, -, h⟩ := h
      -- a block of the wrong shape fails the read
      split_ifs at h
      · simp at h
      · simp only [Except.pure_eq_ok, Option.some.injEq, Prod.mk.injEq] at h
        exact ⟨raw, h.2.symm⟩
  next => simp at h

/-- Every read is a read of source blocks with every pixel then stored as a load
stores it. -/
theorem bandRead_eq_map_loadedValue (o : LoadOptions) (registry : Registry) (g : GeoBox)
    (m : Measurement) (d : Dataset) :
    ∃ x : LoadResult (Option (Window × Raster)),
      bandRead o registry g m d = Option.map (fun wb => (wb.1, wb.2.map m.loadedValue)) <$> x := by
  rcases h : bandRead o registry g m d with e | (_ | ⟨w, block⟩)
  · exact ⟨.error e, rfl⟩
  · exact ⟨.ok none, rfl⟩
  · obtain ⟨raw, rfl⟩ := bandRead_masked h
    exact ⟨.ok (some (w, raw)), rfl⟩

/-- The failure of a computation, if it failed. -/
def failureOf {α : Type} : LoadResult α → Option LoadError
  | .error e => some e
  | .ok _ => none

/-- What the skip policy records of a read of band `m` of dataset `d` in group
`group`: nothing when it succeeded. -/
def skippedRead (group : Nat) (m : Measurement) (d : Dataset) (x : LoadResult (Option (Window × Raster))) :
    Option SkippedRead :=
  (failureOf x).map fun e => ⟨group, d.id, m.name, e.message⟩

/-- One round of a plane's loop: a failed read is recorded when it may be
skipped and stops the loop otherwise; any other read is merged. -/
def PlaneContext.fuseStep (ctx : PlaneContext) (g : GeoBox) (group : Nat) (m : Measurement)
    (acc : Raster × List SkippedRead) (d : Dataset) : LoadResult (Raster × List SkippedRead) :=
  match bandRead ctx.options ctx.registry g m d with
  | .error e =>
    if e.isReadFailure && ctx.options.ioErrorPolicy == .skip then
      .ok (acc.1, acc.2 ++ [⟨group, d.id, m.name, e.message⟩])
    else .error e
  | x => .ok (mergeRead ctx.fuser m.fillValue acc.1 x, acc.2)

section Plane

variable (ctx : PlaneContext) (g : GeoBox) (group : Nat) (m : Measurement)

theorem fusePlane_eq_foldlM (plane : Raster) (ds : List Dataset) :
    fusePlane ctx plane g group ds m = ds.foldlM (ctx.fuseStep g group m) (plane, []) := by
  unfold fusePlane
  simp only [bind_pure_comp]
  rw [Except.forIn_eq_foldlM_of (ctx.fuseStep g group m) (fun d s => ?_)]
  · simp
  · unfold PlaneContext.fuseStep bandRead
    rcases readContribution d m g (ctx.options.resamplingFor m.name) ctx.registry with
      e | (_ | ⟨w, block⟩)
    · by_cases hskip : (e.isReadFailure && ctx.options.ioErrorPolicy == .skip) = true
      · simp [hskip]
      · simp only [hskip]
        rfl
    · rfl
    · rfl

theorem fuseStep_of_skip (hpol : ctx.options.ioErrorPolicy = .skip) (acc : Raster × List SkippedRead)
    (d : Dataset) :
    ctx.fuseStep g group m acc d =
      .ok (mergeRead ctx.fuser m.fillValue acc.1 (bandRead ctx.options ctx.registry g m d),
        acc.2 ++ (skippedRead group m d (bandRead ctx.options ctx.registry g m d)).toList) := by
  unfold PlaneContext.fuseStep
  cases hx : bandRead ctx.options ctx.registry g m d with
  | error e =>
    -- under the skip policy every failure is recorded: reads fail only as read failures
    have hread : e.isReadFailure = true := readContribution_failsReading d m g _ ctx.registry e hx
    simp [hread, hpol, mergeRead, skippedRead, failureOf]
  | ok x => simp [skippedRead, failureOf]

/-- Under the skip policy a plane's loop merges every read and records every
failure. -/
theorem foldlM_fuseStep_of_skip (hpol : ctx.options.ioErrorPolicy = .skip) (ds : List Dataset)
    (acc : Raster × List SkippedRead) :
    ds.foldlM (ctx.fuseStep g group m) acc =
      .ok (ds.foldl (fun p d => mergeRead ctx.fuser m.fillValue p (bandRead ctx.options ctx.registry g m d)) acc.1,
        acc.2 ++ ds.filterMap fun d => skippedRead group m d (bandRead ctx.options ctx.registry g m d)) := by
  induction ds generalizing acc with
  | nil => simp
  | cons d ds ih =>
    rw [List.foldlM_cons, fuseStep_of_skip ctx g group m hpol]
    refine (ih _).trans ?_
    rw [List.filterMap_cons]
    cases skippedRead group m d (bandRead ctx.options ctx.registry g m d) <;> simp

theorem fusePlane_of_skip (hpol : ctx.options.ioErrorPolicy = .skip) (plane : Raster)
    (ds : List Dataset) :
    fusePlane ctx plane g group ds m =
      .ok (ds.foldl (fun p d => mergeRead ctx.fuser m.fillValue p (bandRead ctx.options ctx.registry g m d)) plane,
        ds.filterMap fun d => skippedRead group m d (bandRead ctx.options ctx.registry g m d)) := by
  rw [fusePlane_eq_foldlM, foldlM_fuseStep_of_skip ctx g group m hpol, List.nil_append]

end Plane

/-- A fold whose steps fail exactly where `E` says, and otherwise take the steps
of a fold that never fails, fails with the first failure `E` names. -/
theorem foldlM_eq_of_first {α β ε : Type} {step step' : β → α → Except ε β} {E : α → Option ε}
    (hstep : ∀ b a, step b a = (E a).elim (step' b a) .error)
    (hok : ∀ b a, ∃ b', step' b a = .ok b') (l : List α) (init : β) :
    l.foldlM step init = (l.filterMap E).head?.elim (l.foldlM step' init) .error := by
  induction l generalizing init with
  | nil => rfl
  | cons a l ih =>
    rw [List.foldlM_cons, List.foldlM_cons, hstep, List.filterMap_cons]
    cases hE : E a with
    | some e => rfl
    | none =>
      obtain ⟨b', hb'⟩ := hok init a
      rw [hb']
      exact ih b'

/-- The same options with the skip policy. -/
def LoadOptions.skipping (o : LoadOptions) : LoadOptions := { o with ioErrorPolicy := .skip }

@[simp] theorem bandRead_skipping (o : LoadOptions) (registry : Registry) (g : GeoBox) (m : Measurement)
    (d : Dataset) : bandRead o.skipping registry g m d = bandRead o registry g m d := rfl

theorem fusePlane_of_abort (ctx : PlaneContext) (g : GeoBox) (group : Nat) (m : Measurement)
    (hpol : ctx.options.ioErrorPolicy = .abort) (plane : Raster) (ds : List Dataset) :
    fusePlane ctx plane g group ds m =
      (ds.filterMap fun d => failureOf (bandRead ctx.options ctx.registry g m d)).head?.elim
        (fusePlane { ctx with options := ctx.options.skipping } plane g group ds m) .error := by
  rw [fusePlane_eq_foldlM, fusePlane_eq_foldlM]
  apply foldlM_eq_of_first
  · intro acc d
    -- the two policies read alike, and differ only on a failed read
    have hsame : bandRead ctx.options.skipping ctx.registry g m d =
        bandRead ctx.options ctx.registry g m d := rfl
    unfold PlaneContext.fuseStep
    simp only [hsame]
    cases bandRead ctx.options ctx.registry g m d with
    | error e => simp [failureOf, hpol]
    | ok x => rfl
  · intro acc d
    exact ⟨_, fuseStep_of_skip { ctx with options := ctx.options.skipping } g group m rfl acc d⟩

/-! ## The whole load -/

theorem foldlM_ok {α β ε : Type} (F : β → α → β) (l : List α) (init : β) :
    l.foldlM (fun b a => (Except.ok (F b a) : Except ε β)) init = .ok (l.foldl F init) := by
  induction l generalizing init with
  | nil => rfl
  | cons a l ih => exact ih (F init a)

/-- A fold that fails at the first element `E` names a failure for, and
otherwise steps by `F`. -/
theorem foldlM_elim {α β ε : Type} (E : α → Option ε) (F : β → α → β) (l : List α) (init : β) :
    l.foldlM (fun b a => (E a).elim (Except.ok (F b a)) Except.error) init =
      (l.filterMap E).head?.elim (.ok (l.foldl F init)) .error := by
  induction l generalizing init with
  | nil => rfl
  | cons a l ih =>
    rw [List.foldlM_cons, List.filterMap_cons]
    cases E a with
    | none => exact ih (F init a)
    | some e => rfl

theorem map_elim {α β ε : Type} (f : α → β) (o : Option ε) (x : α) :
    f <$> (o.elim (.ok x) .error : Except ε α) = o.elim (.ok (f x)) .error := by
  cases o <;> rfl

theorem foldl_append_pair {α γ δ : Type} (X : α → List γ) (Y : α → List δ) (l : List α)
    (init : List γ × List δ) :
    l.foldl (fun b a => (b.1 ++ X a, b.2 ++ Y a)) init = (init.1 ++ l.flatMap X, init.2 ++ l.flatMap Y) := by
  induction l generalizing init with
  | nil => simp
  | cons a l ih => simp [ih]

/-- Band `m` of a group of datasets as the skip policy loads it: every read
merged in turn into a plane of the band's fill value. -/
def LoadOptions.plane (o : LoadOptions) (registry : Registry) (f : Fuser) (g : GeoBox)
    (m : Measurement) (ds : List Dataset) : Raster :=
  ds.foldl (fun p d => mergeRead f m.fillValue p (bandRead o registry g m d))
    (Raster.filled g.height g.width m.fillValue)

section PlanePixels

variable (o : LoadOptions) (registry : Registry) (f : Fuser) (g : GeoBox) (m : Measurement)
  (ds : List Dataset)

theorem foldl_mergeRead_height (fill : Float) (reads : List (LoadResult (Option (Window × Raster))))
    (p : Raster) : (reads.foldl (mergeRead f fill) p).height = p.height := by
  induction reads generalizing p with
  | nil => rfl
  | cons x reads ih => rw [List.foldl_cons, ih, mergeRead_height]

theorem foldl_mergeRead_width (fill : Float) (reads : List (LoadResult (Option (Window × Raster))))
    (p : Raster) : (reads.foldl (mergeRead f fill) p).width = p.width := by
  induction reads generalizing p with
  | nil => rfl
  | cons x reads ih => rw [List.foldl_cons, ih, mergeRead_width]

theorem plane_eq_foldl :
    o.plane registry f g m ds =
      (ds.map (bandRead o registry g m)).foldl (mergeRead f m.fillValue)
        (Raster.filled g.height g.width m.fillValue) := by
  rw [LoadOptions.plane, List.foldl_map]

@[simp] theorem plane_height : (o.plane registry f g m ds).height = g.height := by
  rw [plane_eq_foldl, foldl_mergeRead_height]
  rfl

@[simp] theorem plane_width : (o.plane registry f g m ds).width = g.width := by
  rw [plane_eq_foldl, foldl_mergeRead_width]
  rfl

/-- Every pixel of a loaded plane is the fuser's fold over what the reads of its
group and band put there. -/
theorem get_plane {r c : Nat} (hr : r < g.height) (hc : c < g.width) :
    (o.plane registry f g m ds).get r c = fusedPixel f m.fillValue (ds.map (bandRead o registry g m)) r c := by
  have hfill : (Raster.filled g.height g.width m.fillValue).get r c = m.fillValue :=
    Raster.get_ofFn hr hc
  rw [plane_eq_foldl, get_foldl_mergeRead _ hr hc, hfill]
  rfl

end PlanePixels

/-- The reads of a load that fail, in the order group, band, dataset, each as the
skip policy records it and with its failure. -/
def loadFailures (groups : List Group) (g : GeoBox) (ms : List Measurement) (o : LoadOptions)
    (registry : Registry) : List (SkippedRead × LoadError) :=
  groups.zipIdx.flatMap fun x => ms.flatMap fun m => x.1.datasets.filterMap fun d =>
    (failureOf (bandRead o registry g m d)).map fun e => (⟨x.2, d.id, m.name, e.message⟩, e)

/-- The cube of a load that no failure stops: every plane loaded as the skip
policy loads it, and every failed read recorded. -/
def LoadOptions.cube (o : LoadOptions) (registry : Registry) (groups : List Group) (g : GeoBox)
    (ms : List Measurement) (f : Fuser) : DataCube where
  dimension := "time"
  keys := groups.map (·.key)
  bands := ms.map (·.name)
  geobox := g
  data := groups.map fun gr => ms.map fun m => o.plane registry f g m gr.datasets
  nodata := ms.map (·.fillValue)
  skipped := (loadFailures groups g ms o registry).map Prod.fst

section Load

variable (groups : List Group) (g : GeoBox) (ms : List Measurement) (f : Fuser) (o : LoadOptions)
  (registry : Registry)

/-- Under the skip policy a load succeeds: every plane is loaded as the skip
policy loads it, and every failed read is recorded. -/
theorem loadData_of_skip (hpol : o.ioErrorPolicy = .skip) :
    loadData groups g ms f o registry = .ok (o.cube registry groups g ms f) := by
  unfold loadData
  simp only [bind_pure_comp, List.forIn_yield_eq_foldlM]
  simp only [fusePlane_of_skip ⟨f, o, registry⟩ _ _ _ hpol, Except.map_ok, foldlM_ok, foldl_append_pair,
    List.nil_append, ← List.map_eq_flatMap]
  simp only [LoadOptions.cube, LoadOptions.plane, loadFailures, List.map_flatMap, List.map_filterMap,
    skippedRead, Option.map_map, Except.ok.injEq, DataCube.mk.injEq, true_and]
  refine ⟨?_, by simp [Function.comp_def]⟩
  conv_rhs => rw [← List.zipIdx_map_fst 0 groups, List.map_map]
  rfl

/-- The first failed read of a load, in the order group, band, dataset, is the
first failure of the first band of the first group that has one. -/
theorem head?_loadFailures :
    (loadFailures groups g ms o registry).head?.map Prod.snd =
      (groups.zipIdx.filterMap fun x => (ms.filterMap fun m =>
        (x.1.datasets.filterMap fun d => failureOf (bandRead o registry g m d)).head?).head?).head? := by
  simp only [loadFailures, List.head?_flatMap, List.head?_filterMap, List.map_findSome?,
    Function.comp_def, Option.map_map, Option.map_id']

/-- Under the abort policy a load fails with the first failed read, in the order
group, band, dataset, and otherwise gives what the skip policy gives. -/
theorem loadData_of_abort (hpol : o.ioErrorPolicy = .abort) :
    loadData groups g ms f o registry =
      (loadFailures groups g ms o registry).head?.elim (loadData groups g ms f o.skipping registry)
        fun x => .error x.2 := by
  unfold loadData
  simp only [bind_pure_comp, List.forIn_yield_eq_foldlM]
  simp only [fusePlane_of_abort ⟨f, o, registry⟩ _ _ _ hpol,
    fusePlane_of_skip ⟨f, o.skipping, registry⟩ _ _ _ rfl, map_elim, foldlM_elim, Except.map_ok,
    foldlM_ok, bandRead_skipping]
  rw [← head?_loadFailures, Option.elim_map]
  rfl

/-- Loading folds every read into its plane. Every read stores the pixels of a
source block as a load stores them. Under the skip policy the load succeeds; every pixel of plane `(i, b)` is the fuser's fold, from band `b`'s fill
value, over what the reads of group `i`, band `b` put there, in group order; and
the skipped reads are the failed ones in the order group, band, dataset. Under the
abort policy the first failed read in that order fails the load, and a load with
no failed read gives what the skip policy gives. -/
theorem loadData_fuses_reads :
    (∀ m d, ∃ x : LoadResult (Option (Window × Raster)),
      bandRead o registry g m d = Option.map (fun wb => (wb.1, wb.2.map m.loadedValue)) <$> x) ∧
    (o.ioErrorPolicy = .skip →
      ∃ cube, loadData groups g ms f o registry = .ok cube ∧
        cube.skipped = (loadFailures groups g ms o registry).map Prod.fst ∧
        cube.data.length = groups.length ∧
        ∀ (i b : Nat) (gr : Group) (m : Measurement), groups[i]? = some gr → ms[b]? = some m →
          ∃ p : Raster, (cube.data[i]?).bind (·[b]?) = some p ∧ p.height = g.height ∧ p.width = g.width ∧
            ∀ r c, r < g.height → c < g.width →
              p.get r c = fusedPixel f m.fillValue (gr.datasets.map (bandRead o registry g m)) r c) ∧
    (o.ioErrorPolicy = .abort →
      loadData groups g ms f o registry =
        (loadFailures groups g ms o registry).head?.elim (loadData groups g ms f o.skipping registry)
          fun x => .error x.2) := by
  refine ⟨bandRead_eq_map_loadedValue o registry g, fun hpol => ⟨_, loadData_of_skip groups g ms f o registry hpol, rfl, ?_, ?_⟩,
    loadData_of_abort groups g ms f o registry⟩
  · simp [LoadOptions.cube]
  · intro i b gr m hgr hm
    refine ⟨o.plane registry f g m gr.datasets, ?_, plane_height .., plane_width .., ?_⟩
    · simp [LoadOptions.cube, hgr, hm]
    · intro r c hr hc
      exact get_plane o registry f g m gr.datasets hr hc

end Load

/-- A group whose one dataset has no location for the band: the skip policy
records the read and loads the fill value, the abort policy fails with it. -/
theorem unlocated_band_skipped_or_fatal :
    (∃ cube, loadData [⟨default, [default]⟩] default [default] .copyFirst LoadOptions.default
        Registry.empty = .ok cube ∧ cube.skipped.length = 1) ∧
    ∃ e, loadData [⟨default, [default]⟩] default [default] .copyFirst ⟨.abort, .nearest, []⟩
        Registry.empty = .error e ∧ e.isReadFailure = true := by
  obtain ⟨cube, hload, hskip, -⟩ := (loadData_fuses_reads [⟨default, [default]⟩] default [default]
    .copyFirst LoadOptions.default Registry.empty).2.1 rfl
  refine ⟨⟨cube, hload, ?_⟩, ?_⟩
  · rw [hskip]
    decide
  · rw [(loadData_fuses_reads [⟨default, [default]⟩] default [default] .copyFirst ⟨.abort, .nearest, []⟩
      Registry.empty).2.2 rfl]
    exact ⟨_, rfl, rfl⟩

end Geocube
