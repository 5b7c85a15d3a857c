import Geocube.Proofs.Catalog.Locations

/-!
# Finding and changing records by id

The index finds the record of an id as the first record with that id. While no
id is stored twice (`Index.IdsDistinct`), that record is the only one with it,
so changing "the records of an id" changes exactly it.

Main statements: inserting a dataset appends the record of a new id, or gives
the stored record the locations it lacks (`Index.insertDataset_run_new`,
`Index.insertDataset_run_stored`); archiving or restoring a batch flags exactly
the records of its ids and counts those whose flag changed
(`Index.setArchived_run`).
-/

namespace Geocube

namespace Index

/-- No id is stored twice. -/
def IdsDistinct (ix : Index) : Prop := (ix.datasets.map (·.id)).Nodup

variable {ix : Index}

theorem record?_eq_none_iff {id : Uuid} : ix.record? id = none ↔ ∀ r ∈ ix.datasets, r.id ≠ id := by
  simp [record?, List.find?_eq_none]

theorem record?_id {id : Uuid} {r : DatasetRecord} (h : ix.record? id = some r) : r.id = id := by
  simpa using List.find?_some h

theorem record?_mem {id : Uuid} {r : DatasetRecord} (h : ix.record? id = some r) : r ∈ ix.datasets :=
  List.mem_of_find?_eq_some h

/-- With distinct ids, the record found under an id is the only one with it. -/
theorem IdsDistinct.eq_of_id (hd : ix.IdsDistinct) {id : Uuid} {r x : DatasetRecord}
    (h : ix.record? id = some r) (hx : x ∈ ix.datasets) (hxid : x.id = id) : x = r :=
  List.inj_on_of_nodup_map hd hx (record?_mem h) (hxid.trans (record?_id h).symm)

theorem IdsDistinct.record?_of_mem (hd : ix.IdsDistinct) {r : DatasetRecord} (hr : r ∈ ix.datasets) :
    ix.record? r.id = some r := by
  cases h : ix.record? r.id with
  | none => exact absurd rfl (record?_eq_none_iff.1 h r hr)
  | some r' => rw [hd.eq_of_id h hr rfl]

/-! ### Replacing the record of an id -/

/-- Replacing the records of an id by one with that id keeps every id in place. -/
theorem ids_setRecord {id : Uuid} {r' : DatasetRecord} (hid : r'.id = id) :
    (ix.setRecord id r').datasets.map (·.id) = ix.datasets.map (·.id) := by
  simp only [setRecord, List.map_map]
  apply List.map_congr_left
  intro x _
  simp only [Function.comp_apply]
  split
  · rename_i hx
    rw [hid, (beq_iff_eq.1 hx)]
  · rfl

theorem IdsDistinct.setRecord (hd : ix.IdsDistinct) {id : Uuid} {r' : DatasetRecord} (hid : r'.id = id) :
    (ix.setRecord id r').IdsDistinct := by
  unfold IdsDistinct
  rw [ids_setRecord hid]
  exact hd

/-- After replacing the record of a stored id, that id finds the new record and
every other id what it found before. -/
theorem record?_setRecord {id : Uuid} {r r' : DatasetRecord} (h : ix.record? id = some r)
    (hid : r'.id = id) (id' : Uuid) :
    (ix.setRecord id r').record? id' = if id' = id then some r' else ix.record? id' := by
  -- replacing keeps ids, so the search by id looks at the same positions
  have hsearch : ((fun x : DatasetRecord => x.id == id') ∘ fun x => if x.id == id then r' else x) =
      (·.id == id') := by
    funext x
    simp only [Function.comp_apply]
    split
    · rename_i hx
      rw [hid, beq_iff_eq.1 hx]
    · rfl
  simp only [record?, setRecord, List.find?_map, hsearch]
  by_cases hid' : id' = id
  · subst hid'
    rw [show ix.datasets.find? (·.id == id') = some r from h]
    simp [record?_id h]
  · rw [if_neg hid']
    cases hf : ix.datasets.find? (·.id == id') with
    | none => rfl
    | some x =>
      have hx : x.id = id' := by simpa using List.find?_some hf
      simp [hx, hid']

/-! ### Appending the record of a new id -/

theorem record?_append {new : DatasetRecord} (h : ix.record? new.id = none) (id' : Uuid) :
    ({ ix with datasets := ix.datasets ++ [new] } : Index).record? id' =
      if id' = new.id then some new else ix.record? id' := by
  simp only [record?, List.find?_append]
  by_cases hid' : id' = new.id
  · subst hid'
    rw [show ix.datasets.find? (·.id == new.id) = none from h]
    simp
  · rw [if_neg hid']
    cases ix.datasets.find? (·.id == id') with
    | some x => rfl
    | none => simp [Ne.symm hid']

theorem IdsDistinct.append (hd : ix.IdsDistinct) {new : DatasetRecord} (h : ix.record? new.id = none) :
    ({ ix with datasets := ix.datasets ++ [new] } : Index).IdsDistinct := by
  unfold IdsDistinct
  rw [List.map_append, List.map_singleton]
  refine List.Nodup.append hd (List.nodup_singleton _) fun u hu hnew => ?_
  obtain ⟨x, hx, rfl⟩ := List.mem_map.1 hu
  exact record?_eq_none_iff.1 h x hx (List.mem_singleton.1 hnew)

/-! ### Inserting a dataset -/

theorem insertDataset_run_new {d : Dataset} {withLineage : Bool} (h : ix.record? d.id = none) :
    (insertDataset d withLineage).run ix =
      .ok (true, { ix with datasets := ix.datasets ++ [DatasetRecord.ofDataset d withLineage] }) := by
  simp [insertDataset, h]

theorem insertDataset_run_stored {d : Dataset} {withLineage : Bool} {r : DatasetRecord}
    (h : ix.record? d.id = some r) :
    (insertDataset d withLineage).run ix = .ok (false, ix.setRecord d.id (r.addLocations d.uris)) := by
  have hrun := modifyRecord_run_some (f := fun r => (r.addLocations d.uris, false)) h
  simp only [insertDataset, StateT.run_bind, StateT.run_get, pure_bind, h]
  exact hrun

/-! ### Archiving and restoring -/

/-- The index with the records of `ids` archived, or restored. -/
def withFlag (ix : Index) (ids : List Uuid) (archived : Bool) : Index :=
  { ix with datasets := ix.datasets.map fun r => if r.id ∈ ids then { r with archived := archived } else r }

/-- The number of records of `ids` whose flag is not `archived`. -/
def flagChanges (ix : Index) (ids : List Uuid) (archived : Bool) : Nat :=
  ix.datasets.countP fun r => r.id ∈ ids && r.archived != archived

@[simp] theorem withFlag_nil (ix : Index) (archived : Bool) : ix.withFlag [] archived = ix := by
  simp [withFlag]

@[simp] theorem flagChanges_nil (ix : Index) (archived : Bool) : ix.flagChanges [] archived = 0 := by
  simp [flagChanges]

theorem withFlag_cons (ix : Index) (id : Uuid) (ids : List Uuid) (archived : Bool) :
    ix.withFlag (id :: ids) archived = (ix.withFlag [id] archived).withFlag ids archived := by
  simp only [withFlag, List.map_map]
  congr 2
  funext r
  by_cases h : r.id = id <;> by_cases h' : r.id ∈ ids <;> simp [h, h']

theorem flagChanges_cons (ix : Index) (id : Uuid) (ids : List Uuid) (archived : Bool) :
    ix.flagChanges (id :: ids) archived =
      ix.flagChanges [id] archived + (ix.withFlag [id] archived).flagChanges ids archived := by
  simp only [flagChanges, withFlag, List.countP_map]
  induction ix.datasets with
  | nil => rfl
  | cons r rs ih =>
    simp only [List.countP_cons, ih]
    -- a record of `id` is counted by the first flag and has the flag after it;
    -- any other record is left to the rest of the batch
    by_cases h : r.id = id
    · simp [h]
      omega
    · simp [h]
      omega

theorem ids_withFlag (ix : Index) (ids : List Uuid) (archived : Bool) :
    (ix.withFlag ids archived).datasets.map (·.id) = ix.datasets.map (·.id) := by
  simp only [withFlag, List.map_map]
  apply List.map_congr_left
  intro r _
  simp only [Function.comp_apply]
  split <;> rfl

theorem IdsDistinct.withFlag (hd : ix.IdsDistinct) (ids : List Uuid) (archived : Bool) :
    (ix.withFlag ids archived).IdsDistinct := by
  unfold IdsDistinct
  rw [ids_withFlag]
  exact hd

/-- A batch of one id whose record has the flag already, or none, changes nothing. -/
theorem withFlag_single_of_none {id : Uuid} (h : ix.record? id = none) (archived : Bool) :
    ix.withFlag [id] archived = ix ∧ ix.flagChanges [id] archived = 0 := by
  have hne := record?_eq_none_iff.1 h
  refine ⟨?_, ?_⟩
  · have hmap : ix.datasets.map (fun r => if r.id ∈ [id] then { r with archived := archived } else r) =
        ix.datasets := by
      refine (List.map_congr_left fun r hr => ?_).trans (List.map_id' _)
      simp [hne r hr]
    simp only [withFlag, hmap]
  · simp only [flagChanges, List.mem_singleton, List.countP_eq_zero]
    intro r hr
    simp [hne r hr]

section Distinct

variable (hd : ix.IdsDistinct) {id : Uuid} {r : DatasetRecord} (h : ix.record? id = some r)
include hd h

theorem setRecord_eq_withFlag (archived : Bool) :
    ix.setRecord id { r with archived := archived } = ix.withFlag [id] archived := by
  simp only [setRecord, withFlag, List.mem_singleton]
  congr 1
  apply List.map_congr_left
  intro x hx
  by_cases hxid : x.id = id
  · rw [hd.eq_of_id h hx hxid]
    simp [record?_id h]
  · simp [hxid]

theorem withFlag_single_of_flag {archived : Bool} (ha : r.archived = archived) :
    ix.withFlag [id] archived = ix ∧ ix.flagChanges [id] archived = 0 := by
  refine ⟨?_, ?_⟩
  · rw [← setRecord_eq_withFlag hd h, ← ha]
    have hmap : ix.datasets.map (fun x => if x.id == id then { r with archived := r.archived } else x) =
        ix.datasets := by
      refine (List.map_congr_left fun x hx => ?_).trans (List.map_id' _)
      by_cases hxid : x.id = id
      · rw [hd.eq_of_id h hx hxid]
        simp
      · simp [hxid]
    simp only [setRecord, hmap]
  · simp only [flagChanges, List.mem_singleton, List.countP_eq_zero]
    intro x hx
    by_cases hxid : x.id = id
    · rw [hd.eq_of_id h hx hxid]
      simp [ha]
    · simp [hxid]

theorem flagChanges_single_of_flag {archived : Bool} (ha : r.archived ≠ archived) :
    ix.flagChanges [id] archived = 1 := by
  simp only [flagChanges, List.mem_singleton]
  -- the only record with the id is `r`, and its flag differs
  have hcongr : ix.datasets.countP (fun x => decide (x.id = id) && x.archived != archived) =
      ix.datasets.countP (fun x => decide (x.id = id)) := by
    apply List.countP_congr
    intro x hx
    by_cases hxid : x.id = id
    · rw [hd.eq_of_id h hx hxid]
      simp [record?_id h, ha]
    · simp [hxid]
  have hcount : ix.datasets.countP (fun x => decide (x.id = id)) = (ix.datasets.map (·.id)).count id := by
    rw [List.count, List.countP_map]
    rfl
  rw [hcongr, hcount]
  exact List.count_eq_one_of_mem hd (record?_id h ▸ List.mem_map_of_mem (record?_mem h))

end Distinct

/-- A loop over a batch whose step flags the records of one id, counting them
when their flag changed, flags the records of the whole batch. -/
theorem forIn_flag {archived : Bool} {f : Uuid → Nat → IndexOp (ForInStep Nat)}
    (hf : ∀ id c (ix : Index), ix.IdsDistinct →
      (f id c).run ix = .ok (.yield (c + ix.flagChanges [id] archived), ix.withFlag [id] archived)) :
    ∀ (ids : List Uuid) (c : Nat) (ix : Index), ix.IdsDistinct →
      (forIn ids c f).run ix = .ok (c + ix.flagChanges ids archived, ix.withFlag ids archived)
  | [], c, ix, _ => by simp
  | id :: ids, c, ix, hd => by
    rw [List.forIn_cons, StateT.run_bind, hf id c ix hd]
    show (forIn ids _ f).run _ = _
    rw [forIn_flag hf ids _ _ (hd.withFlag [id] archived), flagChanges_cons ix id ids archived,
      withFlag_cons ix id ids archived, Nat.add_assoc]

theorem setArchived_run (hd : ix.IdsDistinct) (ids : List Uuid) (archived : Bool) :
    (setArchived ids archived).run ix = .ok (ix.flagChanges ids archived, ix.withFlag ids archived) := by
  unfold setArchived
  simp only [bind_pure]
  rw [forIn_flag ?_ ids 0 ix hd, Nat.zero_add]
  intro id c ix hd
  simp only [StateT.run_bind, StateT.run_get, pure_bind]
  cases h : ix.record? id with
  | none =>
    obtain ⟨h1, h2⟩ := withFlag_single_of_none h archived
    simp [h1, h2]
  | some r =>
    by_cases ha : r.archived = archived
    · obtain ⟨h1, h2⟩ := withFlag_single_of_flag hd h ha
      simp [ha, h1, h2]
    · simp only [bne_iff_ne, ne_eq, ha, not_false_eq_true, if_true]
      rw [StateT.run_bind, modifyRecord_run_some h]
      simp [setRecord_eq_withFlag hd h, flagChanges_single_of_flag hd h ha]

end Index

end Geocube
