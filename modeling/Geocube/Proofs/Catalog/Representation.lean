import Geocube.Proofs.Catalog.Records
import Geocube.Proofs.Catalog.Reachable

/-!
# What every sequence of driver calls keeps

A driver call does one of three things to the records (`Index.RecordsEffect`):
it keeps every record's id and locations, perhaps changing flags; it appends
the record of an id not stored yet, its locations active and distinct; or it
replaces the record of a stored id by one of that id whose locations keep their
order (`Location.KeepsOrder`). `DriverCall.exec_effect` proves this of every
call, and the invariants below are read off it along the indexes a sequence of
calls passes through (`DriverTrace`):

* no id is stored twice, so the position of an id is that of its one record;
* the URIs of a record's locations are distinct, so its active and archived
  URIs are disjoint, each duplicate free, and together all of them;
* a record's locations are held oldest first. Age is measured by how long a URI
  has been held without a break (`heldFor`), so a URI removed and added again
  counts from its new insertion; read back, the active URIs come newest first.

Inserting a dataset is the call that appends or merges: a new id reads back
the URIs given without repeats, a stored one gains only the URIs it lacked, and
inserting again changes nothing (`Index.insertDataset_again`).
-/

namespace Geocube

namespace DatasetRecord

@[simp] theorem id_setLocationArchived (r : DatasetRecord) (uri : String) (archived : Bool) :
    (r.setLocationArchived uri archived).1.id = r.id := by
  unfold setLocationArchived
  split
  · split <;> rfl
  · rfl

/-- Every URI given is held once it has been added. -/
theorem mem_storedUris_addLocations {r : DatasetRecord} {uris : List String} {u : String}
    (hu : u ∈ uris) : u ∈ (r.addLocations uris).storedUris := by
  rw [addLocations_eq]
  simp only [storedUris, List.map_append, List.mem_append]
  by_cases hold : u ∈ r.storedUris
  · exact .inl hold
  · exact .inr (mem_freshLocations_uri.2 ⟨hu, hold⟩)

/-- Adding the same locations twice adds nothing the second time. -/
theorem addLocations_addLocations (r : DatasetRecord) (uris : List String) :
    (r.addLocations uris).addLocations uris = r.addLocations uris := by
  have hheld : ∀ u ∈ uris, u ∈ (r.addLocations uris).storedUris :=
    fun _ hu => mem_storedUris_addLocations hu
  have hnone : freshLocations (r.addLocations uris).storedUris uris = [] := by
    simpa [freshLocations, List.filter_eq_nil_iff] using hheld
  conv_lhs => rw [addLocations_eq, hnone, List.append_nil]

/-- A new record reads back the URIs given without repeats, the last
occurrence of each counting. -/
theorem uris_ofDataset (d : Dataset) (withLineage : Bool) :
    (ofDataset d withLineage).uris false = d.uris.dedup := by
  rw [ofDataset, uris_addLocations_active]
  simp [storedUris, DatasetRecord.uris]

end DatasetRecord

namespace Index

/-- The locations of the record of `id`, oldest first; none when it is not stored. -/
def storedLocations (ix : Index) (id : Uuid) : List Location :=
  ((ix.record? id).map (·.locations)).getD []

/-- The URIs of the locations of `id`, oldest first. -/
def storedUris (ix : Index) (id : Uuid) : List String := (ix.storedLocations id).map (·.uri)

variable {ix ix' : Index}

theorem storedUris_of_none {id : Uuid} (h : ix.record? id = none) : ix.storedUris id = [] := by
  simp [storedUris, storedLocations, h]

theorem storedUris_of_some {id : Uuid} {r : DatasetRecord} (h : ix.record? id = some r) :
    ix.storedUris id = r.storedUris := by
  simp [storedUris, storedLocations, h, DatasetRecord.storedUris]

theorem locations_of_some {id : Uuid} {r : DatasetRecord} (h : ix.record? id = some r)
    (archived : Bool) : ix.locations id archived = r.uris archived := by
  simp [locations, h]

/-- What is read back of an id is its stored URIs, newest first, of one flag. -/
theorem locations_sublist (ix : Index) (id : Uuid) (archived : Bool) :
    (ix.locations id archived).Sublist (ix.storedUris id).reverse := by
  cases h : ix.record? id with
  | none => simp [locations, h]
  | some r =>
    rw [locations_of_some h, storedUris_of_some h, DatasetRecord.uris, DatasetRecord.storedUris,
      ← List.map_reverse]
    exact List.filter_sublist.map _

/-- While the stored URIs of an id are distinct, the active and the archived
ones read back are disjoint, each duplicate free, and together all of them. -/
theorem locations_partition {id : Uuid} (hn : (ix.storedUris id).Nodup) :
    (ix.locations id false).Nodup ∧ (ix.locations id true).Nodup ∧
      (∀ u ∈ ix.locations id false, u ∉ ix.locations id true) ∧
      (ix.locations id false ++ ix.locations id true).Perm (ix.storedUris id) := by
  cases h : ix.record? id with
  | none => simp [locations, h, storedUris_of_none h]
  | some r =>
    rw [storedUris_of_some h] at hn
    simp only [locations_of_some h, storedUris_of_some h]
    exact ⟨DatasetRecord.uris_nodup hn false, DatasetRecord.uris_nodup hn true,
      fun _ hu => DatasetRecord.uris_disjoint hn hu, DatasetRecord.uris_perm hn⟩

/-- With distinct ids, the first position holding an id is the one position
whose record has it. -/
theorem IdsDistinct.findIdx?_eq_some_iff (hd : ix.IdsDistinct) (i : Nat) (id : Uuid) :
    ix.datasets.findIdx? (·.id == id) = some i ↔ ix.datasets[i]?.map (·.id) = some id := by
  rw [List.findIdx?_eq_some_iff_getElem]
  constructor
  · rintro ⟨hi, hid, -⟩
    simp [List.getElem?_eq_getElem hi, beq_iff_eq.1 hid]
  · intro h
    obtain ⟨r, hr, hrid⟩ := Option.map_eq_some_iff.1 h
    obtain ⟨hi, rfl⟩ := List.getElem?_eq_some_iff.1 hr
    refine ⟨hi, by simp [hrid], fun j hji hj => ?_⟩
    -- two positions holding one id are one position
    have hjlen : j < (ix.datasets.map (·.id)).length := by simp; omega
    have hilen : i < (ix.datasets.map (·.id)).length := by simpa using hi
    have hsame : (ix.datasets.map (·.id))[j] = (ix.datasets.map (·.id))[i] := by
      simp [beq_iff_eq.1 hj, hrid]
    have := (List.Nodup.getElem_inj_iff hd).1 hsame
    omega

/-- With distinct ids, putting back the record an id finds changes nothing. -/
theorem IdsDistinct.setRecord_self (hd : ix.IdsDistinct) {id : Uuid} {r : DatasetRecord}
    (h : ix.record? id = some r) : ix.setRecord id r = ix := by
  have hmap : ix.datasets.map (fun x => if x.id == id then r else x) = ix.datasets := by
    refine (List.map_congr_left fun x hx => ?_).trans (List.map_id' _)
    split
    · exact (hd.eq_of_id h hx (beq_iff_eq.1 ‹_›)).symm
    · rfl
  simp only [Index.setRecord, hmap]

/-- The URIs of an id read back in the reverse of their stored order. -/
theorem locations_pairwise {R : String → String → Prop} {id : Uuid}
    (h : (ix.storedUris id).Pairwise R) (archived : Bool) :
    (ix.locations id archived).Pairwise fun u v => R v u :=
  (List.pairwise_reverse.2 h).sublist (ix.locations_sublist id archived)

/-! ### Inserting a dataset -/

theorem record?_insertDataset_new {d : Dataset} {withLineage : Bool} (h : ix.record? d.id = none) :
    ({ ix with datasets := ix.datasets ++ [DatasetRecord.ofDataset d withLineage] } : Index).record? d.id =
      some (DatasetRecord.ofDataset d withLineage) := by
  rw [record?_append (by rwa [DatasetRecord.ofDataset_id]), if_pos (DatasetRecord.ofDataset_id d withLineage).symm]

theorem record?_insertDataset_stored {d : Dataset} {r : DatasetRecord} (h : ix.record? d.id = some r) :
    (ix.setRecord d.id (r.addLocations d.uris)).record? d.id = some (r.addLocations d.uris) := by
  rw [record?_setRecord h ((DatasetRecord.addLocations_id r _).trans (record?_id h)), if_pos rfl]

/-- Inserting a dataset whose URIs its stored record holds already changes nothing. -/
theorem insertDataset_run_held (hd : ix.IdsDistinct) {d : Dataset} {withLineage : Bool}
    {r : DatasetRecord} (h : ix.record? d.id = some r) (hheld : r.addLocations d.uris = r) :
    (insertDataset d withLineage).run ix = .ok (false, ix) := by
  rw [insertDataset_run_stored h, hheld, hd.setRecord_self h]

/-- Inserting a dataset a second time changes nothing, whatever its lineage. -/
theorem insertDataset_again (hd : ix.IdsDistinct) {d : Dataset} {withLineage : Bool} {b : Bool}
    (h : (insertDataset d withLineage).run ix = .ok (b, ix')) (withLineage' : Bool) :
    (insertDataset d withLineage').run ix' = .ok (false, ix') := by
  cases hr : ix.record? d.id with
  | none =>
    rw [insertDataset_run_new hr] at h
    cases h
    exact insertDataset_run_held (hd.append (by rwa [DatasetRecord.ofDataset_id])) (record?_insertDataset_new hr)
      (DatasetRecord.addLocations_addLocations _ _)
  | some r =>
    rw [insertDataset_run_stored hr] at h
    cases h
    exact insertDataset_run_held (hd.setRecord ((DatasetRecord.addLocations_id r _).trans (record?_id hr)))
      (record?_insertDataset_stored hr) (DatasetRecord.addLocations_addLocations _ _)

/-! ### What one call does to the records -/

/-- What a driver call can do to the records of an index. -/
inductive RecordsEffect (ix ix' : Index) : Prop
  /-- Every record keeps its id, in place, and its locations. -/
  | keep (hids : ix'.datasets.map (·.id) = ix.datasets.map (·.id))
      (hlocs : ∀ id, ix'.storedLocations id = ix.storedLocations id)
  /-- The record of an id not stored yet is appended, its locations active and distinct. -/
  | append {r : DatasetRecord} (hnew : ix.record? r.id = none)
      (hlocs : Location.KeepsOrder [] r.locations) (h : ix' = { ix with datasets := ix.datasets ++ [r] })
  /-- The record of a stored id is replaced by one of that id whose locations keep their order. -/
  | update {id : Uuid} {r r' : DatasetRecord} (hr : ix.record? id = some r) (hid : r'.id = id)
      (hlocs : Location.KeepsOrder r.locations r'.locations) (h : ix' = ix.setRecord id r')

theorem RecordsEffect.of_datasets (h : ix'.datasets = ix.datasets) : RecordsEffect ix ix' :=
  .keep (by rw [h]) fun id => by simp only [storedLocations, record?, h]

/-- A change of one record through `modifyRecord` that keeps its id and the
order of its locations. -/
theorem RecordsEffect.of_modifyRecord {α : Type} {id : Uuid} {f : DatasetRecord → DatasetRecord × α}
    {a : α} (hid : ∀ r, (f r).1.id = r.id) (hlocs : ∀ r, Location.KeepsOrder r.locations (f r).1.locations)
    (h : (modifyRecord id f).run ix = .ok (a, ix')) : RecordsEffect ix ix' := by
  obtain ⟨r, hr, -, rfl⟩ := modifyRecord_run_ok h
  exact .update hr ((hid r).trans (record?_id hr)) (hlocs r) rfl

theorem storedLocations_withFlag (ids : List Uuid) (archived : Bool) (id : Uuid) :
    (ix.withFlag ids archived).storedLocations id = ix.storedLocations id := by
  -- flags change in place, so the search by id meets the same records
  have hsearch : ((fun x : DatasetRecord => x.id == id) ∘
      fun r => if r.id ∈ ids then { r with archived := archived } else r) = (·.id == id) := by
    funext r
    simp only [Function.comp_apply]
    split <;> rfl
  simp only [storedLocations, record?, withFlag, List.find?_map, hsearch]
  cases ix.datasets.find? (·.id == id) with
  | none => rfl
  | some r => simp only [Option.map_some]; split <;> rfl

theorem RecordsEffect.idsDistinct (hd : ix.IdsDistinct) : RecordsEffect ix ix' → ix'.IdsDistinct
  | .keep hids _ => by
    unfold IdsDistinct
    rw [hids]
    exact hd
  | .append hnew _ h => h ▸ hd.append hnew
  | .update _ hid _ h => h ▸ hd.setRecord hid

/-- Every call keeps the order of the locations of every id. -/
theorem RecordsEffect.keepsOrder (e : RecordsEffect ix ix') (id : Uuid) :
    Location.KeepsOrder (ix.storedLocations id) (ix'.storedLocations id) := by
  cases e with
  | keep _ hlocs => exact hlocs id ▸ .refl _
  | append hnew hlocs h =>
    subst h
    simp only [storedLocations, record?_append hnew]
    split
    · subst id
      simpa [hnew] using hlocs
    · exact .refl _
  | update hr hid hlocs h =>
    subst h
    simp only [storedLocations, record?_setRecord hr hid]
    split
    · subst id
      simpa [hr] using hlocs
    · exact .refl _

end Index

open Index

/-- Every driver call that succeeds on an index with distinct ids keeps every
record's id and locations, appends the record of a new id, or replaces the
record of a stored id keeping the order of its locations. -/
theorem DriverCall.exec_effect {β : Type} {c : DriverCall β} {ix ix' : Index} {b : β}
    (hd : ix.IdsDistinct) (h : c.exec.run ix = .ok (b, ix')) : RecordsEffect ix ix' := by
  cases c with
  | getMetadataType | listMetadataTypes | getProduct | listProducts | countProductDatasets
    | productTimeBounds | getDataset | datasetsExist | derivedIds | candidates | locations =>
    simp only [DriverCall.exec, StateT.run_bind, StateT.run_get, pure_bind, StateT.run_pure] at h
    cases h
    exact .of_datasets rfl
  | insertMetadataType mt | updateMetadataType mt | insertProduct mt | updateProduct mt
    | deleteProduct mt =>
    -- the name is checked, then only the metadata types or the products change
    simp only [DriverCall.exec, Index.insertMetadataType, Index.replaceMetadataType,
      Index.insertProduct, Index.replaceProduct, Index.removeProduct, StateT.run_bind,
      StateT.run_get, pure_bind] at h
    split at h
    · simp at h
    · simp only [StateT.run_modify] at h
      cases h
      exact .of_datasets rfl
  | insertDataset d withLineage =>
    cases hr : ix.record? d.id with
    | none =>
      rw [DriverCall.exec, insertDataset_run_new hr] at h
      cases h
      exact .append (by rwa [DatasetRecord.ofDataset_id]) (DatasetRecord.addLocations_keepsOrder _ d.uris) rfl
    | some r =>
      rw [DriverCall.exec, insertDataset_run_stored hr] at h
      cases h
      exact .update hr ((DatasetRecord.addLocations_id r _).trans (record?_id hr))
        (r.addLocations_keepsOrder d.uris) rfl
  | setArchived ids archived =>
    rw [DriverCall.exec, setArchived_run hd] at h
    cases h
    exact .keep (ids_withFlag ix ids archived) (storedLocations_withFlag ids archived)
  | insertLocation id uri =>
    refine .of_modifyRecord (f := (·.addLocation uri)) (fun r => ?_) (fun r => ?_) h
    · rw [DatasetRecord.addLocation_fst, DatasetRecord.addLocations_id]
    · rw [DatasetRecord.addLocation_fst]
      exact r.addLocations_keepsOrder [uri]
  | deleteLocation id uri =>
    exact .of_modifyRecord (fun _ => rfl) (·.removeLocation_keepsOrder uri) h
  | setLocationArchived id uri archived =>
    exact .of_modifyRecord (·.id_setLocationArchived uri archived)
      (·.setLocationArchived_keepsOrder uri archived) h

/-- How long `uri` has been among the locations of `id` in a history of
indexes, newest first: how many of its newest indexes hold it without a break. -/
def heldFor (id : Uuid) (uri : String) : List Index → Nat
  | [] => 0
  | ix :: older => if uri ∈ ix.storedUris id then heldFor id uri older + 1 else 0

/-- A call that keeps the order of the locations of `id` keeps them ordered by
how long they have been held: the kept ones in their order and held one call
longer, the added ones after them and held since this call. -/
theorem heldFor_pairwise_step {ix ix' : Index} {older : List Index} {id : Uuid}
    (hk : Location.KeepsOrder (ix.storedLocations id) (ix'.storedLocations id))
    (hold : (ix.storedUris id).Pairwise fun u v => heldFor id v (ix :: older) ≤ heldFor id u (ix :: older)) :
    (ix'.storedUris id).Pairwise fun u v =>
      heldFor id v (ix' :: ix :: older) ≤ heldFor id u (ix' :: ix :: older) := by
  obtain ⟨kept, added, hnew, hsub, hnd, hfresh⟩ := hk
  have hsplit : ix'.storedUris id = kept.map (·.uri) ++ added.map (·.uri) := by
    rw [storedUris, hnew, List.map_append]
  have hlonger : ∀ u ∈ ix'.storedUris id,
      heldFor id u (ix' :: ix :: older) = heldFor id u (ix :: older) + 1 :=
    fun _ hu => if_pos hu
  have hkept : ∀ u ∈ kept.map (·.uri), 0 < heldFor id u (ix :: older) := fun u hu => by
    have hheld : u ∈ ix.storedUris id := hsub.subset hu
    simp [heldFor, hheld]
  have hadded : ∀ u ∈ added.map (·.uri), heldFor id u (ix :: older) = 0 := fun u hu => by
    obtain ⟨l, hl, rfl⟩ := List.mem_map.1 hu
    have hnot : l.uri ∉ ix.storedUris id := (hfresh l hl).2
    simp [heldFor, hnot]
  rw [hsplit] at hlonger ⊢
  refine List.pairwise_append.2 ⟨?_, ?_, ?_⟩
  · refine (hold.sublist hsub).imp_of_mem fun hu hv huv => ?_
    rw [hlonger _ (List.mem_append_left _ hu), hlonger _ (List.mem_append_left _ hv)]
    omega
  · refine hnd.imp_of_mem fun hu hv _ => ?_
    rw [hlonger _ (List.mem_append_right _ hu), hlonger _ (List.mem_append_right _ hv),
      hadded _ hu, hadded _ hv]
  · intro u hu v hv
    rw [hlonger _ (List.mem_append_left _ hu), hlonger _ (List.mem_append_right _ hv), hadded _ hv]
    have := hkept u hu
    omega

namespace DriverTrace

theorem idsDistinct : ∀ {ix : Index} {older : List Index}, DriverTrace (ix :: older) → ix.IdsDistinct
  | _, _, .empty => List.nodup_nil
  | _, _, .call ht hc => (DriverCall.exec_effect ht.idsDistinct hc).idsDistinct ht.idsDistinct

/-- Every step of a trace keeps the order of the locations of every id. -/
theorem keepsOrder {ix ix' : Index} {older : List Index} {β : Type} {c : DriverCall β} {b : β}
    (ht : DriverTrace (ix :: older)) (hc : c.exec.run ix = .ok (b, ix')) (id : Uuid) :
    Location.KeepsOrder (ix.storedLocations id) (ix'.storedLocations id) :=
  (DriverCall.exec_effect ht.idsDistinct hc).keepsOrder id

theorem storedUris_nodup :
    ∀ {ix : Index} {older : List Index}, DriverTrace (ix :: older) → ∀ id, (ix.storedUris id).Nodup
  | _, _, .empty, _ => List.nodup_nil
  | _, _, .call ht hc, id => (ht.keepsOrder hc id).nodup (storedUris_nodup ht id)

/-- The stored URIs of every id are ordered by how long they have been held,
the longest first. -/
theorem storedUris_pairwise : ∀ {ix : Index} {older : List Index}, DriverTrace (ix :: older) →
    ∀ id, (ix.storedUris id).Pairwise fun u v => heldFor id v (ix :: older) ≤ heldFor id u (ix :: older)
  | _, _, .empty, _ => List.Pairwise.nil
  | _, _, .call ht hc, id => heldFor_pairwise_step (ht.keepsOrder hc id) (storedUris_pairwise ht id)

end DriverTrace

/-- Over every sequence of driver calls: no id is stored twice, so the first
position holding an id is that of its one record. The URIs of each record are
distinct, and read back as active and archived lists that are disjoint,
duplicate free and together every stored URI, the active ones newest first: a
URI comes before every URI it has been held for less time than. Inserting a
dataset answers whether its id is new; a new id reads back its URIs without
repeats, the last occurrence of each counting; a stored id only gains, as
active locations, the URIs it did not hold, read back in the order given ahead
of its active ones; and inserting the dataset again changes nothing. -/
theorem driver_calls_keep_records {ix : Index} {older : List Index} (ht : DriverTrace (ix :: older)) :
    ix.IdsDistinct ∧
    (∀ i id, ix.datasets.findIdx? (·.id == id) = some i ↔ ix.datasets[i]?.map (·.id) = some id) ∧
    (∀ id, (ix.storedUris id).Nodup ∧ (ix.locations id false).Nodup ∧ (ix.locations id true).Nodup ∧
      (∀ u ∈ ix.locations id false, u ∉ ix.locations id true) ∧
      (ix.locations id false ++ ix.locations id true).Perm (ix.storedUris id) ∧
      (ix.locations id false).Pairwise fun u v => heldFor id u (ix :: older) ≤ heldFor id v (ix :: older)) ∧
    ∀ d withLineage, ∃ ix', (insertDataset d withLineage).run ix = .ok ((ix.record? d.id).isNone, ix') ∧
      (ix.record? d.id = none → (ix'.record? d.id).map (·.uris false) = some d.uris.dedup) ∧
      (∀ r, ix.record? d.id = some r →
        ix' = ix.setRecord d.id
          { r with locations := r.locations ++ DatasetRecord.freshLocations r.storedUris d.uris } ∧
        (ix'.record? d.id).map (·.uris false) =
          some ((d.uris.filter (· ∉ r.storedUris)).dedup ++ r.uris false)) ∧
      ∀ withLineage', (insertDataset d withLineage').run ix' = .ok (false, ix') := by
  have hd := ht.idsDistinct
  refine ⟨hd, hd.findIdx?_eq_some_iff, fun id => ?_, fun d withLineage => ?_⟩
  · obtain ⟨hfalse, htrue, hdisj, hperm⟩ := locations_partition (ht.storedUris_nodup id)
    exact ⟨ht.storedUris_nodup id, hfalse, htrue, hdisj, hperm,
      locations_pairwise (ht.storedUris_pairwise id) false⟩
  · cases hr : ix.record? d.id with
    | none =>
      have hrun : (insertDataset d withLineage).run ix = _ := insertDataset_run_new hr
      refine ⟨_, hrun, fun _ => ?_, fun _ h => (by cases h), insertDataset_again hd hrun⟩
      rw [record?_insertDataset_new hr, Option.map_some, DatasetRecord.uris_ofDataset]
    | some r =>
      have hrun : (insertDataset d withLineage).run ix = _ := insertDataset_run_stored hr
      refine ⟨_, hrun, fun h => (by cases h), fun r' h => ?_, insertDataset_again hd hrun⟩
      cases h
      refine ⟨by rw [DatasetRecord.addLocations_eq], ?_⟩
      rw [record?_insertDataset_stored hr, Option.map_some, DatasetRecord.uris_addLocations_active]

/-- A scene listing one URI twice. -/
def twiceListedScene : Dataset := { scene (sceneProduct "mt" "a0" "a1") with uris := ["b", "a", "b"] }

/-- The index after inserting the scene into the empty one. -/
def twiceListedIndex : Index := { datasets := [DatasetRecord.ofDataset twiceListedScene true] }

theorem twice_listed_scene_keeps_records :
    DriverTrace [twiceListedIndex, Index.empty] ∧
    twiceListedIndex.IdsDistinct ∧
    (∀ i id, twiceListedIndex.datasets.findIdx? (·.id == id) = some i ↔
      twiceListedIndex.datasets[i]?.map (·.id) = some id) ∧
    (∀ id, (twiceListedIndex.storedUris id).Nodup ∧ (twiceListedIndex.locations id false).Nodup ∧
      (twiceListedIndex.locations id true).Nodup ∧
      (∀ u ∈ twiceListedIndex.locations id false, u ∉ twiceListedIndex.locations id true) ∧
      (twiceListedIndex.locations id false ++ twiceListedIndex.locations id true).Perm
        (twiceListedIndex.storedUris id) ∧
      (twiceListedIndex.locations id false).Pairwise fun u v =>
        heldFor id u [twiceListedIndex, Index.empty] ≤ heldFor id v [twiceListedIndex, Index.empty]) ∧
    ∀ d withLineage, ∃ ix', (insertDataset d withLineage).run twiceListedIndex =
        .ok ((twiceListedIndex.record? d.id).isNone, ix') ∧
      (twiceListedIndex.record? d.id = none → (ix'.record? d.id).map (·.uris false) = some d.uris.dedup) ∧
      (∀ r, twiceListedIndex.record? d.id = some r →
        ix' = twiceListedIndex.setRecord d.id
          { r with locations := r.locations ++ DatasetRecord.freshLocations r.storedUris d.uris } ∧
        (ix'.record? d.id).map (·.uris false) =
          some ((d.uris.filter (· ∉ r.storedUris)).dedup ++ r.uris false)) ∧
      ∀ withLineage', (insertDataset d withLineage').run ix' = .ok (false, ix') :=
  have ht : DriverTrace [twiceListedIndex, Index.empty] :=
    .call (c := .insertDataset twiceListedScene true) .empty (insertDataset_run_new rfl)
  ⟨ht, driver_calls_keep_records ht⟩

end Geocube
