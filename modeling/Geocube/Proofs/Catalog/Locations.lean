import Geocube.Catalog.Clients
import Geocube.Proofs.Catalog.IndexOps
import Mathlib.Data.List.Dedup

/-!
# The locations of a record

A record keeps its locations oldest first and reports the active and the
archived ones newest first. Adding locations appends the URIs the record does
not hold yet, once each and in the reverse of the order they are given in
(`DatasetRecord.addLocations_eq`), so a record read back lists the new URIs in
the order given, the last occurrence of each counting, ahead of the old ones
(`DatasetRecord.uris_addLocations_active`).

Every change of the locations keeps the order of the entries it keeps and
puts the entries it adds after them (`Location.KeepsOrder`), which keeps the
URIs distinct; and while they are distinct, no URI is both active and archived
(`DatasetRecord.uris_disjoint`).
-/

namespace Geocube

namespace DatasetRecord

/-- The URIs of a record's locations, oldest first. -/
def storedUris (r : DatasetRecord) : List String := r.locations.map (·.uri)

/-- The active entries that adding `uris` appends to locations holding `old`:
the URIs not held yet, each once, oldest first. -/
def freshLocations (old uris : List String) : List Location :=
  (uris.filter (· ∉ old)).dedup.reverse.map fun u => ⟨u, false⟩

theorem addLocation_eq (r : DatasetRecord) (u : String) :
    r.addLocation u = if u ∈ r.storedUris then (r, false)
      else ({ r with locations := r.locations ++ [⟨u, false⟩] }, true) := by
  unfold addLocation storedUris
  simp [List.any_eq_true]

/-- Locations are added oldest first, so the first URI given is added last. -/
theorem addLocations_cons (r : DatasetRecord) (u : String) (us : List String) :
    r.addLocations (u :: us) = ((r.addLocations us).addLocation u).1 := by
  simp [addLocations, List.foldl_append]

theorem addLocation_id (r : DatasetRecord) (uri : String) : (r.addLocation uri).1.id = r.id := by
  unfold addLocation
  split <;> rfl

theorem addLocations_id (r : DatasetRecord) (uris : List String) : (r.addLocations uris).id = r.id := by
  unfold addLocations
  generalize uris.reverse = us
  induction us generalizing r with
  | nil => rfl
  | cons u us ih => exact (ih (r.addLocation u).1).trans (addLocation_id r u)

theorem ofDataset_id (d : Dataset) (withLineage : Bool) : (ofDataset d withLineage).id = d.id :=
  addLocations_id _ d.uris

@[simp] theorem freshLocations_nil (old : List String) : freshLocations old [] = [] := rfl

theorem freshLocations_cons_of_mem {old us : List String} {u : String}
    (h : u ∈ old ∨ u ∈ us) : freshLocations old (u :: us) = freshLocations old us := by
  by_cases hold : u ∈ old
  · simp [freshLocations, hold]
  · have hus : u ∈ us.filter (· ∉ old) := List.mem_filter.2 ⟨h.resolve_left hold, by simpa using hold⟩
    simp only [freshLocations, List.filter_cons, hold, not_false_eq_true, decide_true, if_true,
      List.dedup_cons_of_mem hus]

theorem freshLocations_cons_of_not_mem {old us : List String} {u : String} (hold : u ∉ old)
    (hus : u ∉ us) : freshLocations old (u :: us) = freshLocations old us ++ [⟨u, false⟩] := by
  have hf : u ∉ us.filter (· ∉ old) := fun h => hus (List.mem_filter.1 h).1
  unfold freshLocations
  rw [List.filter_cons_of_pos (by simpa using hold), List.dedup_cons_of_notMem hf]
  simp

theorem uri_freshLocations (old uris : List String) :
    (freshLocations old uris).map (·.uri) = (uris.filter (· ∉ old)).dedup.reverse := by
  simp [freshLocations, Function.comp_def]

theorem mem_freshLocations_uri {old uris : List String} {u : String} :
    u ∈ (freshLocations old uris).map (·.uri) ↔ u ∈ uris ∧ u ∉ old := by
  simp [uri_freshLocations]

/-- Adding locations appends, as active entries, the URIs not held yet: each
once, the last occurrence in `uris` counting, and oldest first. -/
theorem addLocations_eq (r : DatasetRecord) (uris : List String) :
    r.addLocations uris =
      { r with locations := r.locations ++ freshLocations r.storedUris uris } := by
  induction uris with
  | nil => simp [addLocations]
  | cons u us ih =>
    rw [addLocations_cons, ih, addLocation_eq]
    -- the URIs held after `us` are the old ones and the new ones from `us`
    have hheld : storedUris { r with locations := r.locations ++ freshLocations r.storedUris us } =
        r.storedUris ++ (freshLocations r.storedUris us).map (·.uri) := by
      simp [storedUris]
    by_cases hu : u ∈ r.storedUris ∨ u ∈ us
    · have hmem : u ∈ storedUris
          { r with locations := r.locations ++ freshLocations r.storedUris us } := by
        rw [hheld, List.mem_append, mem_freshLocations_uri]
        tauto
      rw [if_pos hmem, freshLocations_cons_of_mem hu]
    · have hmem : u ∉ storedUris
          { r with locations := r.locations ++ freshLocations r.storedUris us } := by
        rw [hheld, List.mem_append, mem_freshLocations_uri]
        tauto
      rw [if_neg hmem, freshLocations_cons_of_not_mem (fun h => hu (.inl h)) (fun h => hu (.inr h))]
      simp

/-- Adding locations puts the new URIs, in the order given and the last
occurrence of each counting, ahead of the active URIs read before. -/
theorem uris_addLocations_active (r : DatasetRecord) (uris : List String) :
    (r.addLocations uris).uris false = (uris.filter (· ∉ r.storedUris)).dedup ++ r.uris false := by
  rw [addLocations_eq]
  simp [DatasetRecord.uris, freshLocations, List.filter_map, Function.comp_def]

theorem mem_uris {r : DatasetRecord} {archived : Bool} {u : String} :
    u ∈ r.uris archived ↔ ∃ l ∈ r.locations, l.archived = archived ∧ l.uri = u := by
  simp [DatasetRecord.uris, and_assoc]

/-- The active and archived URIs together are the stored ones. -/
theorem mem_uris_or_iff {r : DatasetRecord} {u : String} :
    u ∈ r.uris false ∨ u ∈ r.uris true ↔ u ∈ r.storedUris := by
  simp only [mem_uris, storedUris, List.mem_map]
  constructor
  · rintro (⟨l, hl, -, rfl⟩ | ⟨l, hl, -, rfl⟩) <;> exact ⟨l, hl, rfl⟩
  · rintro ⟨l, hl, rfl⟩
    cases ha : l.archived
    · exact .inl ⟨l, hl, ha, rfl⟩
    · exact .inr ⟨l, hl, ha, rfl⟩

section Distinct

variable {r : DatasetRecord} (hr : r.storedUris.Nodup)
include hr

theorem uris_nodup (archived : Bool) : (r.uris archived).Nodup := by
  have hsub : (r.uris archived).Sublist (r.storedUris.reverse) := by
    simp only [DatasetRecord.uris, storedUris, ← List.map_reverse]
    exact List.filter_sublist.map _
  exact hsub.nodup (List.nodup_reverse.2 hr)

/-- No URI is both active and archived. -/
theorem uris_disjoint {u : String} (hu : u ∈ r.uris false) : u ∉ r.uris true := by
  intro hu'
  obtain ⟨l, hl, hla, rfl⟩ := mem_uris.1 hu
  obtain ⟨l', hl', hla', hsame⟩ := mem_uris.1 hu'
  -- two entries with one URI are one entry, which cannot be both
  have := List.inj_on_of_nodup_map hr hl' hl hsame
  rw [this, hla] at hla'
  cases hla'

/-- The active and the archived URIs together are the stored ones, each once. -/
theorem uris_perm : (r.uris false ++ r.uris true).Perm r.storedUris := by
  have hnd : (r.uris false ++ r.uris true).Nodup :=
    (uris_nodup hr false).append (uris_nodup hr true) fun _ hu hu' => uris_disjoint hr hu hu'
  refine (List.perm_ext_iff_of_nodup hnd hr).2 fun u => ?_
  rw [List.mem_append, mem_uris_or_iff]

end Distinct

end DatasetRecord

namespace Location

/-- A location list after a change: the entries it keeps from `old`, in their
order and perhaps archived or restored, followed by active entries whose URIs
`old` did not hold, each once. New locations go after the old ones. -/
def KeepsOrder (old new : List Location) : Prop :=
  ∃ kept added, new = kept ++ added ∧ (kept.map (·.uri)).Sublist (old.map (·.uri)) ∧
    (added.map (·.uri)).Nodup ∧ ∀ l ∈ added, l.archived = false ∧ l.uri ∉ old.map (·.uri)

theorem KeepsOrder.refl (l : List Location) : KeepsOrder l l :=
  ⟨l, [], by simp, .refl _, .nil, by simp⟩

theorem KeepsOrder.of_uris {old new : List Location}
    (h : new.map (·.uri) = old.map (·.uri)) : KeepsOrder old new :=
  ⟨new, [], by simp, h ▸ .refl _, .nil, by simp⟩

/-- A change that keeps the order keeps the URIs distinct. -/
theorem KeepsOrder.nodup {old new : List Location} (h : KeepsOrder old new)
    (hold : (old.map (·.uri)).Nodup) : (new.map (·.uri)).Nodup := by
  obtain ⟨kept, added, rfl, hsub, hadded, hfresh⟩ := h
  rw [List.map_append]
  refine (hsub.nodup hold).append hadded fun u hk ha => ?_
  obtain ⟨l, hl, rfl⟩ := List.mem_map.1 ha
  exact (hfresh l hl).2 (hsub.subset hk)

end Location

namespace DatasetRecord

theorem addLocations_keepsOrder (r : DatasetRecord) (uris : List String) :
    Location.KeepsOrder r.locations (r.addLocations uris).locations := by
  rw [addLocations_eq]
  refine ⟨r.locations, freshLocations r.storedUris uris, rfl, .refl _, ?_, fun l hl => ?_⟩
  · rw [uri_freshLocations]
    exact List.nodup_reverse.2 (List.nodup_dedup _)
  · obtain ⟨u, hu, rfl⟩ := List.mem_map.1 hl
    refine ⟨rfl, ?_⟩
    have := (List.mem_filter.1 (List.mem_dedup.1 (List.mem_reverse.1 hu))).2
    simpa [storedUris] using this

theorem addLocation_fst (r : DatasetRecord) (u : String) : (r.addLocation u).1 = r.addLocations [u] :=
  rfl

theorem removeLocation_keepsOrder (r : DatasetRecord) (uri : String) :
    Location.KeepsOrder r.locations (r.removeLocation uri).1.locations :=
  ⟨r.locations.filter (·.uri != uri), [], by simp [removeLocation], List.filter_sublist.map _, .nil,
    by simp⟩

theorem uri_setLocationArchived_go (uri : String) (archived : Bool) :
    ∀ l : List Location, (setLocationArchived.go uri archived l).map (·.uri) = l.map (·.uri)
  | [] => rfl
  | x :: rest => by
    simp only [setLocationArchived.go]
    split
    · simp
    · simp [uri_setLocationArchived_go uri archived rest]

theorem setLocationArchived_keepsOrder (r : DatasetRecord) (uri : String) (archived : Bool) :
    Location.KeepsOrder r.locations (r.setLocationArchived uri archived).1.locations := by
  unfold setLocationArchived
  split
  · split
    · exact .of_uris (uri_setLocationArchived_go uri archived r.locations)
    · exact .refl _
  · exact .refl _

end DatasetRecord

end Geocube
