import Geocube.Proofs.Catalog.Paging
import Geocube.Proofs.Catalog.SafeUpdate

/-
The recorded time and bounds of a dataset under a new version of its metadata
type.

An index records a dataset's acquisition time and geographic bounds when the
dataset is added and never recomputes them. When a metadata type is updated,
its products are bound to the new version, and the records must stay fresh
(`DatasetRecord.Fresh`) for the first phase of a search to remain sound.

A safe update keeps every place of the dataset section and every search field,
read the same way, in the same order, and may add fields. The acquisition time
is read from the `time` field, so a recorded time stays the dataset's time
(`Fresh.retype`). The geographic bounds come from the declared extent, which
reads only places, or else from the first spatial search field that has a
value. That fallback changes when the update adds a spatial field ahead of the
old ones, so the bounds are kept only for updates that add no spatial field
(`MetadataType.AddsNoSpatialField`).
-/

namespace Geocube

theorem SearchField.fieldType_of_extract_spatial {f : SearchField} {doc : Document} {g : Geometry}
    (h : f.extract doc = some (.spatial g)) : f.fieldType = .spatial := by
  unfold SearchField.extract at h
  cases hf : f.fieldType <;> simp [hf, Option.bind_eq_some_iff] at h ⊢

/-- Every spatial search field of the new version is a field of the old one. -/
def MetadataType.AddsNoSpatialField (old new : MetadataType) : Prop :=
  ∀ e ∈ new.dataset.searchFields, e.2.fieldType = .spatial → (old.field? e.1).isSome

theorem findSome?_filter_of_none {α β : Type} {f : α → Option β} {p : α → Bool} :
    ∀ {l : List α}, (∀ x ∈ l, p x = false → f x = none) → (l.filter p).findSome? f = l.findSome? f
  | [], _ => rfl
  | x :: l, h => by
    have ih := findSome?_filter_of_none fun y hy => h y (List.mem_cons_of_mem _ hy)
    by_cases hx : p x = true
    · simp [hx, List.findSome?_cons, ih]
    · simp [hx, ih, h x List.mem_cons_self (by simpa using hx)]

theorem findSome?_eq_of_forall₂ {α β γ : Type} {R : α → β → Prop} {f : α → Option γ}
    {g : β → Option γ} (hfg : ∀ a b, R a b → g b = f a) :
    ∀ {l : List α} {l' : List β}, List.Forall₂ R l l' → l'.findSome? g = l.findSome? f
  | _, _, .nil => rfl
  | _, _, .cons h hs => by
    simp only [List.findSome?_cons, hfg _ _ h, findSome?_eq_of_forall₂ hfg hs]

namespace Dataset

/-- The declared extent reads only the places of the dataset section. -/
theorem extent_congr {d d' : Dataset} (hmeta : d'.metadata = d.metadata)
    (hplaces : d'.metadataType.dataset =
      { d.metadataType.dataset with searchFields := d'.metadataType.dataset.searchFields }) :
    d'.extent = d.extent := by
  generalize d'.metadataType.dataset.searchFields = fs at hplaces
  simp only [extent, Dataset.crs, MetadataType.crs, grids, hmeta, hplaces]

/-- The spatial fallback of the geographic extent is the same for two versions
of a metadata type whose spatial fields are the same, read alike and in the
same order. -/
theorem spatial_fallback_eq {old new : MetadataType}
    (hgrow : SearchField.Grow old.dataset.searchFields new.dataset.searchFields)
    (hadds : old.AddsNoSpatialField new) (s : SearchField → Option Geometry)
    (hs : ∀ f, f.fieldType ≠ .spatial → s f = none)
    (hsame : ∀ f f', f.SameReading f' → s f' = s f) :
    new.searchFields.findSome? s = old.searchFields.findSome? s := by
  simp only [MetadataType.searchFields, List.findSome?_map]
  -- fields the update added are not spatial, and give nothing
  rw [← findSome?_filter_of_none (p := fun e => (old.dataset.searchFields.map (·.1)).contains e.1)]
  · exact findSome?_eq_of_forall₂ (fun e e' h => hsame _ _ h.2) hgrow.kept
  · intro e he hout
    apply hs
    intro hsp
    -- a spatial field of the new version is an old field, so it passes the filter
    have hin := hadds e he hsp
    rw [MetadataType.field?, List.lookup_isSome_iff] at hin
    obtain ⟨e₀, he₀, hk⟩ := hin
    have hmem : e.1 ∈ old.dataset.searchFields.map (·.1) :=
      List.mem_map.2 ⟨e₀, he₀, (beq_iff_eq.1 hk).symm⟩
    simp [hmem] at hout

theorem timeRange_congr {d d' : Dataset} (hmt : d'.metadataType = d.metadataType)
    (hmeta : d'.metadata = d.metadata) : d'.timeRange = d.timeRange := by
  simp only [timeRange, field, hmt, hmeta]

theorem boundsLonLat_congr {d d' : Dataset} (hmt : d'.metadataType = d.metadataType)
    (hmeta : d'.metadata = d.metadata) : d'.boundsLonLat = d.boundsLonLat := by
  simp only [boundsLonLat, extentLonLat, extent, crs, grids, hmt, hmeta]

end Dataset

namespace DatasetRecord

variable {r : DatasetRecord} {q : Product}

theorem bind_metadataType (r : DatasetRecord) (q : Product) :
    (r.bind q).metadataType = q.metadataType := rfl

/-- What a search reads of a record ahead of time: its product's name, its
document, and the time and bounds recorded from them. -/
structure SameColumns (r' r : DatasetRecord) : Prop where
  product : r'.product = r.product
  metadata : r'.metadata = r.metadata
  time : r'.time = r.time
  bounds : r'.bounds = r.bounds

theorem SameColumns.refl (r : DatasetRecord) : r.SameColumns r := ⟨rfl, rfl, rfl, rfl⟩

theorem SameColumns.trans {r r' r'' : DatasetRecord} (h : r''.SameColumns r')
    (h' : r'.SameColumns r) : r''.SameColumns r :=
  ⟨h.1.trans h'.1, h.2.trans h'.2, h.3.trans h'.3, h.4.trans h'.4⟩

/-- A record with another record's columns, bound to a product of the same
metadata type, is fresh where that record is. -/
theorem Fresh.of_same {r' : DatasetRecord} {q' : Product} (h : r.Fresh q)
    (hsame : r'.SameColumns r) (hmt : q'.metadataType = q.metadataType) : r'.Fresh q' := by
  have hbind : (r'.bind q').metadataType = (r.bind q).metadataType := hmt
  refine ⟨fun t ht => ?_, fun b hb => ?_⟩
  · rw [Dataset.timeRange_congr hbind hsame.metadata]
    exact h.1 t (hsame.time ▸ ht)
  · rw [Dataset.boundsLonLat_congr hbind hsame.metadata]
    exact h.2 b (hsame.bounds ▸ hb)

/-- A record stays fresh when its product is bound to a safe revision of its
metadata type that adds no spatial field. -/
theorem Fresh.retype {new : MetadataType} (h : r.Fresh q)
    (hgrows : q.metadataType.dataset.Grows new.dataset)
    (hadds : q.metadataType.AddsNoSpatialField new) :
    r.Fresh { q with metadataType := new } := by
  refine ⟨fun t ht => ?_, fun b hb => ?_⟩
  · -- the time field, if the old version has one, is still there and read alike
    have hold := h.1 t ht
    simp only [Dataset.timeRange, Dataset.field, bind_metadataType, Option.bind_eq_some_iff]
      at hold ⊢
    obtain ⟨v, ⟨f, hf, hv⟩, ht'⟩ := hold
    obtain ⟨f', hf', hread⟩ := hgrows.2.lookup _ f hf
    exact ⟨v, ⟨f', hf', by rw [hread.extract_eq]; exact hv⟩, ht'⟩
  · have hextent : (r.bind { q with metadataType := new }).extent = (r.bind q).extent :=
      Dataset.extent_congr rfl hgrows.1
    have hlonlat : (r.bind { q with metadataType := new }).extentLonLat =
        (r.bind q).extentLonLat := by
      simp only [Dataset.extentLonLat, hextent]
      split
      · rfl
      · refine Dataset.spatial_fallback_eq hgrows.2 hadds _ (fun f hf => ?_) (fun f f' hread => ?_)
        · split
          · rename_i g hg
            exact (hf (SearchField.fieldType_of_extract_spatial hg)).elim
          · rfl
        · rw [hread.extract_eq]
    simp only [Dataset.boundsLonLat, hlonlat]
    exact h.2 b hb

end DatasetRecord

end Geocube
