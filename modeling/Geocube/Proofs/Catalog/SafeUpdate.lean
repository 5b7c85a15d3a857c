import Geocube.Proofs.Catalog.Reading

/-
What an update classified as safe may change.

`MetadataType.checkUpdate` and `Product.checkUpdate` compare the raw definition
documents and let a change through by its path alone. The catalog reads a
definition through its decoded record, with defaults, aliases and optional keys.
This module shows that the path rules cover every way the decoded record can
change, for definitions that are documents of the data format (normal).

For a metadata type the argument descends the definition one mapping at a time.
A change is let through only under the top-level description, as a new entry
under `dataset.search_fields`, or as the description of one search field. So
at each level the keys the decoder reads are frozen, with one key allowed to
change in a known way. The frozen keys hold equal values, which decode alike
(`Reading`). The one open key is read by the next level down. Where a level
is not a mapping in both versions, a change of the whole would be refused, so
the two values are equal. The outcome: the record of the dataset section is
unchanged, except that it may gain search fields, and each old search field
is read the same way, up to its description.

For a product the rules freeze the keys `name`, `metadata_type`, `metadata`,
`measurements` and `extra_dimensions`. Their values are therefore equal,
which makes the name, the metadata type's name, the template, the bands and
the extra dimensions agree. This holds only for definitions that are
mappings. A definition may also be written as a list of its fields. Then the
whole definition is one value, and any change to it, such as new bands, is
one change at the empty path, which no rule refuses.
-/

namespace Geocube

open Decode Decode.Fields Document

theorem Document.UpdateReport.classify_isSafe_iff {cs : List Change} {p : Change → Bool} :
    (UpdateReport.classify cs p).isSafe = true ↔ ∀ c ∈ cs, p c = true := by
  simp [UpdateReport.classify, UpdateReport.isSafe, List.filter_eq_nil_iff]

theorem Document.isObj_iff {x : Document} : x.isObj = true ↔ ∃ fs, x = .obj fs := by
  cases x <;> simp [isObj]

/-! ## Metadata types -/

namespace MetadataType

/-- The changes `checkUpdate` lets through. -/
def safeChange (c : Change) : Bool :=
  if c.isUnder ["description"] then true
  else if c.isUnder ["dataset", "search_fields"] then
    (c.path.length == 3 && c.isAddition) ||
      (c.path.length == 4 && c.path[3]? == some "description")
  else false

theorem checkUpdate_isSafe_iff {old new : MetadataType} :
    (old.checkUpdate new).isSafe = true ↔
      DiffAll (fun c => safeChange c = true) old.definition new.definition :=
  UpdateReport.classify_isSafe_iff

/-- The changes a safe update may make inside the dataset section. -/
def sectionChange (c : Change) : Prop := safeChange (c.within "dataset") = true

/-- The changes a safe update may make inside the mapping of search fields. -/
def fieldsChange (c : Change) : Prop := sectionChange (c.within "search_fields")

/-- The changes a safe update may make inside the search field `k`. -/
def fieldChange (k : String) (c : Change) : Prop := fieldsChange (c.within k)

theorem fieldChange_within {k m : String} (hm : m ≠ "description") (c : Change) :
    ¬fieldChange k (c.within m) := by
  simp [fieldChange, fieldsChange, sectionChange, safeChange, Change.within, Change.isUnder, hm]

theorem fieldChange_root (k : String) (x y : Document) : ¬fieldChange k ⟨[], some x, some y⟩ := by
  simp [fieldChange, fieldsChange, sectionChange, safeChange, Change.within, Change.isUnder,
    Change.isAddition]

theorem fieldsChange_root (x y : Document) : ¬fieldsChange ⟨[], some x, some y⟩ := by
  simp [fieldsChange, sectionChange, safeChange, Change.within, Change.isUnder, Change.isAddition]

theorem fieldsChange_removal (k : String) (x : Document) : ¬fieldsChange ⟨[k], some x, none⟩ := by
  simp [fieldsChange, sectionChange, safeChange, Change.within, Change.isUnder, Change.isAddition]

theorem sectionChange_root (x y : Document) : ¬sectionChange ⟨[], some x, some y⟩ := by
  simp [sectionChange, safeChange, Change.within, Change.isUnder]

theorem sectionChange_within {k : String} (hk : k ≠ "search_fields") (c : Change) :
    ¬sectionChange (c.within k) := by
  simp [sectionChange, safeChange, Change.within, Change.isUnder, hk.symm]

theorem sectionChange_fields (b a : Option Document) :
    ¬sectionChange ⟨["search_fields"], b, a⟩ := by
  simp [sectionChange, safeChange, Change.within, Change.isUnder]

theorem safeChange_root (x y : Document) : ¬safeChange ⟨[], some x, some y⟩ = true := by
  simp [safeChange, Change.isUnder]

theorem safeChange_name (c : Change) : ¬safeChange (c.within "name") = true := by
  simp [safeChange, Change.within, Change.isUnder]

theorem safeChange_dataset (b a : Option Document) : ¬safeChange ⟨["dataset"], b, a⟩ = true := by
  simp [safeChange, Change.isUnder]

end MetadataType

/-- A search field read the same way as another: only its description may
differ. -/
def SearchField.SameReading (f f' : SearchField) : Prop :=
  ∃ d, f' = { f with description := d }

theorem SearchField.SameReading.refl (f : SearchField) : f.SameReading f := ⟨f.description, rfl⟩

/-- Inside one search field a safe update changes at most the description, so
the field is read the same way. -/
theorem SearchField.decoder_revised (k : String) :
    Preserves (Revised (MetadataType.fieldChange k)) SearchField.SameReading
      SearchField.decoder := by
  have hfrozen : ∀ {m : String}, m ≠ "description" →
      ∀ c : Change, ¬MetadataType.fieldChange k (c.within m) :=
    fun hm c => MetadataType.fieldChange_within hm c
  have hcoords := listOf_preserves_eq (pairOf_preserves_eq (listOf_respects text_respects).preserves
    (listOf_respects text_respects).preserves)
  have hplace := Offsets.decoder_respects.preserves
  have hoffset : ∀ m ∈ ["offset", "offsets"], ∀ c : Change,
      ¬MetadataType.fieldChange k (c.within m) := by
    intro m hm
    simp only [List.mem_cons, List.not_mem_nil, or_false] at hm
    rcases hm with rfl | rfl <;> exact hfrozen (by decide)
  refine record_preserves_revised (MetadataType.fieldChange_root k) SearchField.decoder_preserves
    SearchField.SameReading.refl ?_
  refine seq_mapPreserves ?_
    (dflt_mapPreserves_frozen (hfrozen (by decide)) (optional_preserves_eq crsDecoder_preserves) rfl)
  refine seq_mapPreserves ?_ (dflt_mapPreserves_frozen (hfrozen (by decide)) hcoords rfl)
  refine seq_mapPreserves ?_ (dflt_mapPreserves_frozen (hfrozen (by decide)) hplace rfl)
  refine seq_mapPreserves ?_ (dflt_mapPreserves_frozen (hfrozen (by decide)) hplace rfl)
  refine seq_mapPreserves ?_ (field_mapPreserves_frozen hoffset hplace
    fun _ h => by rcases h with h | h <;> cases h; rfl)
  refine seq_mapPreserves ?_
    (dflt_mapPreserves_frozen (hfrozen (by decide)) (unitVariant_respects _ _).preserves rfl)
  refine map_mapPreserves (mapPreserves_true _) ?_
  rintro d d' - t _ rfl o _ rfl lo _ rfl hi _ rfl co _ rfl cr _ rfl
  exact ⟨d', rfl⟩

/-- Every search field of the first list is in the second under its name, read
the same way, and the second lists them in the same order among its own. -/
structure SearchField.Grow (fs fs' : List (String × SearchField)) : Prop where
  lookup : ∀ k f, fs.lookup k = some f → ∃ f', fs'.lookup k = some f' ∧ f.SameReading f'
  kept : List.Forall₂ (fun e e' => e.1 = e'.1 ∧ e.2.SameReading e'.2) fs
    (fs'.filter fun e => (fs.map (·.1)).contains e.1)

theorem SearchField.Grow.refl (fs : List (String × SearchField)) : SearchField.Grow fs fs := by
  refine ⟨fun _ f h => ⟨f, h, .refl f⟩, ?_⟩
  rw [List.filter_eq_self.2 fun e he => by simpa using List.mem_map_of_mem (f := (·.1)) he]
  exact List.forall₂_same.2 fun e _ => ⟨rfl, .refl e.2⟩

/-- Under the search fields a safe update only adds fields and edits
descriptions: no field is lost, each is read the same way, and the old fields
keep their order. -/
theorem SearchField.fields_revised :
    Preserves (Revised MetadataType.fieldsChange) SearchField.Grow (mapOf SearchField.decoder) := by
  intro x y fs fs' h hfs hfs'
  by_cases hobj : x.isObj ∧ y.isObj
  · obtain ⟨es, rfl⟩ := isObj_iff.1 hobj.1
    obtain ⟨es', rfl⟩ := isObj_iff.1 hobj.2
    refine ⟨fun k f hk => ?_, ?_⟩
    · -- the old field was decoded from the entry under its name, which is still there
      have hold := mapOf_lookup hfs k
      have hnew := mapOf_lookup hfs' k
      rw [hk] at hold
      cases hv : es.lookup k with
      | none =>
        rw [hv] at hold
        cases hold
      | some v =>
        rw [hv, Option.rel_some_some] at hold
        cases hv' : es'.lookup k with
        | none => exact (MetadataType.fieldsChange_removal k v (h.changes.removal hv hv')).elim
        | some v' =>
          rw [hv'] at hnew
          cases hf' : fs'.lookup k with
          | none =>
            rw [hf'] at hnew
            cases hnew
          | some f' =>
            rw [hf', Option.rel_some_some] at hnew
            exact ⟨f', rfl, SearchField.decoder_revised k (h.atKey hv hv') hold hnew⟩
    · -- old entry, its revision and both decoded fields line up one for one
      have hold := mapOf_forall₂ hfs
      have hnew := mapOf_forall₂ hfs'
      have hkeys : es.map (·.1) = fs.map (·.1) := keys_eq_of_forall₂ (fun _ _ h => h.1) hold
      have hnew' := List.rel_filter (p := fun e => (es.map (·.1)).contains e.1)
        (q := fun a => (fs.map (·.1)).contains a.1) (fun e a hea => by simp only [hkeys, hea.1]) hnew
      have hkept := h.kept MetadataType.fieldsChange_removal
      -- an old field is read like any field decoded from the revision of its entry
      have hleft := forall₂_trans
        (T := fun (a : String × SearchField) (e' : String × Document) =>
          a.1 = e'.1 ∧ ∀ b, SearchField.decoder e'.2 = .ok b → a.2.SameReading b)
        (fun _ _ _ ⟨hea, hdec⟩ ⟨hk, hrev⟩ =>
          ⟨hea.symm.trans hk, fun _ hb => SearchField.decoder_revised _ hrev hdec hb⟩)
        (List.Forall₂.flip (R := fun (a : String × SearchField) (e : String × Document) =>
          e.1 = a.1 ∧ SearchField.decoder e.2 = .ok a.2) hold)
        hkept
      exact forall₂_trans (fun _ _ _ ⟨hk, hread⟩ ⟨hk', hdec'⟩ => ⟨hk.trans hk', hread _ hdec'⟩)
        hleft hnew'
  · obtain rfl := mapOf_preserves_eq SearchField.decoder_preserves
      (h.changes.same_of_root hobj (MetadataType.fieldsChange_root _ _)) hfs hfs'
    exact .refl fs

/-- The dataset section after a safe update: the same places, and search
fields that grow. -/
def DatasetSection.Grows (ds ds' : DatasetSection) : Prop :=
  ds' = { ds with searchFields := ds'.searchFields } ∧
    SearchField.Grow ds.searchFields ds'.searchFields

theorem DatasetSection.decoder_revised :
    Preserves (Revised MetadataType.sectionChange) DatasetSection.Grows DatasetSection.decoder := by
  have hplace := Offsets.decoder_respects.preserves
  have hfrozen : ∀ {k : String}, k ≠ "search_fields" →
      ∀ c : Change, ¬MetadataType.sectionChange (c.within k) :=
    fun hk c => MetadataType.sectionChange_within hk c
  refine record_preserves_revised MetadataType.sectionChange_root DatasetSection.decoder_preserves
    (fun ds => ⟨rfl, .refl _⟩) ?_
  refine seq_mapPreserves ?_ (dflt_mapPreserves_revised
    (fun v => MetadataType.sectionChange_fields none (some v))
    (fun v => MetadataType.sectionChange_fields (some v) none) SearchField.fields_revised (.refl []))
  refine seq_mapPreserves ?_ (dflt_mapPreserves_frozen (hfrozen (by decide)) hplace rfl)
  refine seq_mapPreserves ?_ (dflt_mapPreserves_frozen (hfrozen (by decide)) hplace rfl)
  refine seq_mapPreserves ?_ (dflt_mapPreserves_frozen (hfrozen (by decide)) hplace rfl)
  refine seq_mapPreserves ?_ (dflt_mapPreserves_frozen (hfrozen (by decide)) hplace rfl)
  refine seq_mapPreserves ?_ (dflt_mapPreserves_frozen (hfrozen (by decide)) hplace rfl)
  refine seq_mapPreserves ?_ (dflt_mapPreserves_frozen (hfrozen (by decide)) hplace rfl)
  refine seq_mapPreserves ?_ (dflt_mapPreserves_frozen (hfrozen (by decide)) hplace rfl)
  refine seq_mapPreserves ?_ (dflt_mapPreserves_frozen (hfrozen (by decide)) hplace rfl)
  refine seq_mapPreserves ?_ (req_mapPreserves_frozen (hfrozen (by decide)) hplace)
  refine map_mapPreserves (req_mapPreserves_frozen (hfrozen (by decide)) hplace) ?_
  rintro i _ rfl t _ rfl l _ rfl s _ rfl f _ rfl c _ rfl g _ rfl m _ rfl gs _ rfl ms _ rfl
    sf sf' hsf
  exact ⟨rfl, hsf⟩

theorem MetadataType.definitionDecoder_revised :
    Preserves (Revised fun c => MetadataType.safeChange c = true)
      (fun d d' => d'.name = d.name ∧ DatasetSection.Grows d.dataset d'.dataset)
      MetadataType.definitionDecoder := by
  refine record_preserves_revised MetadataType.safeChange_root
    MetadataType.definitionDecoder_preserves (fun d => ⟨rfl, rfl, .refl _⟩) ?_
  refine seq_mapPreserves ?_ (req_mapPreserves_revised
    (fun v => MetadataType.safeChange_dataset none (some v))
    (fun v => MetadataType.safeChange_dataset (some v) none) DatasetSection.decoder_revised)
  refine seq_mapPreserves ?_ (mapPreserves_true _)
  refine map_mapPreserves (req_mapPreserves_frozen MetadataType.safeChange_name
    text_respects.preserves) ?_
  rintro n _ rfl d d' - ds ds' hds
  exact ⟨rfl, hds⟩

/-- A dataset section whose search fields carry the names they are stored
under, as a metadata type keeps it. -/
def DatasetSection.named (s : DatasetSection) : DatasetSection :=
  { s with searchFields := s.searchFields.map fun (k, f) => (k, { f with name := k }) }

theorem DatasetSection.lookup_named (s : DatasetSection) (n : String) :
    s.named.searchFields.lookup n = (s.searchFields.lookup n).map fun f => { f with name := n } := by
  simp only [named]
  induction s.searchFields with
  | nil => rfl
  | cons e fs ih =>
    obtain ⟨k, f⟩ := e
    by_cases hk : n = k
    · subst hk
      simp
    · simp only [List.map_cons, List.lookup_cons, beq_false_of_ne hk]
      exact ih

theorem MetadataType.ofDoc_ok {doc : Document} {mt : MetadataType} (h : ofDoc doc = .ok mt) :
    ∃ d, definitionDecoder doc = .ok d ∧ mt = ⟨d.name, d.description, d.dataset.named, doc⟩ := by
  unfold ofDoc at h
  cases hd : definitionDecoder doc with
  | error e => simp [hd] at h
  | ok d =>
    simp only [hd, Except.bind_eq_ok, Except.pure_eq_ok] at h
    obtain ⟨_, rfl, -, -, rfl⟩ := h
    exact ⟨_, rfl, rfl⟩

theorem SearchField.SameReading.extract_eq {f f' : SearchField} (h : f.SameReading f')
    (doc : Document) : f'.extract doc = f.extract doc := by
  obtain ⟨d, rfl⟩ := h
  rfl

theorem SearchField.SameReading.rename {f f' : SearchField} (h : f.SameReading f') (k : String) :
    SearchField.SameReading { f with name := k } { f' with name := k } := by
  obtain ⟨d, rfl⟩ := h
  exact ⟨d, rfl⟩

/-- Naming each search field after its key, as a metadata type does, keeps the
growth of a section. -/
theorem DatasetSection.Grows.named {ds ds' : DatasetSection} (h : ds.Grows ds') :
    ds.named.Grows ds'.named := by
  obtain ⟨hsec, hgrow⟩ := h
  have hnamed : ∀ s : DatasetSection,
      s.named.searchFields = s.searchFields.map fun e => (e.1, { e.2 with name := e.1 }) :=
    fun s => List.map_congr_left fun _ _ => rfl
  refine ⟨?_, fun n f hf => ?_, ?_⟩
  · rw [hsec]
    rfl
  · rw [lookup_named] at hf ⊢
    obtain ⟨f₀, hf₀, rfl⟩ := Option.map_eq_some_iff.1 hf
    obtain ⟨f₀', hf₀', hread⟩ := hgrow.lookup n f₀ hf₀
    exact ⟨_, by rw [hf₀']; rfl, hread.rename n⟩
  · rw [hnamed, hnamed]
    simp only [List.map_map, Function.comp_def, List.filter_map, List.forall₂_map_left_iff,
      List.forall₂_map_right_iff]
    exact hgrow.kept.imp fun e e' ⟨hk, hread⟩ => ⟨hk, hk ▸ hread.rename e.1⟩

/-- A safe update of a metadata type keeps every place of the dataset section,
and its search fields grow. -/
theorem MetadataType.checkUpdate_safe_grows {docOld docNew : Document}
    {old new : MetadataType} (hold : ofDoc docOld = .ok old) (hnew : ofDoc docNew = .ok new)
    (hn : docOld.isNormal = true) (hn' : docNew.isNormal = true)
    (hsafe : (old.checkUpdate new).isSafe = true) : old.dataset.Grows new.dataset := by
  obtain ⟨d, hd, rfl⟩ := ofDoc_ok hold
  obtain ⟨d', hd', rfl⟩ := ofDoc_ok hnew
  have hrev : Revised (fun c => safeChange c = true) docOld docNew :=
    ⟨checkUpdate_isSafe_iff.1 hsafe, hn, hn'⟩
  exact (definitionDecoder_revised hrev hd hd').2.named

/-- A safe update of a metadata type keeps every place of the dataset section,
and keeps every search field, read the same way. -/
theorem MetadataType.checkUpdate_safe_keeps_fields {docOld docNew : Document}
    {old new : MetadataType} (hold : ofDoc docOld = .ok old) (hnew : ofDoc docNew = .ok new)
    (hn : docOld.isNormal = true) (hn' : docNew.isNormal = true)
    (hsafe : (old.checkUpdate new).isSafe = true) :
    new.dataset = { old.dataset with searchFields := new.dataset.searchFields } ∧
      ∀ n f, old.field? n = some f → ∃ f', new.field? n = some f' ∧ f.SameReading f' :=
  have hgrows := checkUpdate_safe_grows hold hnew hn hn' hsafe
  ⟨hgrows.1, hgrows.2.lookup⟩

/-- The readers of a metadata type look only at the places of its dataset
section, so a section that keeps them reads every document alike. -/
theorem MetadataType.readers_eq_of_places {old new : MetadataType}
    (h : new.dataset = { old.dataset with searchFields := new.dataset.searchFields })
    (doc : Document) :
    new.datasetId doc = old.datasetId doc ∧ new.creationTime doc = old.creationTime doc ∧
      new.sources doc = old.sources doc ∧ new.label doc = old.label doc ∧
      new.format doc = old.format doc ∧ new.crs doc = old.crs doc ∧
      new.dataset.grids.resolve doc = old.dataset.grids.resolve doc ∧
      new.dataset.geometry.resolve doc = old.dataset.geometry.resolve doc ∧
      new.dataset.gridSpatial.resolve doc = old.dataset.gridSpatial.resolve doc ∧
      new.dataset.measurements.resolve doc = old.dataset.measurements.resolve doc := by
  -- naming the new search fields keeps the rewrite by `h` from looping
  generalize new.dataset.searchFields = fs at h
  simp only [MetadataType.datasetId, MetadataType.creationTime, MetadataType.sources,
    MetadataType.label, MetadataType.format, MetadataType.crs, h, and_self]

/-! ## Products -/

namespace Product

/-- The changes `checkUpdate` lets through. -/
def safeChange (c : Change) : Bool :=
  !(c.isUnder ["metadata"] || c.isUnder ["measurements"] || c.isUnder ["metadata_type"] ||
    c.isUnder ["extra_dimensions"] || c.isUnder ["name"])

theorem checkUpdate_isSafe_iff {old new : Product} :
    (old.checkUpdate new).isSafe = true ↔
      DiffAll (fun c => safeChange c = true) old.definition new.definition :=
  UpdateReport.classify_isSafe_iff

theorem safeChange_within {k : String}
    (hk : k ∈ ["metadata", "measurements", "metadata_type", "extra_dimensions", "name"])
    (c : Change) : ¬safeChange (c.within k) = true := by
  simp only [List.mem_cons, List.not_mem_nil, or_false] at hk
  rcases hk with rfl | rfl | rfl | rfl | rfl <;> simp [safeChange, Change.within, Change.isUnder]

/-- What a product definition says about reading documents: the product's
name, its metadata type's name, its template, bands and extra dimensions. -/
structure Definition.Agree (d d' : Definition) : Prop where
  name : d.name = d'.name
  metadataType : d.metadataType = d'.metadataType
  metadata : Option.Rel Same d.metadata d'.metadata
  measurements : List.Forall₂ Measurement.Agree d.measurements d'.measurements
  extraDimensions : List.Forall₂ ExtraDimension.Agree d.extraDimensions d'.extraDimensions

/-- The keys a safe update may not touch are read alike from a mapping and its
revision. -/
theorem definitionDecoder_revised {es es' : List (String × Document)} {d d' : Definition}
    (h : Revised (fun c => safeChange c = true) (.obj es) (.obj es'))
    (hd : definitionDecoder (.obj es) = .ok d) (hd' : definitionDecoder (.obj es') = .ok d') :
    d.Agree d' := by
  refine MapPreserves.record (E := fun es es' => Revised _ (.obj es) (.obj es')) ?_ h hd hd'
  refine seq_mapPreserves ?_ (mapPreserves_true _)
  refine seq_mapPreserves ?_ (dflt_mapPreserves_frozen (safeChange_within (by simp))
    (listOf_preserves ExtraDimension.decoder_preserves) .nil)
  refine seq_mapPreserves ?_ (mapPreserves_true _)
  refine seq_mapPreserves ?_ (mapPreserves_true _)
  refine seq_mapPreserves ?_ (dflt_mapPreserves_frozen (safeChange_within (by simp))
    (listOf_preserves Measurement.decoder_preserves) .nil)
  refine seq_mapPreserves ?_ (dflt_mapPreserves_frozen (safeChange_within (by simp))
    (optional_preserves any_preserves) .none)
  refine seq_mapPreserves ?_ (mapPreserves_true _)
  refine seq_mapPreserves ?_ (req_mapPreserves_frozen (safeChange_within (by simp))
    text_respects.preserves)
  refine seq_mapPreserves ?_ (mapPreserves_true _)
  refine map_mapPreserves (req_mapPreserves_frozen (safeChange_within (by simp))
    text_respects.preserves) ?_
  rintro n _ rfl - - - t _ rfl - - - md md' hmd ms ms' hms - - - - - - ed ed' hed - - -
  exact ⟨rfl, rfl, hmd, hms, hed⟩

theorem ofDoc_ok {doc : Document} {resolve : String → Option MetadataType} {p : Product}
    (h : ofDoc doc resolve = .ok p) :
    ∃ d mt, definitionDecoder doc = .ok d ∧ resolve d.metadataType = some mt ∧
      p = ⟨d.name, d.description, mt, d.license, d.metadata.getD Document.empty, d.measurements,
        d.load, d.storage, d.extraDimensions, d.fuse, doc⟩ := by
  unfold ofDoc at h
  cases hd : definitionDecoder doc with
  | error e => simp [hd] at h
  | ok d =>
    simp only [hd, Except.bind_eq_ok, Except.pure_eq_ok] at h
    obtain ⟨_, rfl, h⟩ := h
    split at h
    · rename_i mt hr
      simp only [Except.bind_eq_ok, Except.pure_eq_ok] at h
      obtain ⟨-, -, rfl⟩ := h
      exact ⟨_, mt, rfl, hr, rfl⟩
    · simp at h

/-- Equal templates, or none, ask the same of every document. -/
theorem contains_getD_congr {t t' : Option Document} (h : Option.Rel Same t t') (doc : Document) :
    doc.contains (t'.getD Document.empty) = doc.contains (t.getD Document.empty) := by
  cases h with
  | none => rfl
  | some hsame => exact (contains_congr doc hsame).symm

/-- A safe update of a product written as a mapping keeps how documents are
matched, the bands by every name, the metadata type's name and the extra
dimensions. -/
theorem checkUpdate_safe_keeps_reading {docOld docNew : Document}
    {resolve resolve' : String → Option MetadataType} {old new : Product}
    (hold : ofDoc docOld resolve = .ok old) (hnew : ofDoc docNew resolve' = .ok new)
    (hobj : docOld.isObj = true ∧ docNew.isObj = true)
    (hn : docOld.isNormal = true) (hn' : docNew.isNormal = true)
    (hsafe : (old.checkUpdate new).isSafe = true) :
    (∀ doc, new.accepts doc = old.accepts doc) ∧
      (∀ n, Option.Rel Measurement.Agree (old.measurement? n) (new.measurement? n)) ∧
      (∃ n, resolve n = some old.metadataType ∧ resolve' n = some new.metadataType) ∧
      List.Forall₂ ExtraDimension.Agree old.extraDimensions new.extraDimensions := by
  obtain ⟨d, mt, hd, hmt, rfl⟩ := ofDoc_ok hold
  obtain ⟨d', mt', hd', hmt', rfl⟩ := ofDoc_ok hnew
  obtain ⟨es, rfl⟩ := isObj_iff.1 hobj.1
  obtain ⟨es', rfl⟩ := isObj_iff.1 hobj.2
  have hagree := definitionDecoder_revised ⟨checkUpdate_isSafe_iff.1 hsafe, hn, hn'⟩ hd hd'
  refine ⟨fun doc => ?_, fun n => Measurement.find?_agree hagree.measurements n,
    ⟨d.metadataType, hmt, hagree.metadataType ▸ hmt'⟩, hagree.extraDimensions⟩
  exact contains_getD_congr hagree.metadata doc

end Product

/-! ## Safe updates read documents alike -/

/-- An update classified as safe does not change how documents are read. For a
metadata type, every search field is still defined and extracts the same value
from every document, and the id, creation time, sources, label, format, system
and the places of grids, geometry, grid and bands are read the same. For a
product written as a mapping, documents are matched alike, every band name
finds agreeing bands, the metadata type is found by the same name, and the
extra dimensions agree. Definitions are documents of the format, with sorted
keys; a product written as a list is not covered, as the end of this module shows. -/
theorem safe_update_reads_alike {docOld docNew : Document} (hn : docOld.isNormal = true)
    (hn' : docNew.isNormal = true) :
    (∀ {old new : MetadataType},
      MetadataType.ofDoc docOld = .ok old → MetadataType.ofDoc docNew = .ok new →
      (old.checkUpdate new).isSafe = true →
      ∀ doc,
        (∀ n f, old.field? n = some f →
          ∃ f', new.field? n = some f' ∧ f'.extract doc = f.extract doc) ∧
        new.datasetId doc = old.datasetId doc ∧ new.creationTime doc = old.creationTime doc ∧
        new.sources doc = old.sources doc ∧ new.label doc = old.label doc ∧
        new.format doc = old.format doc ∧ new.crs doc = old.crs doc ∧
        new.dataset.grids.resolve doc = old.dataset.grids.resolve doc ∧
        new.dataset.geometry.resolve doc = old.dataset.geometry.resolve doc ∧
        new.dataset.gridSpatial.resolve doc = old.dataset.gridSpatial.resolve doc ∧
        new.dataset.measurements.resolve doc = old.dataset.measurements.resolve doc) ∧
    (∀ {resolve resolve' : String → Option MetadataType} {old new : Product},
      Product.ofDoc docOld resolve = .ok old → Product.ofDoc docNew resolve' = .ok new →
      docOld.isObj = true → docNew.isObj = true → (old.checkUpdate new).isSafe = true →
      (∀ doc, new.accepts doc = old.accepts doc) ∧
        (∀ n, Option.Rel Measurement.Agree (old.measurement? n) (new.measurement? n)) ∧
        (∃ n, resolve n = some old.metadataType ∧ resolve' n = some new.metadataType) ∧
        List.Forall₂ ExtraDimension.Agree old.extraDimensions new.extraDimensions) := by
  refine ⟨fun hold hnew hsafe doc => ?_, fun hold hnew hx hy hsafe =>
    Product.checkUpdate_safe_keeps_reading hold hnew ⟨hx, hy⟩ hn hn' hsafe⟩
  obtain ⟨hsec, hfields⟩ := MetadataType.checkUpdate_safe_keeps_fields hold hnew hn hn' hsafe
  refine ⟨fun n f hf => ?_, MetadataType.readers_eq_of_places hsec doc⟩
  obtain ⟨f', hf', hsame⟩ := hfields n f hf
  exact ⟨f', hf', hsame.extract_eq doc⟩

/-! ### Describing a catalog -/

/-- A metadata type with one search field, `platform`. -/
def platformTypeDoc : Document :=
  .obj [("dataset", .obj [("creation_dt", .arr [.str "created"]), ("id", .arr [.str "id"]),
      ("search_fields", .obj [("platform", .obj [("offset", .arr [.str "platform"])])])]),
    ("name", .str "scenes")]

/-- The same type, described, with `platform` described and a new `cloud` field. -/
def cloudTypeDoc : Document :=
  .obj [("dataset", .obj [("creation_dt", .arr [.str "created"]), ("id", .arr [.str "id"]),
      ("search_fields", .obj [
        ("cloud", .obj [("offset", .arr [.str "cloud"]), ("type", .str "numeric")]),
        ("platform", .obj [("description", .str "satellite"),
          ("offset", .arr [.str "platform"])])])]),
    ("description", .str "scenes by platform"), ("name", .str "scenes")]

def platformType : MetadataType :=
  ⟨"scenes", none, ⟨⟨[["id"]]⟩, ⟨[["created"]]⟩, .empty, .empty, .empty, .empty, .empty, .empty,
    .empty, .empty,
    [("platform", ⟨"platform", none, .string, ⟨[["platform"]]⟩, .empty, .empty, [], none⟩)]⟩,
    platformTypeDoc⟩

def cloudType : MetadataType :=
  ⟨"scenes", some "scenes by platform", ⟨⟨[["id"]]⟩, ⟨[["created"]]⟩, .empty, .empty, .empty,
    .empty, .empty, .empty, .empty, .empty,
    [("cloud", ⟨"cloud", none, .numeric, ⟨[["cloud"]]⟩, .empty, .empty, [], none⟩),
     ("platform", ⟨"platform", some "satellite", .string, ⟨[["platform"]]⟩, .empty, .empty, [],
       none⟩)]⟩,
    cloudTypeDoc⟩

/-- A product of the `scenes` type for one platform. -/
def platformProductDoc : Document :=
  .obj [("metadata", .obj [("platform", .str "S2A")]), ("metadata_type", .str "scenes"),
    ("name", .str "s2")]

/-- The same product with a description. -/
def describedProductDoc : Document :=
  .obj [("description", .str "Sentinel-2 scenes"), ("metadata", .obj [("platform", .str "S2A")]),
    ("metadata_type", .str "scenes"), ("name", .str "s2")]

def platformProduct : Product :=
  ⟨"s2", none, platformType, none, .obj [("platform", .str "S2A")], [], none, none, [], none,
    platformProductDoc⟩

def describedProduct : Product :=
  ⟨"s2", some "Sentinel-2 scenes", cloudType, none, .obj [("platform", .str "S2A")], [], none,
    none, [], none, describedProductDoc⟩

/-- A scene of the platform. -/
def platformScene : Document :=
  .obj [("created", .str "2020-01-01T00:00:00Z"),
    ("id", .str "00000000-0000-4000-8000-000000000001"), ("platform", .str "S2A")]

/-- Describing the type and the product, and adding a search field, are safe
updates; the scene's platform and match are read as before. -/
theorem describing_scenes_reads_alike :
    MetadataType.ofDoc platformTypeDoc = .ok platformType ∧
      MetadataType.ofDoc cloudTypeDoc = .ok cloudType ∧
      (platformType.checkUpdate cloudType).isSafe = true ∧
      Product.ofDoc platformProductDoc (fun _ => some platformType) = .ok platformProduct ∧
      Product.ofDoc describedProductDoc (fun _ => some cloudType) = .ok describedProduct ∧
      (platformProduct.checkUpdate describedProduct).isSafe = true ∧
      (∃ f', cloudType.field? "platform" = some f' ∧
        f'.extract platformScene = some (.text "S2A")) ∧
      describedProduct.accepts platformScene = platformProduct.accepts platformScene :=
  have htype : MetadataType.ofDoc platformTypeDoc = .ok platformType := rfl
  have htype' : MetadataType.ofDoc cloudTypeDoc = .ok cloudType := rfl
  have hsafe : (platformType.checkUpdate cloudType).isSafe = true := by decide
  have hprod : Product.ofDoc platformProductDoc (fun _ => some platformType) =
    .ok platformProduct := rfl
  have hprod' : Product.ofDoc describedProductDoc (fun _ => some cloudType) =
    .ok describedProduct := rfl
  have hsafe' : (platformProduct.checkUpdate describedProduct).isSafe = true := by decide
  have hfield := ((safe_update_reads_alike (by decide) (by decide)).1 htype htype' hsafe
    platformScene).1 "platform" _ rfl
  ⟨htype, htype', hsafe, hprod, hprod', hsafe', hfield,
    ((safe_update_reads_alike (by decide) (by decide)).2 hprod hprod' rfl rfl hsafe').1
      platformScene⟩

/-! ### A product written as a list -/

/-- A product of the `scenes` type written as the list of its first fields,
with an empty template. -/
def listedProductDoc : Document :=
  .arr [.str "s2", .null, .str "scenes", .null, .obj []]

/-- The same list with the template asking for a platform. -/
def listedPlatformDoc : Document :=
  .arr [.str "s2", .null, .str "scenes", .null, .obj [("platform", .str "S2B")]]

def listedProduct : Product :=
  ⟨"s2", none, platformType, none, .obj [], [], none, none, [], none, listedProductDoc⟩

def listedPlatformProduct : Product :=
  ⟨"s2", none, platformType, none, .obj [("platform", .str "S2B")], [], none, none, [], none,
    listedPlatformDoc⟩

/-- Changing the template of a product written as a list is classified safe,
yet the product stops matching a scene it matched. -/
theorem listed_template_change_is_safe :
    Product.ofDoc listedProductDoc (fun _ => some platformType) = .ok listedProduct ∧
      Product.ofDoc listedPlatformDoc (fun _ => some platformType) = .ok listedPlatformProduct ∧
      (listedProduct.checkUpdate listedPlatformProduct).isSafe = true ∧
      listedProduct.accepts platformScene = true ∧
      listedPlatformProduct.accepts platformScene = false :=
  ⟨rfl, rfl, by decide, by decide, by decide⟩

end Geocube
