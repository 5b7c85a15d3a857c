import Geocube.Proofs.Decode.Values
import Geocube.Proofs.Geo.CrsName
import Geocube.Proofs.Catalog.SafeUpdate

/-!
The dataset section of a metadata type, written out and read back.

`DatasetSection.toDocument` writes a section as a definition would: each place
as its one path, or as a list of paths when it has another number of them;
empty places left out, except the id and the creation time; search fields
under their keys, each without its name and with its empty places, absent
description, coordinates and system left out. Reading that document gives the
section back, with the search fields' names blank, to be restored from their
keys as `MetadataType.ofDoc` does (`DatasetSection.decoder_toDocument`).

It needs three things of the section. Its search fields are in increasing key
order, as a mapping holds them; a metadata type read from a normal document
has them so (`DatasetSection.decoder_onNormal`). Each system is one that is read
back from its name, which every system read from a name is
(`Crs.parse_name_of_parse`). And no place is one empty path: that place is
written as an empty list, which reads as no path at all
(`Offsets.decoder_toDocument_lone_empty`). A definition may give such a place,
as a list holding one empty list; its section then does not read back
(`lone_empty_label_lost`), and for every other definition it does
(`MetadataType.dataset_reads_back`).
-/

namespace Geocube

/-! ## Written entries -/

namespace Document

/-- The entry of a key, written only when the key has a value. -/
def entry (k : String) (v : Option Document) : List (String × Document) := v.toList.map (k, ·)

@[simp] theorem lookup_reverse_entry (k k' : String) (v : Option Document) :
    (entry k' v).reverse.lookup k = if k = k' then v else none := by
  cases v with
  | none => simp [entry]
  | some d =>
    by_cases h : k = k'
    · subst h
      simp [entry]
    · simp [entry, List.lookup_cons, beq_false_of_ne h, h]

theorem ite_eq_entry (c : Bool) (k : String) (d : Document) :
    (if c = true then [] else [(k, d)]) = entry k (if c = true then none else some d) := by
  cases c <;> rfl

end Document

namespace Decode.Fields.ReadsAs

variable {α : Type} {es : List (String × Document)}

/-- A field reads, from a mapping with each key once, what is written under its
name: the default when nothing is, the decoded value otherwise. -/
theorem written (hnd : (Document.keys es).Nodup) {name : String} {aliases : List String}
    (hal : ∀ n ∈ aliases, es.lookup n = none) {dec : Decoder α} {dflt a : α}
    (w : Option Document) (hw : es.lookup name = w)
    (hread : (w = none ∧ a = dflt) ∨ ∃ v, w = some v ∧ dec v = .ok a) :
    ReadsAs es a (field name aliases (.defaulted dflt) dec) := by
  have hhits : (hits (name :: aliases) es).map (·.2) = (es.lookup name).toList :=
    hits_eq_lookup hnd hal
  rw [hw] at hhits
  rcases hread with ⟨rfl, rfl⟩ | ⟨v, rfl, hv⟩
  · exact field_none hhits
  · exact field_one hhits hv

/-- A field with a default and no alias reads what is written under its name. -/
theorem dflt_written (hnd : (Document.keys es).Nodup) {name : String} {dec : Decoder α}
    {dflt a : α} (w : Option Document) (hw : es.lookup name = w)
    (hread : (w = none ∧ a = dflt) ∨ ∃ v, w = some v ∧ dec v = .ok a) :
    ReadsAs es a (Fields.dflt name dflt dec) :=
  written hnd (fun _ h => absurd h List.not_mem_nil) w hw hread

/-- A required field reads the value written under its name. -/
theorem required (hnd : (Document.keys es).Nodup) {name : String} {dec : Decoder α} {a : α}
    {v : Document} (hw : es.lookup name = some v) (hv : dec v = .ok a) :
    ReadsAs es a (field name [] .required dec) := by
  have hhits : (hits [name] es).map (·.2) = (es.lookup name).toList :=
    hits_eq_lookup hnd fun _ h => absurd h List.not_mem_nil
  rw [hw] at hhits
  exact field_one hhits hv

end Decode.Fields.ReadsAs

/-! ## Places -/

namespace Offsets

/-- What a definition writes for a place: nothing when it has no path. -/
def written (o : Offsets) : Option Document := if o.isEmpty then none else some o.toDocument

theorem listOf_text_strs (p : List String) :
    Decode.listOf Decode.text (Document.strs p) = .ok p := by
  induction p with
  | nil => rfl
  | cons k p ih =>
    simp only [Document.strs, Decode.listOf] at ih ⊢
    simp [List.mapM_cons, Decode.text, ih]

theorem listOf_listOf_text_strs (ps : List (List String)) :
    Decode.listOf (Decode.listOf Decode.text) (.arr (ps.map Document.strs)) = .ok ps := by
  simp only [Decode.listOf]
  induction ps with
  | nil => rfl
  | cons p ps ih => simp [List.mapM_cons, listOf_text_strs, ih]

/-- A place other than one empty path reads back from what it writes. -/
theorem decoder_toDocument {o : Offsets} (h : o.paths ≠ [[]]) : decoder o.toDocument = .ok o := by
  obtain ⟨ps⟩ := o
  rcases ps with _ | ⟨p, _ | ⟨p', ps⟩⟩
  · rfl
  · -- one path is written as its keys, which the first alternative reads
    have hp : p ≠ [] := fun hp => h (hp ▸ rfl)
    simp [decoder, toDocument, Decode.untagged, listOf_text_strs, hp, Except.map, Except.toOption]
  · -- several paths: a path is no key, so only the second alternative fits
    have hfirst : Decode.listOf Decode.text (.arr ((p :: p' :: ps).map Document.strs)) =
        .error (.invalidType .seq "a string") := by
      simp [Decode.listOf, List.mapM_cons, Document.strs, Decode.text, Decode.mismatch,
        Decode.unexpected]
    simp only [decoder, toDocument, Decode.untagged, List.findSome?_cons, hfirst,
      listOf_listOf_text_strs, Except.map, Except.toOption]

/-- One empty path is written as an empty list, which reads as no path. -/
theorem decoder_toDocument_lone_empty : decoder (toDocument ⟨[[]]⟩) = .ok empty := rfl

/-- What a place writes reads back: nothing stands for the empty place. -/
theorem reads_written {o : Offsets} (h : o.paths ≠ [[]]) :
    (o.written = none ∧ o = .empty) ∨ ∃ v, o.written = some v ∧ decoder v = .ok o := by
  obtain ⟨ps⟩ := o
  cases ps with
  | nil => exact .inl ⟨rfl, rfl⟩
  | cons p ps => exact .inr ⟨_, rfl, decoder_toDocument h⟩

/-- A place with a default is read from what is written under its key. -/
theorem reads_place {es : List (String × Document)} (hnd : (Document.keys es).Nodup) {k : String}
    {o : Offsets} (hw : es.lookup k = o.written) (h : o.paths ≠ [[]]) :
    Decode.Fields.ReadsAs es o (Decode.Fields.dflt k empty decoder) :=
  .dflt_written hnd _ hw (reads_written h)

end Offsets

/-! ## Search fields -/

/-- A system read from a name is read back from its own name. -/
theorem crsDecoder_parse {d : Document} {c : Crs} (h : crsDecoder d = .ok c) :
    Crs.parse c.name = .ok c := by
  simp only [crsDecoder, Decode.Decoder.andThen, Except.bind_eq_ok] at h
  obtain ⟨s, -, hs⟩ := h
  -- the name read is parsed, and a parse error is no system
  split at hs
  · next c' hp =>
    cases hs
    split at hp
    · next c₂ hparse =>
      cases hp
      exact Crs.parse_name_of_parse hparse
    · cases hp
  · cases hs

/-- A system read back from its own name is read by the decoder of systems. -/
theorem crsDecoder_name {c : Crs} (h : Crs.parse c.name = .ok c) : crsDecoder (.str c.name) = .ok c := by
  simp [crsDecoder, Decode.Decoder.andThen, Decode.text, h]

theorem FieldType.decoder_name (t : FieldType) : FieldType.decoder (.str t.name) = .ok t := by
  cases t <;> rfl

namespace SearchField

/-- What a field writes for its coordinates: nothing when it has none. -/
def coordinatesWritten (f : SearchField) : Option Document :=
  if f.coordinates.isEmpty then none
  else some (.arr (f.coordinates.map fun (x, y) => .arr [Document.strs x, Document.strs y]))

theorem toDocument_eq (f : SearchField) : f.toDocument = .ofPairs
    (Document.entry "description" (f.description.map .str) ++
      Document.entry "type" (some (.str f.fieldType.name)) ++
      Document.entry "offset" f.offset.written ++ Document.entry "min_offset" f.minOffset.written ++
      Document.entry "max_offset" f.maxOffset.written ++
      Document.entry "coordinates" f.coordinatesWritten ++
      Document.entry "crs" (f.crs.map fun c => .str c.name)) := by
  unfold toDocument
  simp only [Document.ite_eq_entry]
  cases f.description <;> cases f.crs <;> rfl

theorem listOf_coordinates (cs : List (List String × List String)) :
    Decode.listOf (Decode.pairOf (Decode.listOf Decode.text) (Decode.listOf Decode.text))
      (.arr (cs.map fun (x, y) => .arr [Document.strs x, Document.strs y])) = .ok cs := by
  simp only [Decode.listOf]
  induction cs with
  | nil => rfl
  | cons c cs ih =>
    obtain ⟨x, y⟩ := c
    simp [List.mapM_cons, Decode.pairOf, Offsets.listOf_text_strs, ih]

/-- A search field reads back from what it writes, without its name, when its
system is read back from its name and none of its places is one empty path. -/
theorem decoder_toDocument (f : SearchField) (hcrs : ∀ c, f.crs = some c → Crs.parse c.name = .ok c)
    (hplaces : ∀ o ∈ [f.offset, f.minOffset, f.maxOffset], o.paths ≠ [[]]) :
    decoder f.toDocument = .ok { f with name := "" } := by
  rw [toDocument_eq, Document.ofPairs, decoder]
  refine Decode.Fields.ReadsAs.record ?_ _
  have hnd := Document.nodup_sortFields
  -- each field finds what is written under its name, or nothing
  refine .seq (.seq (.seq (.seq (.seq (.seq (.map _ ?_) ?_) ?_) ?_) ?_) ?_) ?_
  · refine .dflt_written (hnd _) (f.description.map .str) (by simp [List.lookup_append]) ?_
    cases f.description <;> simp [Decode.optional, Decode.text]
  · exact .dflt_written (hnd _) (some (.str f.fieldType.name)) (by simp [List.lookup_append])
      (.inr ⟨_, rfl, FieldType.decoder_name f.fieldType⟩)
  · -- nothing is written under the alias
    exact .written (hnd _) (by simp [List.lookup_append]) f.offset.written
      (by simp [List.lookup_append]) (Offsets.reads_written (hplaces _ (by simp)))
  · exact Offsets.reads_place (hnd _) (by simp [List.lookup_append]) (hplaces _ (by simp))
  · exact Offsets.reads_place (hnd _) (by simp [List.lookup_append]) (hplaces _ (by simp))
  · refine .dflt_written (hnd _) f.coordinatesWritten (by simp [List.lookup_append]) ?_
    unfold coordinatesWritten
    cases f.coordinates with
    | nil => exact .inl ⟨rfl, rfl⟩
    | cons c cs => exact .inr ⟨_, rfl, listOf_coordinates _⟩
  · refine .dflt_written (hnd _) (f.crs.map fun c => .str c.name) (by simp [List.lookup_append]) ?_
    cases h : f.crs with
    | none => exact .inl ⟨rfl, rfl⟩
    | some c => exact .inr ⟨_, rfl, by simp [Decode.optional, crsDecoder_name (hcrs c h)]⟩

/-- Every field read has a system that is read back from its name. -/
theorem decoder_onNormal :
    Decode.OnNormal (fun f : SearchField => ∀ c, f.crs = some c → Crs.parse c.name = .ok c)
      decoder := by
  refine .record (.seq (.seq (.seq (.seq (.seq (.seq (.map (.any _ _ _ _) ?_) (.any _ _ _ _))
    (.any _ _ _ _)) (.any _ _ _ _)) (.any _ _ _ _)) (.any _ _ _ _))
    (.field (Q := fun o => ∀ c, o = some c → Crs.parse c.name = .ok c) (.of_forall ?_) ?_)) _
  · intro _ _ _ _ _ _ _ _ _ _ _ _ o ho
    exact ho
  · -- a system is read from a name, or there is none
    intro d o ho c hc
    subst hc
    by_cases hnull : d = .null
    · subst hnull
      cases ho
    · rw [Decode.optional_of_ne_null hnull, Except.map_ok_iff] at ho
      obtain ⟨c', hc', hcc⟩ := ho
      cases hcc
      exact crsDecoder_parse hc'
  · rintro v (h | h) <;> cases h
    exact fun _ h => nomatch h

end SearchField

/-! ## Dataset sections -/

namespace DatasetSection

/-- Every place a section names: its own, and the three of each search field. -/
def places (s : DatasetSection) : List Offsets :=
  [s.id, s.creationDt, s.label, s.sources, s.format, s.crs, s.grids, s.geometry, s.gridSpatial,
    s.measurements] ++ s.searchFields.flatMap fun e => [e.2.offset, e.2.minOffset, e.2.maxOffset]

theorem toDocument_eq (s : DatasetSection) : s.toDocument = .ofPairs
    (Document.entry "id" (some s.id.toDocument) ++
      Document.entry "creation_dt" (some s.creationDt.toDocument) ++
      Document.entry "label" s.label.written ++ Document.entry "sources" s.sources.written ++
      Document.entry "format" s.format.written ++ Document.entry "crs" s.crs.written ++
      Document.entry "grids" s.grids.written ++ Document.entry "geometry" s.geometry.written ++
      Document.entry "grid_spatial" s.gridSpatial.written ++
      Document.entry "measurements" s.measurements.written ++
      Document.entry "search_fields"
        (some (.ofPairs (s.searchFields.map fun e => (e.1, e.2.toDocument))))) := by
  unfold toDocument
  simp only [Document.ite_eq_entry]
  rfl

/-- Search fields in increasing key order are written under their keys and read
back, each without its name. -/
theorem mapOf_searchFields {fs : List (String × SearchField)}
    (hsorted : (fs.map (·.1)).Pairwise (· < ·))
    (hcrs : ∀ e ∈ fs, ∀ c, e.2.crs = some c → Crs.parse c.name = .ok c)
    (hplaces : ∀ e ∈ fs, ∀ o ∈ [e.2.offset, e.2.minOffset, e.2.maxOffset], o.paths ≠ [[]]) :
    Decode.mapOf SearchField.decoder (.ofPairs (fs.map fun e => (e.1, e.2.toDocument))) =
      .ok (fs.map fun e => (e.1, { e.2 with name := "" })) := by
  have hkeys : (Document.keys (fs.map fun e => (e.1, e.2.toDocument))).Pairwise (· < ·) := by
    simpa [Document.keys, Function.comp_def] using hsorted
  rw [Document.ofPairs, Document.sortFields_of_sorted hkeys]
  simp only [Decode.mapOf]
  clear hsorted hkeys
  induction fs with
  | nil => rfl
  | cons e fs ih =>
    have he := SearchField.decoder_toDocument e.2 (hcrs e List.mem_cons_self)
      (hplaces e List.mem_cons_self)
    have hrest := ih (fun e' h => hcrs e' (.tail _ h)) (fun e' h => hplaces e' (.tail _ h))
    rw [List.map_cons, List.mapM_cons, hrest]
    simp [he]

/-- A section reads back from what it writes, with its search fields' names
blank, when its search fields are in increasing key order, each system is read
back from its name and no place is one empty path. -/
theorem decoder_toDocument (s : DatasetSection)
    (hsorted : (s.searchFields.map (·.1)).Pairwise (· < ·))
    (hcrs : ∀ e ∈ s.searchFields, ∀ c, e.2.crs = some c → Crs.parse c.name = .ok c)
    (hplaces : ∀ o ∈ s.places, o.paths ≠ [[]]) :
    decoder s.toDocument =
      .ok { s with searchFields := s.searchFields.map fun e => (e.1, { e.2 with name := "" }) } := by
  rw [toDocument_eq, Document.ofPairs, decoder]
  refine Decode.Fields.ReadsAs.record ?_ _
  have hnd := Document.nodup_sortFields
  have hplace : ∀ o ∈ [s.id, s.creationDt, s.label, s.sources, s.format, s.crs, s.grids,
      s.geometry, s.gridSpatial, s.measurements], o.paths ≠ [[]] :=
    fun o ho => hplaces o (List.mem_append_left _ ho)
  refine .seq (.seq (.seq (.seq (.seq (.seq (.seq (.seq (.seq (.seq (.map _ ?_) ?_) ?_) ?_) ?_) ?_)
    ?_) ?_) ?_) ?_) ?_
  · exact .required (hnd _) (by simp [List.lookup_append])
      (Offsets.decoder_toDocument (hplace _ (by simp)))
  · exact .required (hnd _) (by simp [List.lookup_append])
      (Offsets.decoder_toDocument (hplace _ (by simp)))
  -- the eight places that are written only when they have a path
  iterate 8
    exact Offsets.reads_place (hnd _) (by simp [List.lookup_append]) (hplace _ (by simp))
  -- the search fields, written in key order
  refine .dflt_written (hnd _) (some (.ofPairs (s.searchFields.map fun e => (e.1, e.2.toDocument))))
    (by simp [List.lookup_append]) (.inr ⟨_, rfl, ?_⟩)
  refine mapOf_searchFields hsorted hcrs fun e he o ho => hplaces o (List.mem_append_right _ ?_)
  exact List.mem_flatMap.2 ⟨e, he, ho⟩

/-- A section read from a normal document has its search fields in increasing
key order, each with a system read back from its name. -/
theorem decoder_onNormal :
    Decode.OnNormal (fun s : DatasetSection => (s.searchFields.map (·.1)).Pairwise (· < ·) ∧
      ∀ e ∈ s.searchFields, ∀ c, e.2.crs = some c → Crs.parse c.name = .ok c) decoder := by
  refine .record (.seq (.seq (.seq (.seq (.seq (.seq (.seq (.seq (.seq (.seq
    (.map (.any _ _ _ _) ?_) (.any _ _ _ _)) (.any _ _ _ _)) (.any _ _ _ _)) (.any _ _ _ _))
    (.any _ _ _ _)) (.any _ _ _ _)) (.any _ _ _ _)) (.any _ _ _ _)) (.any _ _ _ _))
    (.field (.mapOf SearchField.decoder_onNormal) ?_)) _
  · intro _ _ _ _ _ _ _ _ _ _ _ _ _ _ _ _ _ _ _ _ l hl
    exact hl
  · rintro v (h | h) <;> cases h
    exact ⟨.nil, fun _ h => absurd h List.not_mem_nil⟩

end DatasetSection

/-! ## Metadata types -/

namespace MetadataType

theorem definitionDecoder_onNormal :
    Decode.OnNormal (fun d : Definition => (d.dataset.searchFields.map (·.1)).Pairwise (· < ·) ∧
      ∀ e ∈ d.dataset.searchFields, ∀ c, e.2.crs = some c → Crs.parse c.name = .ok c)
      definitionDecoder := by
  refine .record (.seq (.seq (.map (.any _ _ _ _) ?_) (.any _ _ _ _))
    (.field DatasetSection.decoder_onNormal ?_)) _
  · intro _ _ _ _ s hs
    exact hs
  · rintro v (h | h) <;> cases h

/-- The dataset section of a metadata type read from a normal definition reads
back from what it writes, the search fields' names restored from their keys,
unless one of its places is one empty path. -/
theorem dataset_reads_back {doc : Document} {mt : MetadataType} (hdoc : doc.isNormal = true)
    (h : ofDoc doc = .ok mt) (hplaces : ∀ o ∈ mt.dataset.places, o.paths ≠ [[]]) :
    ∃ s, DatasetSection.decoder mt.dataset.toDocument = .ok s ∧ s.named = mt.dataset := by
  obtain ⟨d, hd, rfl⟩ := ofDoc_ok h
  obtain ⟨hsorted, hcrs⟩ := definitionDecoder_onNormal hdoc hd
  refine ⟨_, DatasetSection.decoder_toDocument _ ?_ ?_ hplaces, ?_⟩
  · simpa [DatasetSection.named, Function.comp_def] using hsorted
  · -- naming a field keeps its system
    simp only [DatasetSection.named, List.mem_map]
    rintro _ ⟨e, he, rfl⟩ c hc
    exact hcrs e he c hc
  · simp [DatasetSection.named, Function.comp_def]

/-- A definition with a creation time at two alternative paths, a numeric field
placed under the alias `offsets` and typed by the alias `double`, and a spatial
field. -/
def sceneDefinition : Document :=
  .obj [("dataset", .obj [
      ("creation_dt", .arr [Document.strs ["properties", "created"], Document.strs ["created"]]),
      ("id", Document.strs ["id"]), ("label", Document.strs ["label"]),
      ("search_fields", .obj [
        ("cloud", .obj [("offsets", Document.strs ["properties", "cloud"]),
          ("type", .str "double")]),
        ("region", .obj [("coordinates", .arr [.arr [Document.strs ["x"], Document.strs ["y"]]]),
          ("type", .str "spatial")])])]),
    ("name", .str "scene")]

theorem scene_section_reads_back :
    sceneDefinition.isNormal = true ∧ ∃ mt, ofDoc sceneDefinition = .ok mt ∧
      (∀ o ∈ mt.dataset.places, o.paths ≠ [[]]) ∧
      ∃ s, DatasetSection.decoder mt.dataset.toDocument = .ok s ∧ s.named = mt.dataset := by
  have hn : sceneDefinition.isNormal = true := by decide
  obtain ⟨mt, hmt, hp⟩ : ∃ mt, ofDoc sceneDefinition = .ok mt ∧
      ∀ o ∈ mt.dataset.places, o.paths ≠ [[]] := ⟨_, rfl, by decide⟩
  exact ⟨hn, mt, hmt, hp, dataset_reads_back hn hmt hp⟩

/-- A definition whose label place is one empty path. -/
def loneEmptyLabel : Document :=
  .obj [("dataset", .obj [("creation_dt", Document.strs ["created"]),
      ("id", Document.strs ["id"]), ("label", .arr [.arr []])]),
    ("name", .str "mt")]

/-- Its section writes the label as an empty list, which reads back as no label. -/
theorem lone_empty_label_lost :
    loneEmptyLabel.isNormal = true ∧
      ∃ mt s, ofDoc loneEmptyLabel = .ok mt ∧ mt.dataset.label.paths = [[]] ∧
        DatasetSection.decoder mt.dataset.toDocument = .ok s ∧ s.label.paths = [] :=
  ⟨by decide, _, _, rfl, rfl, rfl, rfl⟩

end MetadataType

end Geocube
