import Geocube.Catalog.Product
import Geocube.Proofs.Decode.Congruence

/-
Definitions read from equal documents.

The definition of a metadata type holds only text: names, paths and the names
of types and systems. Equal definition documents therefore decode to equal
records. A product's bands also hold numbers (nodata values, scale factors,
the values of an extra dimension) and documents kept as they are (flag meanings,
spectral definitions). Those decode to values that agree: equal, except that
numbers compare as the data format compares them and kept documents are
`same`. `Measurement.Agree` and `ExtraDimension.Agree` state this field by
field. It is the equality the bands of a product are compared by, made reflexive
on NaN.
-/

namespace Geocube

open Decode Decode.Fields

/-! ## Metadata types -/

theorem Offsets.decoder_respects : Respects Offsets.decoder := by
  apply untagged_respects
  intro dec hdec
  simp only [List.mem_cons, List.not_mem_nil, or_false] at hdec
  rcases hdec with rfl | rfl
  · exact (listOf_respects text_respects).map _
  · exact (listOf_respects (listOf_respects text_respects)).map _

theorem crsDecoder_preserves : Preserves Same Eq crsDecoder :=
  andThen_preserves text_respects.preserves _

theorem SearchField.decoder_preserves : Preserves Same Eq SearchField.decoder := by
  have hcoords := listOf_preserves_eq (pairOf_preserves_eq (listOf_respects text_respects).preserves
    (listOf_respects text_respects).preserves)
  apply record_preserves
  refine .seq ?_ (.dflt (optional_preserves_eq crsDecoder_preserves) rfl)
  refine .seq ?_ (.dflt hcoords rfl)
  refine .seq ?_ (.dflt Offsets.decoder_respects.preserves rfl)
  refine .seq ?_ (.dflt Offsets.decoder_respects.preserves rfl)
  refine .seq ?_ (.field Offsets.decoder_respects.preserves fun _ _ => rfl)
  refine .seq ?_ (.dflt (unitVariant_respects _ _).preserves rfl)
  refine .map (.dflt (optional_preserves_eq text_respects.preserves) rfl) ?_
  intros
  subst_vars
  rfl

theorem DatasetSection.decoder_preserves : Preserves Same Eq DatasetSection.decoder := by
  have hplace := Offsets.decoder_respects.preserves
  have hfields := mapOf_preserves_eq SearchField.decoder_preserves
  apply record_preserves
  refine .seq ?_ (.dflt hfields rfl)
  refine .seq ?_ (.dflt hplace rfl)
  refine .seq ?_ (.dflt hplace rfl)
  refine .seq ?_ (.dflt hplace rfl)
  refine .seq ?_ (.dflt hplace rfl)
  refine .seq ?_ (.dflt hplace rfl)
  refine .seq ?_ (.dflt hplace rfl)
  refine .seq ?_ (.dflt hplace rfl)
  refine .seq ?_ (.dflt hplace rfl)
  refine .seq ?_ (.req hplace)
  refine .map (.req hplace) ?_
  intros
  subst_vars
  rfl

theorem MetadataType.definitionDecoder_preserves :
    Preserves Same Eq MetadataType.definitionDecoder := by
  apply record_preserves
  refine .seq ?_ (.req DatasetSection.decoder_preserves)
  refine .seq ?_ (.dflt (optional_preserves_eq text_respects.preserves) rfl)
  refine .map (.req text_respects.preserves) ?_
  intros
  subst_vars
  rfl

/-! ## Bands -/

/-- Two flag definitions that agree: the same bits and description, and
meanings that are `same`. -/
structure FlagDefinition.Agree (f f' : FlagDefinition) : Prop where
  bits : f.bits.positions = f'.bits.positions
  values : List.Forall₂ (fun p q => p.1 = q.1 ∧ Same p.2 q.2) f.values f'.values
  description : f.description = f'.description

/-- Two bands that agree: the same names, type, units and extra dimension,
numbers that agree as numbers, and kept documents that are `same`. -/
structure Measurement.Agree (m m' : Measurement) : Prop where
  name : m.name = m'.name
  dtype : m.dtype = m'.dtype
  nodata : Option.Rel Binary64.Agree m.nodata m'.nodata
  units : m.units = m'.units
  aliases : m.aliases = m'.aliases
  scaleFactor : Option.Rel Binary64.Agree m.scaleFactor m'.scaleFactor
  addOffset : Option.Rel Binary64.Agree m.addOffset m'.addOffset
  flagsDefinition : Option.Rel (List.Forall₂ fun p q => p.1 = q.1 ∧ FlagDefinition.Agree p.2 q.2)
    m.flagsDefinition m'.flagsDefinition
  spectralDefinition : Option.Rel Same m.spectralDefinition m'.spectralDefinition
  extraDim : m.extraDim = m'.extraDim

/-- Two extra dimensions that agree: the same name and type, and values that
agree as numbers. -/
structure ExtraDimension.Agree (e e' : ExtraDimension) : Prop where
  name : e.name = e'.name
  values : List.Forall₂ Binary64.Agree e.values e'.values
  dtype : e.dtype = e'.dtype

theorem Bits.decoder_respects : Respects Bits.decoder := by
  apply untagged_respects
  intro dec hdec
  simp only [List.mem_cons, List.not_mem_nil, or_false] at hdec
  rcases hdec with rfl | rfl
  · exact (unsigned_respects _ _).map _
  · exact (listOf_respects (unsigned_respects _ _)).map _

theorem FlagDefinition.decoder_preserves : Preserves Same FlagDefinition.Agree FlagDefinition.decoder := by
  apply record_preserves
  refine .seq ?_ (.dflt (optional_preserves_eq text_respects.preserves) rfl)
  refine .seq ?_ (.req (mapOf_preserves any_preserves))
  refine .map (.req Bits.decoder_respects.preserves) ?_
  rintro b _ rfl v v' hv d _ rfl
  exact ⟨rfl, hv, rfl⟩

theorem Measurement.nodataDecoder_preserves :
    Preserves Same (Option.Rel Binary64.Agree) Measurement.nodataDecoder := by
  intro x y a b hxy ha hb
  cases x with
  | null =>
    rw [Document.same_null_left hxy] at hb
    cases ha
    cases hb
    exact .none
  | str s =>
    rw [Document.same_str_left hxy] at hb
    rw [ha] at hb
    cases hb
    cases a <;> simp [Binary64.Agree.refl]
  | int i =>
    rw [Document.same_int_left hxy] at hb
    rw [ha] at hb
    cases hb
    cases a <;> simp [Binary64.Agree.refl]
  | float u =>
    obtain ⟨w, rfl, huw⟩ := Document.same_float_left hxy
    -- a number is read as itself
    have hread : ∀ v, Measurement.nodataDecoder (.float v) = .ok (some v) := fun _ => rfl
    rw [hread] at ha hb
    cases ha
    cases hb
    exact .some (.inr huw)
  | _ => cases ha

theorem Measurement.decoder_preserves : Preserves Same Measurement.Agree Measurement.decoder := by
  have hdouble := optional_preserves double_preserves
  apply record_preserves
  refine .seq ?_ (.dflt (optional_preserves_eq text_respects.preserves) rfl)
  refine .seq ?_ (.dflt (optional_preserves any_preserves) .none)
  refine .seq ?_ (.dflt (optional_preserves (mapOf_preserves FlagDefinition.decoder_preserves)) .none)
  refine .seq ?_ (.dflt hdouble .none)
  refine .seq ?_ (.dflt hdouble .none)
  refine .seq ?_ (.dflt (listOf_preserves_eq text_respects.preserves) rfl)
  refine .seq ?_ (.dflt text_respects.preserves rfl)
  refine .seq ?_ (.dflt nodataDecoder_preserves .none)
  refine .seq ?_ (.req (unitVariant_respects _ _).preserves)
  refine .map (.req text_respects.preserves) ?_
  rintro n _ rfl t _ rfl nd nd' hnd u _ rfl al _ rfl sf sf' hsf ao ao' hao fl fl' hfl sp sp' hsp
    ed _ rfl
  exact ⟨rfl, rfl, hnd, rfl, rfl, hsf, hao, hfl, hsp, rfl⟩

theorem ExtraDimension.decoder_preserves :
    Preserves Same ExtraDimension.Agree ExtraDimension.decoder := by
  apply record_preserves
  refine .seq ?_ (.req (unitVariant_respects _ _).preserves)
  refine .seq ?_ (.req (listOf_preserves double_preserves))
  refine .map (.req text_respects.preserves) ?_
  rintro n _ rfl vs vs' hvs t _ rfl
  exact ⟨rfl, hvs, rfl⟩

/-- Bands that agree answer to the same names. -/
theorem Measurement.Agree.answersTo_eq {m m' : Measurement} (h : m.Agree m') (n : String) :
    m'.answersTo n = m.answersTo n := by
  simp only [Measurement.answersTo, h.name, h.aliases]

/-- Lists of agreeing bands find agreeing bands by any name. -/
theorem Measurement.find?_agree {ms ms' : List Measurement} (h : List.Forall₂ Measurement.Agree ms ms')
    (n : String) : Option.Rel Measurement.Agree (ms.find? (·.answersTo n)) (ms'.find? (·.answersTo n)) := by
  induction h with
  | nil => exact .none
  | cons hm _ ih =>
    rw [List.find?_cons, List.find?_cons, hm.answersTo_eq]
    split
    · exact .some hm
    · exact ih

end Geocube
