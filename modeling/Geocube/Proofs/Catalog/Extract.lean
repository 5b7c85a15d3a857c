import Geocube.Catalog.MetadataType
import Geocube.Proofs.Binary64.Order
import Geocube.Proofs.Time.Order

/-!
# Values read for search fields

`SearchField.extract` reads a field's value from a document through its places:
the first path that leads to a value that converts gives it, and a range reads
its low and high ends through their own places, independently. The value read
is always of the field's type (`SearchField.extract_fieldType`).

A range is put in order: a time range by `TimeRange.new`, a number range by
`fmin` and `fmax`. These ignore one NaN end, so a number range read from one
NaN end collapses onto the other end; but two NaN ends give the range
`[NaN, NaN]`, whose ends are not in order (`SearchField.nan_range_unordered`).
So a number range is in order unless both its ends are NaN
(`SearchField.extract_endsOrdered`).
-/

namespace Geocube

namespace Offsets

/-- `x` is what the first of the paths that leads to a value `convert` accepts
gives: the paths before it lead to no value, or to one that does not convert. -/
def FirstReads {α : Type} (o : Offsets) (doc : Document) (convert : Document → Option α)
    (x : α) : Prop :=
  ∃ pre p post, o.paths = pre ++ p :: post ∧ (doc.find? ⟨p⟩).bind convert = some x ∧
    ∀ q ∈ pre, (doc.find? ⟨q⟩).bind convert = none

theorem first_eq_some_iff {α : Type} {o : Offsets} {doc : Document} {convert : Document → Option α}
    {x : α} : o.first doc convert = some x ↔ o.FirstReads doc convert x :=
  List.findSome?_eq_some_iff

/-- Reading two ends through their own places succeeds exactly when each
place gives its end. -/
theorem first_pair_eq_some {α β : Type} {o o' : Offsets} {doc : Document}
    {convert : Document → Option α} {mk : α → α → β} {y : β} :
    (do let lo ← o.first doc convert; let hi ← o'.first doc convert; pure (mk lo hi)) = some y ↔
      ∃ lo hi, o.FirstReads doc convert lo ∧ o'.FirstReads doc convert hi ∧ y = mk lo hi := by
  simp only [Option.bind_eq_bind, Option.bind_eq_some_iff, Option.pure_def, Option.some.injEq,
    first_eq_some_iff]
  constructor
  · rintro ⟨lo, hlo, hi, hhi, rfl⟩
    exact ⟨lo, hi, hlo, hhi, rfl⟩
  · rintro ⟨lo, hi, hlo, hhi, rfl⟩
    exact ⟨lo, hlo, hi, hhi, rfl⟩

end Offsets

/-- The ends of a range value in order: a time range always, a number range
unless both ends are NaN. Other values have no ends. -/
def FieldValue.EndsOrdered : FieldValue → Prop
  | .numberRange lo hi => lo ≤ hi ∨ (lo.isNaN = true ∧ hi.isNaN = true)
  | .timeRange r => r.start ≤ r.stop
  | _ => True

theorem TimeRange.new_ordered (a b : Instant) : (TimeRange.new a b).start ≤ (TimeRange.new a b).stop := by
  unfold TimeRange.new
  split
  · assumption
  · exact Instant.le_of_not_le ‹_›

/-- `fmin` never exceeds `fmax`, unless both are NaN. -/
theorem fmin_le_fmax (a b : Float) :
    fmin a b ≤ fmax a b ∨ ((fmin a b).isNaN = true ∧ (fmax a b).isNaN = true) := by
  unfold fmin fmax
  cases ha : a.isNaN <;> cases hb : b.isNaN
  · -- neither is NaN: the smaller and the larger
    simp only [Bool.false_eq_true, if_false, gt_iff_lt]
    by_cases hab : a < b
    · rw [if_pos hab, if_neg (Binary64.lt_asymm hab)]
      exact .inl (Binary64.le_of_lt hab)
    · rw [if_neg hab]
      by_cases hba : b < a
      · rw [if_pos hba]
        exact .inl (Binary64.le_of_lt hba)
      · rw [if_neg hba]
        exact .inl (Binary64.le_refl_of_not_isNaN hb)
  · -- a NaN operand is ignored: both are the other operand
    simp only [Bool.false_eq_true, if_false, if_true]
    exact .inl (Binary64.le_refl_of_not_isNaN ha)
  · simp only [if_true]
    exact .inl (Binary64.le_refl_of_not_isNaN hb)
  · simp only [if_true]
    exact .inr ⟨hb, hb⟩

namespace SearchField

variable {f : SearchField} {doc : Document} {v : FieldValue}

/-- A value read for a field is of the field's type. -/
theorem extract_fieldType (h : f.extract doc = some v) : v.fieldType = f.fieldType := by
  unfold extract at h
  split at h <;> rename_i hft <;> rw [hft] <;>
    simp only [Option.map_eq_some_iff, Option.bind_eq_bind, Option.bind_eq_some_iff,
      Option.pure_def, Option.some.injEq] at h
  -- each type builds its value with a constructor of its own
  case h_4 | h_5 =>
    obtain ⟨_, -, _, -, rfl⟩ := h
    rfl
  all_goals
    obtain ⟨_, -, rfl⟩ := h
    rfl

/-- A range value is in order, a number range unless both its ends are NaN. -/
theorem extract_endsOrdered (h : f.extract doc = some v) : v.EndsOrdered := by
  unfold extract at h
  split at h <;>
    simp only [Option.map_eq_some_iff, Option.bind_eq_bind, Option.bind_eq_some_iff,
      Option.pure_def, Option.some.injEq] at h
  case h_4 =>
    obtain ⟨lo, -, hi, -, rfl⟩ := h
    exact fmin_le_fmax lo hi
  case h_5 =>
    obtain ⟨lo, -, hi, -, rfl⟩ := h
    exact TimeRange.new_ordered lo hi
  all_goals
    obtain ⟨_, -, rfl⟩ := h
    trivial

/-- A number range reads each end from the first of its places that gives a
number, and puts the two in order. -/
theorem extract_numericRange (hft : f.fieldType = .numericRange) :
    f.extract doc = some v ↔ ∃ lo hi, f.minOffset.FirstReads doc asNumber lo ∧
      f.maxOffset.FirstReads doc asNumber hi ∧ v = .numberRange (fmin lo hi) (fmax lo hi) := by
  unfold extract
  rw [hft]
  exact Offsets.first_pair_eq_some

/-- A time range reads each end from the first of its places that gives an
instant, and puts the two in order. -/
theorem extract_datetimeRange (hft : f.fieldType = .datetimeRange) :
    f.extract doc = some v ↔ ∃ lo hi, f.minOffset.FirstReads doc asTime lo ∧
      f.maxOffset.FirstReads doc asTime hi ∧ v = .timeRange (TimeRange.new lo hi) := by
  unfold extract
  rw [hft]
  exact Offsets.first_pair_eq_some

/-- What is read for a field meets the field's declaration: a value of its
type, a range in order unless both its ends are NaN, and each end of a range
taken from the first of its own places that gives one, so that a range with
an end that no place gives is not read. -/
theorem extract_respects_field (f : SearchField) (doc : Document) :
    (∀ v, f.extract doc = some v → v.fieldType = f.fieldType ∧ v.EndsOrdered) ∧
    (f.fieldType = .numericRange → ∀ v, (f.extract doc = some v ↔
      ∃ lo hi, f.minOffset.FirstReads doc asNumber lo ∧ f.maxOffset.FirstReads doc asNumber hi ∧
        v = .numberRange (fmin lo hi) (fmax lo hi))) ∧
    (f.fieldType = .datetimeRange → ∀ v, (f.extract doc = some v ↔
      ∃ lo hi, f.minOffset.FirstReads doc asTime lo ∧ f.maxOffset.FirstReads doc asTime hi ∧
        v = .timeRange (TimeRange.new lo hi))) :=
  ⟨fun _ h => ⟨extract_fieldType h, extract_endsOrdered h⟩,
    fun hft _ => extract_numericRange hft, fun hft _ => extract_datetimeRange hft⟩

/-- A number range read from places `lo` and `hi`. -/
def rangeLoHi : SearchField where
  name := "r"
  description := none
  fieldType := .numericRange
  offset := Offsets.empty
  minOffset := ⟨[["lo"]]⟩
  maxOffset := ⟨[["hi"]]⟩
  coordinates := []
  crs := none

/-- A well-formed range field reads both ends of a document that gives NaN for
both as NaN, and NaN is not below itself. -/
theorem nan_range_unordered :
    rangeLoHi.validate = .ok () ∧
    rangeLoHi.extract (.obj [("lo", .str "NaN"), ("hi", .str "NaN")]) =
      some (.numberRange Binary64.nan Binary64.nan) ∧
    ¬ Binary64.nan ≤ Binary64.nan := by
  refine ⟨rfl, rfl, ?_⟩
  exact Binary64.not_le_of_isNaN rfl

end SearchField

end Geocube
