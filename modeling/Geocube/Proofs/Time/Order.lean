import Geocube.Time.Range

/-!
# The order of instants

An instant compares with another day first, then by the second of the day, then
by the nanoseconds past that second. Read through those three numbers the order
is the lexicographic one, so it is total and transitive; `le_iff` states it so,
and the rest follows by `omega`.

The range lemmas at the end are what the first phase of a search needs: a range
built from two ends in either order meets every span that the two ends meet.
-/

namespace Geocube
namespace Instant

theorem cmp_eq_gt_iff {a b : Instant} : cmp a b = .gt ↔ b.date.days < a.date.days ∨
    (a.date.days = b.date.days ∧ (b.secs < a.secs ∨ (a.secs = b.secs ∧ b.frac < a.frac))) := by
  unfold cmp
  rcases Int.lt_trichotomy a.date.days b.date.days with h | h | h
  · rw [Int.compare_eq_lt.2 h]
    simp only [reduceCtorEq, false_iff]
    omega
  · rw [Int.compare_eq_eq.2 h]
    rcases Nat.lt_trichotomy a.secs b.secs with h' | h' | h'
    · rw [Nat.compare_eq_lt.2 h']
      simp only [reduceCtorEq, false_iff]
      omega
    · rw [Nat.compare_eq_eq.2 h', Nat.compare_eq_gt]
      omega
    · rw [Nat.compare_eq_gt.2 h']
      simp only [true_iff]
      omega
  · rw [Int.compare_eq_gt.2 h]
    simp only [true_iff]
    omega

/-- `≤` on instants is the lexicographic order of day, second and nanosecond. -/
theorem le_iff {a b : Instant} : a ≤ b ↔ a.date.days < b.date.days ∨
    (a.date.days = b.date.days ∧ (a.secs < b.secs ∨ (a.secs = b.secs ∧ a.frac ≤ b.frac))) := by
  show cmp a b ≠ .gt ↔ _
  rw [Ne, cmp_eq_gt_iff]
  omega

theorem le_refl (a : Instant) : a ≤ a := le_iff.2 (by omega)

theorem le_trans {a b c : Instant} (hab : a ≤ b) (hbc : b ≤ c) : a ≤ c := by
  rw [le_iff] at *
  omega

theorem le_total (a b : Instant) : a ≤ b ∨ b ≤ a := by
  rw [le_iff, le_iff]
  omega

theorem le_of_not_le {a b : Instant} (h : ¬ a ≤ b) : b ≤ a :=
  (le_total a b).resolve_left h

/-- Comparing the other way round swaps the answer. -/
theorem cmp_swap (a b : Instant) : cmp b a = (cmp a b).swap := by
  unfold cmp
  rw [← Int.compare_swap a.date.days, ← Nat.compare_swap a.secs, ← Nat.compare_swap a.frac]
  cases compare a.date.days b.date.days <;> cases compare a.secs b.secs <;> rfl

theorem lt_iff_not_le {a b : Instant} : a < b ↔ ¬ b ≤ a := by
  show cmp a b = .lt ↔ ¬ cmp b a ≠ .gt
  rw [cmp_swap a b]
  cases cmp a b <;> decide

theorem le_of_lt {a b : Instant} (h : a < b) : a ≤ b := by
  show cmp a b ≠ .gt
  rw [show cmp a b = .lt from h]
  decide

theorem lt_asymm {a b : Instant} (h : a < b) : ¬ b < a := by
  rw [lt_iff_not_le]
  exact fun hba => hba (le_of_lt h)

theorem lt_or_lt_of_lt {a b c : Instant} (h : a < c) : a < b ∨ b < c := by
  rw [lt_iff_not_le] at h ⊢
  rw [lt_iff_not_le]
  by_cases hba : b ≤ a
  · exact .inr fun hcb => h (le_trans hcb hba)
  · exact .inl hba

end Instant

namespace TimeRange

/-- The range of two ends, taken in either order, meets a span that starts no
later than the second end and stops no earlier than the first. When the ends come
reversed, such a span covers the whole gap between them. -/
theorem overlaps_new {r : TimeRange} {a b : Instant} (hstart : r.start ≤ b) (hstop : a ≤ r.stop) :
    (TimeRange.new a b).overlaps r = true := by
  unfold TimeRange.new
  split
  · simp only [overlaps, ge_iff_le, Bool.and_eq_true, decide_eq_true_eq]
    exact ⟨hstop, hstart⟩
  · rename_i hab
    have hba := Instant.le_of_not_le hab
    simp only [overlaps, ge_iff_le, Bool.and_eq_true, decide_eq_true_eq]
    exact ⟨Instant.le_trans hba hstop, Instant.le_trans hstart hba⟩

/-- The range of one instant meets a span that contains the instant. -/
theorem overlaps_instant {r : TimeRange} {t : Instant} (hstart : r.start ≤ t) (hstop : t ≤ r.stop) :
    (TimeRange.instant t).overlaps r = true := by
  simp only [instant, overlaps, Bool.and_eq_true]
  exact ⟨decide_eq_true hstop, decide_eq_true hstart⟩

end TimeRange
end Geocube
