import Geocube.Proofs.Document.Same
import Mathlib.Data.Prod.Lex

/-!
The order of doubles.

IEEE comparison of two doubles that are not NaN is the lexicographic order of a
key: the infinities at the ends, negative numbers by decreasing exponent and
mantissa, the two zeros as one value, and positive numbers by increasing
exponent and mantissa (`compare_eq_some_lt_iff`, `compare_eq_some_eq_iff_orderKey`).
So `<` on doubles is a strict order that NaN stays out of, and two doubles that
are not NaN, neither below the other, compare equal.
-/

namespace Geocube
namespace Binary64

open Float.Model

/-- The place of an unpacked double in the order of doubles. NaN is compared
with nothing; its key is never read. -/
def orderKey : UnpackedFloat → ℤ ×ₗ ℤ ×ₗ ℤ
  | .infinity .negative => toLex (-2, toLex (0, 0))
  | .finite .negative m e _ => toLex (-1, toLex (-e, -(m : ℤ)))
  | .zero _ => toLex (0, toLex (0, 0))
  | .notANumber => toLex (0, toLex (0, 0))
  | .finite .positive m e _ => toLex (1, toLex (e, (m : ℤ)))
  | .infinity .positive => toLex (2, toLex (0, 0))

theorem sign_compare_neg_pos : compare UnpackedFloat.Sign.negative .positive = .lt := rfl

theorem sign_compare_pos_neg : compare UnpackedFloat.Sign.positive .negative = .gt := rfl

section Unpacked

variable {a b : UnpackedFloat}

theorem compare_eq_some_lt_iff (ha : a.isNaN = false) (hb : b.isNaN = false) :
    a.compare b = some .lt ↔ orderKey a < orderKey b := by
  -- every pair of shapes and signs: the comparison is the key's, case by case
  rcases a with (s | _ | s | ⟨s, m, e, hm⟩) <;> rcases b with (t | _ | t | ⟨t, n, f, hn⟩) <;>
    (try cases s) <;> (try cases t) <;>
    simp_all [UnpackedFloat.compare, UnpackedFloat.isNaN, orderKey, Prod.Lex.toLex_lt_toLex,
      Ordering.then_eq_lt, Ordering.then_eq_gt, sign_compare_neg_pos, sign_compare_pos_neg,
      sign_compare_self, Ordering.swap_eq_lt, Int.compare_eq_lt, Nat.compare_eq_lt,
      Int.compare_eq_gt, Nat.compare_eq_gt]

theorem compare_eq_some_eq_iff_orderKey (ha : a.isNaN = false) (hb : b.isNaN = false) :
    a.compare b = some .eq ↔ orderKey a = orderKey b := by
  rcases a with (s | _ | s | ⟨s, m, e, hm⟩) <;> rcases b with (t | _ | t | ⟨t, n, f, hn⟩) <;>
    (try cases s) <;> (try cases t) <;>
    simp_all [UnpackedFloat.compare, UnpackedFloat.isNaN, orderKey, Ordering.then_eq_eq,
      sign_compare_neg_pos, sign_compare_pos_neg, sign_compare_self, Ordering.swap_eq_eq]

theorem compare_nan_left : UnpackedFloat.notANumber.compare b = none := by
  cases b <;> rfl

theorem compare_nan_right : a.compare .notANumber = none := by
  cases a <;> rfl

end Unpacked

section Doubles

variable {a b c : Float}

theorem lt_iff_compare : a < b ↔ a.toModel.unpack.compare b.toModel.unpack = some .lt := by
  simp only [LT.lt, Float.lt, Float.Model.lt, UnpackedFloat.lt, decide_eq_true_eq, beq_iff_eq]

theorem beq_iff_compare : (a == b) = true ↔ a.toModel.unpack.compare b.toModel.unpack = some .eq := by
  show (a.toModel.unpack.compare b.toModel.unpack == some .eq) = true ↔ _
  rw [beq_iff_eq]

theorem isNaN_eq (a : Float) : a.isNaN = a.toModel.unpack.isNaN := rfl

theorem not_isNaN_of_lt (h : a < b) : a.isNaN = false ∧ b.isNaN = false := by
  rw [lt_iff_compare] at h
  rw [isNaN_eq, isNaN_eq]
  constructor
  · cases ha : a.toModel.unpack <;> simp_all [UnpackedFloat.isNaN, compare_nan_left]
  · cases hb : b.toModel.unpack <;> simp_all [UnpackedFloat.isNaN, compare_nan_right]

theorem lt_iff_orderKey (ha : a.isNaN = false) (hb : b.isNaN = false) :
    a < b ↔ orderKey a.toModel.unpack < orderKey b.toModel.unpack := by
  rw [lt_iff_compare, compare_eq_some_lt_iff ha hb]

theorem beq_iff_orderKey (ha : a.isNaN = false) (hb : b.isNaN = false) :
    (a == b) = true ↔ orderKey a.toModel.unpack = orderKey b.toModel.unpack := by
  rw [beq_iff_compare, compare_eq_some_eq_iff_orderKey ha hb]

theorem not_lt_self (a : Float) : ¬ a < a := by
  intro h
  have ha := (not_isNaN_of_lt h).1
  exact (lt_irrefl _) ((lt_iff_orderKey ha ha).1 h)

theorem lt_of_lt_of_lt (hab : a < b) (hbc : b < c) : a < c := by
  obtain ⟨ha, hb⟩ := not_isNaN_of_lt hab
  have hc := (not_isNaN_of_lt hbc).2
  rw [lt_iff_orderKey ha hb] at hab
  rw [lt_iff_orderKey hb hc] at hbc
  exact (lt_iff_orderKey ha hc).2 (hab.trans hbc)

theorem lt_asymm (h : a < b) : ¬ b < a :=
  fun h' => not_lt_self a (lt_of_lt_of_lt h h')

/-- A double that is not NaN lies above the lower or below the upper of two
doubles in order: `<` is a strict weak order away from NaN. -/
theorem lt_or_lt_of_lt (hb : b.isNaN = false) (h : a < c) : a < b ∨ b < c := by
  obtain ⟨ha, hc⟩ := not_isNaN_of_lt h
  rw [lt_iff_orderKey ha hc] at h
  rw [lt_iff_orderKey ha hb, lt_iff_orderKey hb hc]
  rcases lt_or_ge (orderKey a.toModel.unpack) (orderKey b.toModel.unpack) with hab | hba
  · exact .inl hab
  · exact .inr (lt_of_le_of_lt hba h)

theorem beq_self_of_not_isNaN (ha : a.isNaN = false) : (a == a) = true :=
  (beq_iff_orderKey ha ha).2 rfl

/-- Two doubles that are not NaN, neither below the other, compare equal. -/
theorem beq_of_not_lt_of_not_lt (ha : a.isNaN = false) (hb : b.isNaN = false) (hab : ¬ a < b)
    (hba : ¬ b < a) : (a == b) = true := by
  rw [lt_iff_orderKey ha hb] at hab
  rw [lt_iff_orderKey hb ha] at hba
  exact (beq_iff_orderKey ha hb).2 (le_antisymm (not_lt.1 hba) (not_lt.1 hab))

theorem le_iff_compare : a ≤ b ↔ (a.toModel.unpack.compare b.toModel.unpack).any (·.isLE) := by
  simp only [LE.le, Float.le, Float.Model.le, UnpackedFloat.le]
  exact decide_eq_true_iff

theorem le_of_lt (h : a < b) : a ≤ b := by
  rw [lt_iff_compare] at h
  rw [le_iff_compare, h]
  rfl

/-- Of two doubles that are not NaN, one is at most the other: the one the
other is not below. -/
theorem le_of_not_lt (ha : a.isNaN = false) (hb : b.isNaN = false) (h : ¬ b < a) : a ≤ b := by
  rw [lt_iff_orderKey hb ha, not_lt] at h
  rcases h.lt_or_eq with hlt | heq
  · exact le_of_lt ((lt_iff_orderKey ha hb).2 hlt)
  · rw [le_iff_compare, (compare_eq_some_eq_iff_orderKey ha hb).2 heq]
    rfl

theorem le_refl_of_not_isNaN (ha : a.isNaN = false) : a ≤ a :=
  le_of_not_lt ha ha (not_lt_self a)

/-- NaN is at most nothing, itself included. -/
theorem not_le_of_isNaN (ha : a.isNaN = true) : ¬ a ≤ b := by
  rw [le_iff_compare]
  rw [isNaN_eq] at ha
  cases hu : a.toModel.unpack <;> simp_all [UnpackedFloat.isNaN, compare_nan_left]

end Doubles

end Binary64
end Geocube
