import Geocube.Catalog.Measurement
import Geocube.Proofs.Binary64.Value
import Mathlib.Tactic.NormNum.Pow

/-!
# Coercing values into pixel types

An integer pixel type coerces a value by rounding it to a whole number and
clamping that between the type's least and greatest values, both taken as
doubles (`DType.coerce_of_intRange`); it holds a value exactly when the value is
a whole number of its range (`DType.canRepresent_iff_of_intRange`).

The least value of every integer type is a double exactly, and so is the
greatest below 64 bits. The greatest value of a 64-bit type is not: as a double
it is rounded up to the next power of two, `2^63` or `2^64`
(`DType.intRange_ends`). A coerced value is therefore always a whole number
between the least value and the greatest value as a double, and coercing again
keeps it; a value the type holds is kept as it is. But a value clamped at the
top of a 64-bit type is one above the type's greatest value, which the type
does not hold (`DType.coerce_lands_in_domain`, `DType.int64_saturation_unrepresentable`).
-/

namespace Geocube
open Binary64

namespace DType

variable {t : DType} {lo hi : Int} {v : Float}

theorem coerce_of_intRange (ht : t.intRange? = some (lo, hi)) (hv : v.isNaN = false) :
    t.coerce v = fclamp (roundHalfAway v) (ofInt lo) (ofInt hi) := by
  cases t <;> simp_all [intRange?, coerce, isFloat]

theorem canRepresent_iff_of_intRange (ht : t.intRange? = some (lo, hi)) (hv : v.isNaN = false) :
    t.canRepresent v = true ↔ ∃ n, IsWhole v n ∧ lo ≤ n ∧ n ≤ hi := by
  constructor
  · intro h
    have hint : isIntegral v = true := by
      cases t <;> simp_all [canRepresent, intRange?]
    obtain ⟨n, hw⟩ := isIntegral_iff.1 hint
    have htr := truncToInt?_of_isWhole hw
    refine ⟨n, hw, ?_⟩
    cases t <;> simp_all [canRepresent, intRange?]
  · rintro ⟨n, hw, hlo, hhi⟩
    have hint := isIntegral_iff.2 ⟨n, hw⟩
    have htr := truncToInt?_of_isWhole hw
    cases t <;> simp_all [canRepresent, intRange?]

/-- The ends of an integer type's range as doubles. The least end is a double
exactly; so is the greatest below 64 bits, while at 64 bits it rounds up to the
next power of two. -/
theorem intRange_ends (ht : t.intRange? = some (lo, hi)) :
    lo ≤ hi ∧ IsWhole (ofInt lo) lo ∧
      IsWhole (ofInt hi) (if t = .int64 ∨ t = .uint64 then hi + 1 else hi) := by
  cases t <;> simp only [intRange?, Option.some.injEq, Prod.mk.injEq, reduceCtorEq] at ht <;>
    obtain ⟨rfl, rfl⟩ := ht
  case int64 =>
    have hlo : decode (ofInt (-2 ^ 63)) = .finite true (2 ^ 52) 11 := rfl
    have hhi : decode (ofInt (2 ^ 63 - 1)) = .finite false (2 ^ 52) 11 := rfl
    exact ⟨by decide, isWhole_of_decode hlo (by push_cast [pow2_eq]; norm_num),
      isWhole_of_decode hhi (by push_cast [pow2_eq]; norm_num)⟩
  case uint64 =>
    have hhi : decode (ofInt (2 ^ 64 - 1)) = .finite false (2 ^ 52) 12 := rfl
    exact ⟨by decide, isWhole_ofInt (by decide), isWhole_of_decode hhi (by push_cast [pow2_eq]; norm_num)⟩
  all_goals
    refine ⟨by decide, isWhole_ofInt (by decide), ?_⟩
    simpa using isWhole_ofInt (by decide)

section Integer

variable {b : Int} (ht : t.intRange? = some (lo, hi)) (hlo : IsWhole (ofInt lo) lo)
  (hb : IsWhole (ofInt hi) b)
include ht hlo hb

/-- A whole number from the least end of the range to the greatest as a double
is coerced to itself. -/
theorem coerce_of_isWhole {x : Float} {n : Int} (hx : IsWhole x n) (hln : lo ≤ n) (hnb : n ≤ b) :
    IsWhole (t.coerce x) n := by
  rw [coerce_of_intRange ht hx.isNaN_eq_false]
  have h := fclamp_isWhole (roundHalfAway_of_isWhole hx) hlo hb (hln.trans hnb)
  rwa [show max lo (min n b) = n by omega] at h

/-- Every value other than NaN is coerced to a whole number from the least end of
the range to the greatest as a double. -/
theorem coerce_isWhole (hab : lo ≤ b) (hv : v.isNaN = false) :
    ∃ c, IsWhole (t.coerce v) c ∧ lo ≤ c ∧ c ≤ b := by
  rw [coerce_of_intRange ht hv]
  cases hd : decode v with
  | finite neg m e =>
    obtain ⟨n, hn⟩ := roundHalfAway_isWhole (isFinite_of_decode hd)
    exact ⟨_, fclamp_isWhole hn hlo hb hab, le_max_left _ _, max_le hab (min_le_right _ _)⟩
  | infinite neg =>
    -- an infinity is not rounded, and clamps to the end on its side
    have hend : ¬ ofInt hi < ofInt lo := by
      rw [hb.lt_iff hlo]
      omega
    rw [roundHalfAway_of_infinite hd, fclamp_of_infinite hd hlo.1 hb.1 hend]
    cases neg
    · rw [if_neg Bool.false_ne_true]
      exact ⟨b, hb, hab, le_rfl⟩
    · rw [if_pos rfl]
      exact ⟨lo, hlo, le_rfl, hab⟩
  | nan => cases hv.symm.trans (isNaN_of_decode_nan hd)

end Integer

/-- A whole double is held by an integer type exactly when its number is in the
type's range. -/
theorem canRepresent_isWhole_iff (ht : t.intRange? = some (lo, hi)) {x : Float} {n : Int}
    (hx : IsWhole x n) : t.canRepresent x = true ↔ lo ≤ n ∧ n ≤ hi := by
  rw [canRepresent_iff_of_intRange ht hx.isNaN_eq_false]
  constructor
  · rintro ⟨k, hk, hlk, hkh⟩
    obtain rfl := hx.unique hk
    exact ⟨hlk, hkh⟩
  · rintro ⟨hln, hnh⟩
    exact ⟨n, hx, hln, hnh⟩

/-- What coercing does for an integer type: the coerced value is coerced to
itself, a value the type holds is kept, and the type fails to hold a coerced
value only at a 64-bit type, one above its greatest value. -/
theorem coerce_lands_of_intRange (ht : t.intRange? = some (lo, hi)) (hv : v.isNaN = false) :
    (t.coerce (t.coerce v) == t.coerce v) = true ∧
      (t.canRepresent v = true → (t.coerce v == v) = true) ∧
      (t.canRepresent (t.coerce v) = false ↔
        (t = .int64 ∨ t = .uint64) ∧ value (t.coerce v) = ((hi + 1 : Int) : ℚ)) := by
  obtain ⟨hle, hlo, hhi⟩ := intRange_ends ht
  have hab : lo ≤ (if t = .int64 ∨ t = .uint64 then hi + 1 else hi) := by
    split <;> omega
  obtain ⟨c, hc, hlc, hcb⟩ := coerce_isWhole ht hlo hhi hab hv
  refine ⟨?_, ?_, ?_⟩
  · exact ((coerce_of_isWhole ht hlo hhi hc hlc hcb).beq_iff hc).2 rfl
  · intro hr
    obtain ⟨n, hn, hln, hnh⟩ := (canRepresent_iff_of_intRange ht hv).1 hr
    have hnb : n ≤ (if t = .int64 ∨ t = .uint64 then hi + 1 else hi) := by
      split <;> omega
    exact ((coerce_of_isWhole ht hlo hhi hn hln hnb).beq_iff hn).2 rfl
  · rw [← Bool.not_eq_true, canRepresent_isWhole_iff ht hc, hc.2, Int.cast_inj]
    -- the coerced number is at most one above the greatest value, and only at 64 bits
    by_cases h64 : t = .int64 ∨ t = .uint64
    · rw [if_pos h64] at hcb
      simp only [h64, true_and]
      omega
    · rw [if_neg h64] at hcb
      simp only [h64, false_and, iff_false, not_not]
      exact ⟨hlc, hcb⟩

theorem coerce_bool (hv : v.isNaN = false) :
    DType.bool.coerce v = if v != 0.0 then 1.0 else 0.0 := by
  simp only [coerce, hv, isFloat, Bool.false_or, Bool.false_eq_true, if_false]

/-- Coercing to `bool` gives one or zero, both of which it holds. -/
theorem coerce_bool_lands (hv : v.isNaN = false) :
    (DType.bool.coerce (DType.bool.coerce v) == DType.bool.coerce v) = true ∧
      (DType.bool.canRepresent v = true → (DType.bool.coerce v == v) = true) ∧
      DType.bool.canRepresent (DType.bool.coerce v) = true := by
  have hr : DType.bool.canRepresent v = (v == 0.0 || v == 1.0) := by
    simp only [canRepresent, hv, Bool.false_eq_true, if_false]
  rw [coerce_bool hv, hr]
  cases hz : v == 0.0
  · simp only [bne, hz, Bool.not_false, if_true, Bool.false_or]
    exact ⟨by decide +kernel, beq_symm, by decide +kernel⟩
  · simp only [bne, hz, Bool.not_true, Bool.false_eq_true, if_false]
    exact ⟨by decide +kernel, fun _ => beq_symm hz, by decide +kernel⟩

theorem coerce_of_isFloat (ht : t.isFloat = true) : t.coerce v = v := by
  simp only [coerce, ht, Bool.or_true, if_true]

theorem canRepresent_of_isFloat (ht : t.isFloat = true) (hv : v.isNaN = false) :
    t.canRepresent v = true := by
  cases t <;> simp_all [canRepresent, isFloat, intRange?]

/-- Coercion lands in the type's domain but for the top of a 64-bit type: for
every type and every value other than NaN, coercing again keeps the coerced
value, a value the type holds is kept, and the type holds the coerced value
unless it is a 64-bit type and the value is `2^63` or `2^64`, one above its
greatest value. -/
theorem coerce_lands_in_domain (t : DType) {v : Float} (hv : v.isNaN = false) :
    (t.coerce (t.coerce v) == t.coerce v) = true ∧
      (t.canRepresent v = true → (t.coerce v == v) = true) ∧
      (t.canRepresent (t.coerce v) = false ↔
        t = .int64 ∧ value (t.coerce v) = 2 ^ 63 ∨ t = .uint64 ∧ value (t.coerce v) = 2 ^ 64) := by
  rcases ht : t.intRange? with _ | ⟨lo, hi⟩
  · -- no range: `bool`, or a float type, which keeps every value
    by_cases hf : t.isFloat = true
    · have hne : ¬ (t = .int64 ∨ t = .uint64) := by
        rintro (rfl | rfl) <;> cases hf
      rw [coerce_of_isFloat hf, coerce_of_isFloat hf, canRepresent_of_isFloat hf hv]
      refine ⟨beq_self_of_not_isNaN hv, fun _ => beq_self_of_not_isNaN hv, ?_⟩
      simp only [Bool.true_eq_false, false_iff]
      exact fun h => hne (h.imp And.left And.left)
    · obtain rfl : t = .bool := by
        cases t <;> simp_all [intRange?, isFloat]
      obtain ⟨h1, h2, h3⟩ := coerce_bool_lands hv
      refine ⟨h1, h2, ?_⟩
      simp only [h3, Bool.true_eq_false, reduceCtorEq, false_and, or_false]
  · obtain ⟨h1, h2, h3⟩ := coerce_lands_of_intRange ht hv
    refine ⟨h1, h2, h3.trans ?_⟩
    -- the greatest value plus one, by type
    cases t <;> simp only [intRange?, Option.some.injEq, Prod.mk.injEq, reduceCtorEq] at ht <;>
      obtain ⟨rfl, rfl⟩ := ht <;>
      simp only [reduceCtorEq, or_false, false_or, true_and, false_and, iff_self]
    all_goals norm_num [pow2_eq]

/-- `1e19` is above the range of `int64`, whose coercion clamps it to `2^63`. -/
theorem int64_clamp_stands_for_two_pow_63 :
    (1e19 : Float).isNaN = false ∧ value (DType.int64.coerce 1e19) = 2 ^ 63 := by
  have hv : (1e19 : Float).isNaN = false := by decide +kernel
  have h := (coerce_lands_in_domain .int64 hv).2.2
  rcases h.1 (by decide +kernel) with ⟨-, hval⟩ | ⟨hty, -⟩
  · exact ⟨hv, hval⟩
  · cases hty

/-- The `int64` coercion of `1e19` is `2^63`, which `int64` does not hold. -/
theorem int64_saturation_unrepresentable :
    DType.int64.canRepresent (DType.int64.coerce 1e19) = false := by
  decide +kernel

end DType

end Geocube
