import Geocube.Proofs.Binary64.Value
import Mathlib.Tactic.Ring
import Mathlib.Tactic.Linarith

/-!
Rounding in the model of doubles.

The logic's model of `Float` computes the sum or difference of two nonzero
doubles exactly, as a whole mantissa at the smaller of their exponents, and
rounds it (`sub_toModel`, `add_toModel`). Rounding moves the mantissa to the
exponent of its 53rd bit from the top, never below the least exponent
(`targetExponent_eq`), cuts it there, rounds to nearest, and carries into the
next exponent when the rounding reaches `2^53` (`roundWithAccuracy_eq`).
Read as a number (`unpackedValue`), the result is within one step at the
exponent rounded to, whatever was lost in forming the mantissa
(`roundWithAccuracy_error`, `round_error`), and a mantissa of at most 53 bits is
kept as it is (`round_exact`). Packing keeps every result that is a zero or has the
fields of a finite double (`Fits`, `unpack_pack_of_fits`).

For doubles: the difference or sum of two nonzero finite doubles below `2^N`
is a finite double within `2^(N - 53)` of the exact one (`sub_error`,
`add_error`), and when both are at least `2^(g + 52)` and the exact result is
below `2^(g + 53)` it is exact (`sub_exact`, `add_exact`).
-/

namespace Geocube
namespace Binary64
open Float.Model Float.Model.UnpackedFloat

/-- The number an unpacked float stands for; an infinity or NaN is given zero. -/
def unpackedValue : UnpackedFloat → ℚ
  | .finite s m e _ => (s.apply m : ℚ) * 2 ^ e
  | _ => 0

/-- An unpacked float that packing keeps: a zero, or the fields of a finite
double below the largest exponent. -/
def Fits : UnpackedFloat → Prop
  | .zero _ => True
  | .finite _ m e _ => Shape m e ∧ e ≤ 971
  | _ => False

theorem model_pack_unpack (f : Float.Model) : Float.Model.pack f.unpack = f := by
  obtain ⟨⟨b⟩, hb⟩ := f
  simp only [Float.Model.pack, Float.Model.unpack]
  congr
  exact pack_unpack hb

theorem sign_of_beq_negative (s : Sign) :
    (if (s == .negative) = true then Sign.negative else .positive) = s := by
  cases s <;> rfl

/-- A finite double's fields, packed by the model and unpacked again, come back. -/
theorem unpack_pack_finite (s : Sign) {m : Nat} {e : Int} (hm : 0 < m) (h : Shape m e)
    (he : e ≤ 971) : (Float.Model.pack (.finite s m e hm)).unpack = .finite s m e hm := by
  -- the word `Binary64.pack` builds from the same fields unpacks to them
  obtain ⟨biased, frac, hb, hf, hdec⟩ : ∃ biased frac : Nat, biased < 2047 ∧ frac < 2 ^ 52 ∧
      decode (pack (s == .negative) biased frac) = .finite (s == .negative) m e := by
    rcases h.top with h0 | htop
    · by_cases hsub : m < 2 ^ 52
      · refine ⟨0, m, by omega, hsub, ?_⟩
        rw [decode_pack _ (by omega) hsub, if_pos rfl, h0]
      · refine ⟨1, m - 2 ^ 52, by omega, by have := h.lt; omega, ?_⟩
        rw [decode_pack _ (by omega) (by have := h.lt; omega), if_neg (by omega), h0]
        congr 1
        omega
    · refine ⟨(e + 1075).toNat, m - 2 ^ 52, by omega, by have := h.lt; omega, ?_⟩
      rw [decode_pack _ (by omega) (by have := h.lt; omega)]
      rw [if_neg (by have := h.ge; omega)]
      congr 1
      · omega
      · have := h.ge; omega
  rcases unpack_of_decode hdec with ⟨hm0, -⟩ | ⟨hm', hu⟩
  · omega
  rw [sign_of_beq_negative] at hu
  rw [← hu, model_pack_unpack]

/-! ## Signed mantissas -/

theorem apply_mul_congr (s : Sign) {a b : Nat} {x y : ℚ} (h : (a : ℚ) * x = b * y) :
    (s.apply a : ℚ) * x = (s.apply b : ℚ) * y := by
  cases s <;> simp only [Sign.apply, Int.cast_neg, Int.cast_natCast, neg_mul, h]

theorem abs_apply_mul_sub (s : Sign) (a b : Nat) (x y : ℚ) :
    |(s.apply a : ℚ) * x - (s.apply b : ℚ) * y| = |(a : ℚ) * x - b * y| := by
  cases s
  · simp only [Sign.apply, Int.cast_neg, Int.cast_natCast, neg_mul, neg_sub_neg, abs_sub_comm]
  · simp only [Sign.apply, Int.cast_natCast]

/-! ## Rounding a mantissa -/

theorem shiftRight_mantissa (em : ExtendedMantissa) : ∀ k, (em >>> k).mantissa = em.mantissa / 2 ^ k
  | 0 => by rw [pow_zero, Nat.div_one]; rfl
  | k + 1 => by
    change (em >>> k).mantissa / 2 = _
    rw [shiftRight_mantissa em k, Nat.div_div_eq_div_mul, pow_succ]

theorem roundedMantissa_bounds (em : ExtendedMantissa) :
    em.mantissa ≤ em.roundedMantissa ∧ em.roundedMantissa ≤ em.mantissa + 1 := by
  obtain ⟨m, r, s⟩ := em
  cases r <;> cases s <;>
    simp only [ExtendedMantissa.roundedMantissa, ExtendedMantissa.accuracy,
      Accuracy.roundToNearestEven] <;> omega

/-- The exponent the model rounds `m · 2^e` to: that of the last of 53 bits
from the top bit of the value, and never below the least exponent. -/
theorem targetExponent_eq (m : Nat) (e : Int) :
    Format.binary64.targetExponent (totalExponent m e) = max ((m.log2 : Int) + e - 52) (-1074) := by
  simp only [Format.targetExponent, totalExponent, Format.mantissaBits, Format.minExponent]
  norm_num
  omega

/-- A mantissa of at most 53 bits at an exponent at or above the least one is
not shifted. -/
theorem shiftToTargetExponent_small {m : Nat} {e : Int} (hm : m < 2 ^ 53) (he : -1074 ≤ e) :
    shiftToTargetExponent Format.binary64 m e .exact = (⟨m, false, false⟩, e) := by
  have hlog : m.log2 ≤ 52 := by
    by_cases h0 : m = 0
    · simp [h0]
    · have := (Nat.log2_lt h0).2 hm
      omega
  have hk : (Format.binary64.targetExponent (totalExponent m e) - e).toNat = 0 := by
    rw [targetExponent_eq]
    omega
  simp only [shiftToTargetExponent, shiftToExponent, hk, ExtendedMantissa.ofMantissaAndAccuracy,
    Nat.cast_zero, add_zero]
  rfl

/-- A carry into the 54th bit moves the exponent up by one. -/
theorem shiftToTargetExponent_carry {e : Int} (he : -1074 ≤ e) :
    shiftToTargetExponent Format.binary64 (2 ^ 53) e .exact = (⟨2 ^ 52, false, false⟩, e + 1) := by
  have hk : (Format.binary64.targetExponent (totalExponent (2 ^ 53) e) - e).toNat = 1 := by
    rw [targetExponent_eq, Nat.log2_two_pow]
    omega
  simp only [shiftToTargetExponent, shiftToExponent, hk, ExtendedMantissa.ofMantissaAndAccuracy]
  refine Prod.ext ?_ (by simp)
  rfl

/-- Setting up the round and sticky bits for an accuracy keeps the mantissa. -/
theorem mantissa_ofMantissaAndAccuracy (m : Nat) (acc : Accuracy) :
    (ExtendedMantissa.ofMantissaAndAccuracy m acc).mantissa = m := by
  cases acc with
  | exact => rfl
  | inexact o => cases o <;> rfl

/-- The first cut: the mantissa shifted right to the target exponent, which is
at or above the exponent given, whatever was lost before. -/
theorem shiftToTargetExponent_fst_mantissa (m : Nat) (e : Int) (acc : Accuracy) :
    (shiftToTargetExponent Format.binary64 m e acc).1.mantissa =
      m / 2 ^ (Format.binary64.targetExponent (totalExponent m e) - e).toNat := by
  simp only [shiftToTargetExponent, shiftToExponent, shiftRight_mantissa,
    mantissa_ofMantissaAndAccuracy]

theorem shiftToTargetExponent_snd (m : Nat) (e : Int) (acc : Accuracy) :
    (shiftToTargetExponent Format.binary64 m e acc).2 =
      max e (Format.binary64.targetExponent (totalExponent m e)) := by
  simp only [shiftToTargetExponent, shiftToExponent]
  omega

/-- The cut mantissa has at most 53 bits. -/
theorem cut_lt (m : Nat) (e : Int) :
    m / 2 ^ (Format.binary64.targetExponent (totalExponent m e) - e).toNat < 2 ^ 53 := by
  rw [targetExponent_eq]
  apply (Nat.div_lt_iff_lt_mul (Nat.two_pow_pos _)).2
  rw [← Nat.pow_add]
  exact lt_of_lt_of_le Nat.lt_log2_self (Nat.pow_le_pow_right (by decide) (by omega))

/-- Rounding the cut mantissa to nearest reaches at most `2^53`. -/
theorem cut_roundedMantissa_le (m : Nat) (e : Int) (acc : Accuracy) :
    (shiftToTargetExponent Format.binary64 m e acc).1.roundedMantissa ≤ 2 ^ 53 := by
  have hb := roundedMantissa_bounds (shiftToTargetExponent Format.binary64 m e acc).1
  have hcut := cut_lt m e
  rw [← shiftToTargetExponent_fst_mantissa m e acc] at hcut
  omega

/-- Rounding: the mantissa is cut to the target exponent and rounded to nearest
with what was lost before, and a rounding up to `2^53` carries into the next
exponent. -/
theorem roundWithAccuracy_eq (s : Sign) (m : Nat) (e : Int) (acc : Accuracy) :
    let first := shiftToTargetExponent Format.binary64 m e acc
    let r := first.1.roundedMantissa
    roundWithAccuracy Format.binary64 s m e acc =
      if h : r = 0 then .zero s
      else if r < 2 ^ 53 then .finite s r first.2 (Nat.pos_of_ne_zero h)
      else .finite s (2 ^ 52) (first.2 + 1) (by decide) := by
  intro first r
  have hge : -1074 ≤ first.2 := by
    simp only [first, shiftToTargetExponent_snd, targetExponent_eq]
    omega
  have hr : r ≤ 2 ^ 53 := cut_roundedMantissa_le m e acc
  rw [roundWithAccuracy]
  by_cases h0 : r = 0
  · rw [dif_pos h0]
    simp only [first, r] at h0 ⊢
    rw [h0, shiftToTargetExponent_small (by decide) hge]
    rfl
  · rw [dif_neg h0]
    by_cases hsmall : r < 2 ^ 53
    · rw [if_pos hsmall]
      simp only [first, r] at hsmall h0 ⊢
      rw [shiftToTargetExponent_small hsmall hge]
      simp only [dif_neg h0]
      rfl
    · rw [if_neg hsmall]
      have hcarry : r = 2 ^ 53 := by omega
      simp only [first, r] at hcarry ⊢
      rw [hcarry, shiftToTargetExponent_carry hge]
      rfl

theorem unpackedValue_roundWithAccuracy (s : Sign) (m : Nat) (e : Int) (acc : Accuracy) :
    unpackedValue (roundWithAccuracy Format.binary64 s m e acc) =
      (s.apply (shiftToTargetExponent Format.binary64 m e acc).1.roundedMantissa : ℚ) *
        2 ^ (shiftToTargetExponent Format.binary64 m e acc).2 := by
  rw [roundWithAccuracy_eq]
  split_ifs with h0 hsmall
  · rw [h0]
    cases s <;> simp [unpackedValue, Sign.apply]
  · rfl
  · -- the carry: `2^52` one exponent up is the `2^53` the rounding reached
    have hr : (shiftToTargetExponent Format.binary64 m e acc).1.roundedMantissa = 2 ^ 53 := by
      have := cut_roundedMantissa_le m e acc
      omega
    rw [hr, unpackedValue, zpow_add_one₀ two_ne_zero]
    cases s <;> simp [Sign.apply] <;> ring

theorem fits_roundWithAccuracy (s : Sign) (m : Nat) (e : Int) (acc : Accuracy)
    (hhi : (shiftToTargetExponent Format.binary64 m e acc).2 ≤ 970)
    (htop : 2 ^ 52 ≤ (shiftToTargetExponent Format.binary64 m e acc).1.roundedMantissa ∨
      (shiftToTargetExponent Format.binary64 m e acc).2 = -1074) :
    Fits (roundWithAccuracy Format.binary64 s m e acc) := by
  have hge : -1074 ≤ (shiftToTargetExponent Format.binary64 m e acc).2 := by
    rw [shiftToTargetExponent_snd, targetExponent_eq]
    omega
  rw [roundWithAccuracy_eq]
  split_ifs with h0 hsmall
  · trivial
  · exact ⟨⟨hsmall, hge, htop.symm⟩, by omega⟩
  · exact ⟨⟨by decide, by omega, .inr le_rfl⟩, by omega⟩

theorem log2_shiftLeft {m : Nat} (hm : 0 < m) (k : Nat) : (m <<< k).log2 = m.log2 + k := by
  rw [Nat.shiftLeft_eq, Nat.log2_eq_iff (Nat.mul_ne_zero hm.ne' (Nat.two_pow_pos k).ne')]
  have hlo := Nat.log2_self_le hm.ne'
  have hhi := Nat.lt_log2_self (n := m)
  constructor
  · rw [Nat.pow_add]
    exact Nat.mul_le_mul_right _ hlo
  · rw [Nat.add_right_comm, Nat.pow_add]
    exact Nat.mul_lt_mul_of_pos_right hhi (Nat.two_pow_pos k)

/-- `round` first moves the mantissa left, losing nothing, until its exponent is
at most the target exponent, then rounds. -/
theorem round_eq_aligned (s : Sign) (m : Nat) (e : Int) :
    UnpackedFloat.round Format.binary64 s m e =
      roundWithAccuracy Format.binary64 s
        (m <<< (e - Format.binary64.targetExponent (totalExponent m e)).toNat)
        (e - ((e - Format.binary64.targetExponent (totalExponent m e)).toNat : Int)) .exact := rfl

/-- Moving the mantissa left keeps the target exponent. -/
theorem targetExponent_shiftLeft {m : Nat} (hm : 0 < m) (e : Int) (k : Nat) :
    Format.binary64.targetExponent (totalExponent (m <<< k) (e - k)) =
      Format.binary64.targetExponent (totalExponent m e) := by
  rw [targetExponent_eq, targetExponent_eq, log2_shiftLeft hm]
  omega

theorem shiftLeft_value (m k : Nat) (e : Int) :
    ((m <<< k : Nat) : ℚ) * 2 ^ (e - k) = m * 2 ^ e := by
  rw [Nat.shiftLeft_eq, Nat.cast_mul, Nat.cast_pow, Nat.cast_ofNat, ← zpow_natCast, mul_assoc,
    ← zpow_add₀ two_ne_zero, add_sub_cancel]

/-- A mantissa moved left to a smaller exponent keeps its signed value. -/
theorem aligned_value (s : Sign) (m : Nat) {e emin : Int} (h : emin ≤ e) :
    (s.apply (m <<< (e - emin).toNat : Nat) : ℚ) * 2 ^ emin = (s.apply m : ℚ) * 2 ^ e := by
  have hv := shiftLeft_value m (e - emin).toNat e
  have hexp : e - ((e - emin).toNat : Int) = emin := by omega
  rw [hexp] at hv
  exact apply_mul_congr s hv

/-- A mantissa of at most 53 bits at an exponent at or above the least one
rounds to itself. -/
theorem round_exact (s : Sign) {m : Nat} {e : Int} (hm : 0 < m) (hm53 : m < 2 ^ 53)
    (he : -1074 ≤ e) :
    unpackedValue (UnpackedFloat.round Format.binary64 s m e) = (s.apply m : ℚ) * 2 ^ e := by
  have hlog : m.log2 ≤ 52 := by have := (Nat.log2_lt hm.ne').2 hm53; omega
  set t := Format.binary64.targetExponent (totalExponent m e) with ht
  have ht' : t = max ((m.log2 : Int) + e - 52) (-1074) := targetExponent_eq m e
  -- the mantissa moved left to the target exponent still has at most 53 bits
  have hsmall : m <<< (e - t).toNat < 2 ^ 53 := by
    have h0 : 0 < m <<< (e - t).toNat := by rw [Nat.shiftLeft_eq]; positivity
    have hl := log2_shiftLeft hm (e - t).toNat
    exact (Nat.log2_lt h0.ne').1 (by omega)
  have hexp : e - ((e - t).toNat : Int) = t := by omega
  rw [round_eq_aligned, unpackedValue_roundWithAccuracy, hexp,
    shiftToTargetExponent_small hsmall (by omega)]
  exact aligned_value s m (by omega)

/-- Cutting a mantissa `m` by `j` bits and rounding it to a neighbour `r` of the
cut moves `m · 2^e` by at most `2^(e + j)`. -/
theorem cut_error {m r j : Nat} (e : Int) (hr : m / 2 ^ j ≤ r ∧ r ≤ m / 2 ^ j + 1) :
    |(r : ℚ) * 2 ^ (e + j) - m * 2 ^ e| ≤ 2 ^ (e + j) := by
  have hlo : m / 2 ^ j * 2 ^ j ≤ m := Nat.div_mul_le_self m (2 ^ j)
  have hhi : m < 2 ^ j * (m / 2 ^ j + 1) := Nat.lt_mul_div_succ m (Nat.two_pow_pos j)
  -- in whole numbers, `r · 2^j` is within `2^j` of `m`
  have h₁ : r * 2 ^ j ≤ m + 2 ^ j := by nlinarith [hr.2]
  have h₂ : m ≤ r * 2 ^ j + 2 ^ j := by nlinarith [hr.1]
  have h₁' : (r : ℚ) * 2 ^ j ≤ m + 2 ^ j := by exact_mod_cast h₁
  have h₂' : (m : ℚ) ≤ r * 2 ^ j + 2 ^ j := by exact_mod_cast h₂
  have hpos : (0 : ℚ) < 2 ^ e := zpow_pos two_pos e
  have hsplit : (r : ℚ) * 2 ^ (e + j) - m * 2 ^ e = (r * 2 ^ j - m) * 2 ^ e := by
    rw [zpow_add₀ two_ne_zero, zpow_natCast]
    ring
  have hpow : (2 : ℚ) ^ (e + j) = 2 ^ j * 2 ^ e := by
    rw [zpow_add₀ two_ne_zero, zpow_natCast, mul_comm]
  rw [hsplit, hpow, abs_mul, abs_of_pos hpos]
  exact mul_le_mul_of_nonneg_right (abs_le.2 ⟨by linarith, by linarith⟩) hpos.le

/-- Rounding a mantissa `m · 2^e` that has at least 53 bits, or sits at the
least exponent, with its top bit below `2^1023`: the result packs, and is within
`2^t` of the value, where `t` is the exponent of the 53rd bit (or the least
one). What was lost before the mantissa was formed does not matter. -/
theorem roundWithAccuracy_error (s : Sign) {m : Nat} {e : Int} (acc : Accuracy)
    (hc : 52 ≤ m.log2 ∨ e ≤ -1074) (hbig : (m.log2 : Int) + e ≤ 1022) :
    Fits (roundWithAccuracy Format.binary64 s m e acc) ∧
      |unpackedValue (roundWithAccuracy Format.binary64 s m e acc) - (s.apply m : ℚ) * 2 ^ e| ≤
        2 ^ max ((m.log2 : Int) + e - 52) (-1074) := by
  set t := max ((m.log2 : Int) + e - 52) (-1074) with ht
  set j := (Format.binary64.targetExponent (totalExponent m e) - e).toNat with hj
  have hj' : j = (t - e).toNat := by rw [hj, targetExponent_eq]
  have hsnd : (shiftToTargetExponent Format.binary64 m e acc).2 = t := by
    rw [shiftToTargetExponent_snd, targetExponent_eq]
    omega
  have hb := roundedMantissa_bounds (shiftToTargetExponent Format.binary64 m e acc).1
  rw [shiftToTargetExponent_fst_mantissa, ← hj] at hb
  constructor
  · refine fits_roundWithAccuracy s _ _ _ (by omega) ?_
    rw [hsnd]
    by_cases hmin : t = -1074
    · exact .inr hmin
    · -- a normal result: the cut keeps the top 53 bits, the top one set
      left
      have hm : m ≠ 0 := by
        rintro rfl
        simp only [Nat.log2_zero, Nat.cast_zero, zero_add] at ht hc
        omega
      have htop : 2 ^ (52 + j) ≤ m :=
        le_trans (Nat.pow_le_pow_right (by decide) (by omega)) (Nat.log2_self_le hm)
      have : 2 ^ 52 ≤ m / 2 ^ j :=
        (Nat.le_div_iff_mul_le (Nat.two_pow_pos j)).2 (by rw [← Nat.pow_add]; exact htop)
      omega
  · rw [unpackedValue_roundWithAccuracy, hsnd, abs_apply_mul_sub]
    have herr := cut_error e hb
    rwa [show e + (j : Int) = t by omega] at herr

/-- Rounding a positive mantissa `m · 2^e` whose top bit is below `2^1023`
gives a result that packing keeps, within `2^t` of the value, where `t` is the
exponent rounded to. -/
theorem round_error (s : Sign) {m : Nat} (hm : 0 < m) {e : Int} (hbig : (m.log2 : Int) + e ≤ 1022) :
    Fits (UnpackedFloat.round Format.binary64 s m e) ∧
      |unpackedValue (UnpackedFloat.round Format.binary64 s m e) - (s.apply m : ℚ) * 2 ^ e| ≤
        2 ^ max ((m.log2 : Int) + e - 52) (-1074) := by
  rw [round_eq_aligned]
  have ht := targetExponent_eq m e
  set k := (e - Format.binary64.targetExponent (totalExponent m e)).toNat with hk
  -- moved left by `k`, the mantissa has 53 bits or sits at the least exponent
  have hlog := log2_shiftLeft hm k
  have hv := apply_mul_congr s (shiftLeft_value m k e)
  have hexp : max ((((m <<< k).log2 : Nat) : Int) + (e - k) - 52) (-1074) =
      max ((m.log2 : Int) + e - 52) (-1074) := by
    rw [hlog]
    omega
  have h := roundWithAccuracy_error s (m := m <<< k) (e := e - k) .exact (by omega) (by omega)
  rwa [hv, hexp] at h

/-! ## Normalizing a signed mantissa -/

/-- `normalize` rounds the magnitude of a nonzero mantissa with its sign. -/
theorem normalize_eq_round {M : Int} (hM : M ≠ 0) (e : Int) (zs : Sign) :
    UnpackedFloat.normalize Format.binary64 M e zs =
      UnpackedFloat.round Format.binary64 (if M < 0 then .negative else .positive) M.natAbs e := by
  unfold UnpackedFloat.normalize
  rcases lt_or_gt_of_ne hM with hneg | hpos
  · rw [Int.compare_eq_lt.2 hneg, if_pos hneg]
    have h : (-M).toNat = M.natAbs := by omega
    rw [h]
  · rw [Int.compare_eq_gt.2 hpos, if_neg (by omega)]
    have h : M.toNat = M.natAbs := by omega
    rw [h]

theorem apply_sign_natAbs (M : Int) :
    ((if M < 0 then Sign.negative else .positive).apply M.natAbs : ℚ) = M := by
  have h : (if M < 0 then Sign.negative else .positive).apply M.natAbs = M := by
    split_ifs with h <;> simp only [Sign.apply] <;> omega
  rw [h]

/-- Normalizing `M · 2^e` rounds it: a result that packing keeps, within `2^t`
of the value, `t` the exponent rounded to. -/
theorem normalize_error (M e : Int) (zs : Sign) (hbig : (M.natAbs.log2 : Int) + e ≤ 1022) :
    Fits (UnpackedFloat.normalize Format.binary64 M e zs) ∧
      |unpackedValue (UnpackedFloat.normalize Format.binary64 M e zs) - M * 2 ^ e| ≤
        2 ^ max ((M.natAbs.log2 : Int) + e - 52) (-1074) := by
  by_cases h0 : M = 0
  · subst h0
    have hz : UnpackedFloat.normalize Format.binary64 0 e zs = .zero zs := rfl
    rw [hz]
    exact ⟨trivial, by simpa [unpackedValue] using (zpow_pos two_pos _).le⟩
  · rw [normalize_eq_round h0]
    have h := round_error (if M < 0 then .negative else .positive) (Int.natAbs_pos.2 h0) hbig
    rw [apply_sign_natAbs] at h
    exact h

/-- A mantissa of at most 53 bits at an exponent at or above the least one
normalizes to itself. -/
theorem normalize_exact {M e : Int} (zs : Sign) (hM : M.natAbs < 2 ^ 53) (he : -1074 ≤ e) :
    unpackedValue (UnpackedFloat.normalize Format.binary64 M e zs) = M * 2 ^ e := by
  by_cases h0 : M = 0
  · subst h0
    have hz : UnpackedFloat.normalize Format.binary64 0 e zs = .zero zs := rfl
    simp [hz, unpackedValue]
  · rw [normalize_eq_round h0, round_exact _ (Int.natAbs_pos.2 h0) hM he, apply_sign_natAbs]

/-! ## Doubles and their unpacked fields -/

theorem unpack_pack_of_fits {u : UnpackedFloat} (h : Fits u) : (Float.Model.pack u).unpack = u := by
  cases u with
  | zero s => cases s <;> rfl
  | finite s m e hm => exact unpack_pack_finite s hm h.1 h.2
  | notANumber => exact h.elim
  | infinity s => exact h.elim

theorem isFinite_of_fits {u : UnpackedFloat} (h : Fits u) : u.isFinite = true := by
  cases u with
  | zero s => rfl
  | finite s m e hm => rfl
  | notANumber => exact h.elim
  | infinity s => exact h.elim

/-- A finite nonzero double unpacks to the fields `decode` reads, and stands for
the number they give. -/
theorem unpack_of_value_ne_zero {x : Float} (hx : x.isFinite = true) (h0 : value x ≠ 0) :
    ∃ s m e hm, x.toModel.unpack = .finite s m e hm ∧ Shape m e ∧ e ≤ 971 ∧
      value x = (s.apply m : ℚ) * 2 ^ e := by
  obtain ⟨neg, m, e, hd⟩ := decode_of_isFinite hx
  have hv := value_of_decode hd
  have ⟨_, _, hhi, _⟩ := decode_finite_bounds hd
  rcases unpack_of_decode hd with ⟨rfl, -⟩ | ⟨hm, hu⟩
  · exact absurd (by simpa using hv) h0
  · refine ⟨_, m, e, hm, hu, shape_of_decode hd, hhi, ?_⟩
    rw [hv]
    cases neg <;> simp [Sign.apply]

/-- A finite double that stands for zero unpacks to a zero. -/
theorem unpack_of_value_eq_zero {x : Float} (hx : x.isFinite = true) (h0 : value x = 0) :
    ∃ s, x.toModel.unpack = .zero s := by
  obtain ⟨neg, m, e, hd⟩ := decode_of_isFinite hx
  rcases unpack_of_decode hd with ⟨-, hu⟩ | ⟨hm, -⟩
  · exact ⟨_, hu⟩
  · -- a nonzero mantissa stands for a nonzero number
    have hne : (m : ℚ) * 2 ^ e ≠ 0 := mul_ne_zero (by exact_mod_cast hm.ne') (zpow_pos two_pos _).ne'
    rw [value_of_decode hd] at h0
    cases neg
    · exact absurd (by simpa using h0) hne
    · exact absurd (by simpa using h0) hne

/-- The number a finite double stands for is that of its unpacked fields. -/
theorem value_eq_unpackedValue {x : Float} (hx : x.isFinite = true) :
    value x = unpackedValue x.toModel.unpack := by
  obtain ⟨neg, m, e, hd⟩ := decode_of_isFinite hx
  rw [value_of_decode hd]
  rcases unpack_of_decode hd with ⟨rfl, hu⟩ | ⟨hm, hu⟩
  · rw [hu]
    simp [unpackedValue]
  · rw [hu]
    cases neg <;> simp [unpackedValue, Sign.apply]

/-- A double whose model is a packed unpacked float that packing keeps is
finite and stands for that float's number. -/
theorem value_of_toModel {z : Float} {u : UnpackedFloat} (hz : z.toModel = Float.Model.pack u)
    (h : Fits u) : z.isFinite = true ∧ value z = unpackedValue u := by
  have hu : z.toModel.unpack = u := by rw [hz, unpack_pack_of_fits h]
  have hfin : z.isFinite = true := by
    change z.toModel.unpack.isFinite = true
    rw [hu]
    exact isFinite_of_fits h
  exact ⟨hfin, by rw [value_eq_unpackedValue hfin, hu]⟩

/-! ## Rounding a combination of two doubles -/

/-- A nonzero whole number `M` with `M · 2^e` below `2^N` has its top bit below
`N - e`. -/
theorem log2_add_lt {M e N : Int} (hM : M ≠ 0) (h : |(M : ℚ) * 2 ^ e| < 2 ^ N) :
    (M.natAbs.log2 : Int) + e < N := by
  have hlog : ((2 : ℚ) ^ M.natAbs.log2) ≤ |(M : ℚ)| := by
    have := Nat.log2_self_le (Int.natAbs_ne_zero.2 hM)
    rw [← Int.cast_abs, ← Int.natCast_natAbs, Int.cast_natCast]
    exact_mod_cast this
  have hpos : (0 : ℚ) < 2 ^ e := zpow_pos two_pos e
  have hle : (2 : ℚ) ^ ((M.natAbs.log2 : Int) + e) < 2 ^ N := by
    rw [zpow_add₀ two_ne_zero, zpow_natCast]
    calc (2 : ℚ) ^ M.natAbs.log2 * 2 ^ e ≤ |(M : ℚ)| * 2 ^ e :=
          mul_le_mul_of_nonneg_right hlog hpos.le
      _ = |(M : ℚ) * 2 ^ e| := by rw [abs_mul, abs_of_pos hpos]
      _ < 2 ^ N := h
  exact (zpow_lt_zpow_iff_right₀ one_lt_two).1 hle

/-- Rounding `M · 2^e`, a number below `2^N`, is within `2^(N - 53)` of it
(or of the least step, among the subnormals), and packing keeps the result. -/
theorem normalize_error_of_lt {M e N : Int} (zs : Sign) (hN : N ≤ 1023)
    (h : |(M : ℚ) * 2 ^ e| < 2 ^ N) :
    Fits (UnpackedFloat.normalize Format.binary64 M e zs) ∧
      |unpackedValue (UnpackedFloat.normalize Format.binary64 M e zs) - M * 2 ^ e| ≤
        2 ^ max (N - 53) (-1074) := by
  by_cases h0 : M = 0
  · subst h0
    have hz : UnpackedFloat.normalize Format.binary64 0 e zs = .zero zs := rfl
    rw [hz]
    exact ⟨trivial, by simpa [unpackedValue] using (zpow_pos two_pos _).le⟩
  · have hlt := log2_add_lt h0 h
    obtain ⟨hfits, herr⟩ := normalize_error M e zs (by omega)
    exact ⟨hfits, le_trans herr (zpow_le_zpow_right₀ one_le_two (by omega))⟩

/-- Rounding `M · 2^e` changes nothing when the number lies below `2^(g + 53)`
for an exponent `g` between the least one and `e`, and below `2^1023`. -/
theorem normalize_exact_of_lt {M e g : Int} (zs : Sign) (hg : -1074 ≤ g) (hg' : g ≤ 970)
    (hge : g ≤ e)
    (h : |(M : ℚ) * 2 ^ e| < 2 ^ (g + 53)) :
    Fits (UnpackedFloat.normalize Format.binary64 M e zs) ∧
      unpackedValue (UnpackedFloat.normalize Format.binary64 M e zs) = M * 2 ^ e := by
  have hpos : (0 : ℚ) < 2 ^ e := zpow_pos two_pos e
  -- the mantissa has at most 53 bits
  have hM : M.natAbs < 2 ^ 53 := by
    have h' : |(M : ℚ)| * 2 ^ e < 2 ^ 53 * 2 ^ e := by
      calc |(M : ℚ)| * 2 ^ e = |(M : ℚ) * 2 ^ e| := by rw [abs_mul, abs_of_pos hpos]
        _ < 2 ^ (g + 53) := h
        _ ≤ 2 ^ (e + 53) := zpow_le_zpow_right₀ one_le_two (by omega)
        _ = 2 ^ 53 * 2 ^ e := by rw [zpow_add₀ two_ne_zero, mul_comm]; norm_num
    have h'' : |(M : ℚ)| < 2 ^ 53 := lt_of_mul_lt_mul_right h' hpos.le
    rw [← Int.cast_abs, ← Int.natCast_natAbs, Int.cast_natCast] at h''
    exact_mod_cast h''
  refine ⟨?_, normalize_exact zs hM (by omega)⟩
  by_cases h0 : M = 0
  · subst h0
    trivial
  · have hlt := log2_add_lt h0 h
    exact (normalize_error M e zs (by omega)).1

/-- The size of a finite double is a finite double standing for the absolute
value of its number. -/
theorem value_abs {x : Float} (hx : x.isFinite = true) :
    x.abs.isFinite = true ∧ value x.abs = |value x| := by
  have habs : x.abs.toModel = Float.Model.pack x.toModel.unpack.abs := rfl
  by_cases h0 : value x = 0
  · -- a zero: its size is the positive zero
    obtain ⟨neg, m, e, hd⟩ := decode_of_isFinite hx
    have hv := value_of_decode hd
    rcases unpack_of_decode hd with ⟨-, hu⟩ | ⟨hm, hu⟩
    · rw [hu] at habs
      obtain ⟨hfin, hval⟩ := value_of_toModel habs trivial
      exact ⟨hfin, by rw [hval, h0]; rfl⟩
    · -- a nonzero mantissa stands for a nonzero number
      exfalso
      have hne : (m : ℚ) * 2 ^ e ≠ 0 :=
        mul_ne_zero (by exact_mod_cast hm.ne') (zpow_pos two_pos _).ne'
      rw [hv] at h0
      cases neg
      · exact hne (by simpa using h0)
      · exact hne (by simpa using h0)
  · obtain ⟨s, m, e, hm, hu, hs, hhi, hval⟩ := unpack_of_value_ne_zero hx h0
    rw [hu] at habs
    obtain ⟨hfin, hval'⟩ := value_of_toModel habs ⟨hs, hhi⟩
    refine ⟨hfin, ?_⟩
    rw [hval', hval]
    have hpos : (0 : ℚ) < 2 ^ e := zpow_pos two_pos e
    cases s <;> simp [unpackedValue, UnpackedFloat.abs, Sign.apply, abs_mul, abs_of_pos hpos]

/-! ## Subtraction and addition of doubles -/

section Arithmetic

variable {x y : Float} {s₁ s₂ : Sign} {m₁ m₂ : Nat} {e₁ e₂ : Int} {h₁ : 0 < m₁} {h₂ : 0 < m₂}

/-- Subtracting nonzero doubles: the model moves both mantissas to the smaller
exponent, subtracts them exactly, and rounds. -/
theorem sub_toModel (hx : x.toModel.unpack = .finite s₁ m₁ e₁ h₁)
    (hy : y.toModel.unpack = .finite s₂ m₂ e₂ h₂) :
    (x - y).toModel = Float.Model.pack (UnpackedFloat.normalize Format.binary64
      (s₁.apply (m₁ <<< (e₁ - min e₁ e₂).toNat : Nat) -
        s₂.apply (m₂ <<< (e₂ - min e₁ e₂).toNat : Nat))
      (min e₁ e₂) .positive) := by
  show Float.Model.pack (UnpackedFloat.sub Format.binary64 x.toModel.unpack y.toModel.unpack) = _
  rw [hx, hy]
  rfl

/-- Adding nonzero doubles, the same way. -/
theorem add_toModel (hx : x.toModel.unpack = .finite s₁ m₁ e₁ h₁)
    (hy : y.toModel.unpack = .finite s₂ m₂ e₂ h₂) :
    (x + y).toModel = Float.Model.pack (UnpackedFloat.normalize Format.binary64
      (s₁.apply (m₁ <<< (e₁ - min e₁ e₂).toNat : Nat) +
        s₂.apply (m₂ <<< (e₂ - min e₁ e₂).toNat : Nat))
      (min e₁ e₂) .positive) := by
  show Float.Model.pack (UnpackedFloat.add Format.binary64 x.toModel.unpack y.toModel.unpack) = _
  rw [hx, hy]
  rfl

/-- A double at least `2^(g + 52)` in size has its exponent at least `g`. -/
theorem le_exp_of_le_abs {s : Sign} {m : Nat} {e g : Int} (h : Shape m e)
    (hv : (2 : ℚ) ^ (g + 52) ≤ |(s.apply m : ℚ) * 2 ^ e|) : g ≤ e := by
  have hpos : (0 : ℚ) < 2 ^ e := zpow_pos two_pos e
  have hm : (m : ℚ) < 2 ^ 53 := by exact_mod_cast h.lt
  have habs : |(s.apply m : ℚ) * 2 ^ e| = m * 2 ^ e := by
    cases s <;> simp [Sign.apply, abs_mul, abs_of_pos hpos]
  have hlt : (2 : ℚ) ^ (g + 52) < 2 ^ (e + 53) := by
    calc (2 : ℚ) ^ (g + 52) ≤ m * 2 ^ e := habs ▸ hv
      _ < 2 ^ 53 * 2 ^ e := mul_lt_mul_of_pos_right hm hpos
      _ = 2 ^ (e + 53) := by rw [zpow_add₀ two_ne_zero, mul_comm]; norm_num
  have := (zpow_lt_zpow_iff_right₀ one_lt_two).1 hlt
  omega

/-- A finite double at least `2^(g + 52)` in size unpacks to fields whose
exponent is at least `g`. -/
theorem unpack_of_le_abs {x : Float} (hx : x.isFinite = true) {g : Int}
    (hxg : (2 : ℚ) ^ (g + 52) ≤ |value x|) :
    ∃ s m e hm, x.toModel.unpack = .finite s m e hm ∧ g ≤ e ∧ value x = (s.apply m : ℚ) * 2 ^ e := by
  have hpos : (0 : ℚ) < 2 ^ (g + 52) := zpow_pos two_pos _
  obtain ⟨s, m, e, hm, hu, hs, -, hv⟩ :=
    unpack_of_value_ne_zero hx (abs_pos.1 (lt_of_lt_of_le hpos hxg))
  exact ⟨s, m, e, hm, hu, le_exp_of_le_abs hs (hv ▸ hxg), hv⟩

/-- A double computed as the rounding of `M · 2^e`, a number `D` below `2^N`,
is finite and within `2^(N - 53)` of `D` (or of the least step). -/
theorem rounded_error {z : Float} {M e N : Int} {D : ℚ}
    (hz : z.toModel = Float.Model.pack (UnpackedFloat.normalize Format.binary64 M e .positive))
    (hD : (M : ℚ) * 2 ^ e = D) (hN : N ≤ 1023) (h : |D| < 2 ^ N) :
    z.isFinite = true ∧ |value z - D| ≤ 2 ^ max (N - 53) (-1074) := by
  subst hD
  obtain ⟨hfits, herr⟩ := normalize_error_of_lt .positive hN h
  obtain ⟨hfin, hval⟩ := value_of_toModel hz hfits
  exact ⟨hfin, hval ▸ herr⟩

/-- A double computed as the rounding of `M · 2^e`, a number `D` below
`2^(g + 53)` with `g` at most `e`, is exactly `D`. -/
theorem rounded_exact {z : Float} {M e g : Int} {D : ℚ}
    (hz : z.toModel = Float.Model.pack (UnpackedFloat.normalize Format.binary64 M e .positive))
    (hD : (M : ℚ) * 2 ^ e = D) (hg : -1074 ≤ g) (hg' : g ≤ 970) (hge : g ≤ e)
    (h : |D| < 2 ^ (g + 53)) : z.isFinite = true ∧ value z = D := by
  subst hD
  obtain ⟨hfits, hval⟩ := normalize_exact_of_lt .positive hg hg' hge h
  obtain ⟨hfin, hz'⟩ := value_of_toModel hz hfits
  exact ⟨hfin, hz'.trans hval⟩

theorem aligned_sub_value (hv₁ : value x = (s₁.apply m₁ : ℚ) * 2 ^ e₁)
    (hv₂ : value y = (s₂.apply m₂ : ℚ) * 2 ^ e₂) :
    (((s₁.apply (m₁ <<< (e₁ - min e₁ e₂).toNat : Nat) -
        s₂.apply (m₂ <<< (e₂ - min e₁ e₂).toNat : Nat) : Int) : ℚ)) * 2 ^ min e₁ e₂ =
      value x - value y := by
  rw [Int.cast_sub, sub_mul, aligned_value _ _ (min_le_left _ _),
    aligned_value _ _ (min_le_right _ _), hv₁, hv₂]

theorem aligned_add_value (hv₁ : value x = (s₁.apply m₁ : ℚ) * 2 ^ e₁)
    (hv₂ : value y = (s₂.apply m₂ : ℚ) * 2 ^ e₂) :
    (((s₁.apply (m₁ <<< (e₁ - min e₁ e₂).toNat : Nat) +
        s₂.apply (m₂ <<< (e₂ - min e₁ e₂).toNat : Nat) : Int) : ℚ)) * 2 ^ min e₁ e₂ =
      value x + value y := by
  rw [Int.cast_add, add_mul, aligned_value _ _ (min_le_left _ _),
    aligned_value _ _ (min_le_right _ _), hv₁, hv₂]

end Arithmetic

variable {x y : Float}

/-- The difference of two nonzero finite doubles below `2^N` is finite and
within `2^(N - 53)` of the exact difference (or of the least step). -/
theorem sub_error (hx : x.isFinite = true) (hy : y.isFinite = true) (hx0 : value x ≠ 0)
    (hy0 : value y ≠ 0) {N : Int} (hN : N ≤ 1023) (h : |value x - value y| < 2 ^ N) :
    (x - y).isFinite = true ∧ |value (x - y) - (value x - value y)| ≤ 2 ^ max (N - 53) (-1074) := by
  obtain ⟨s₁, m₁, e₁, h₁, hu₁, -, -, hv₁⟩ := unpack_of_value_ne_zero hx hx0
  obtain ⟨s₂, m₂, e₂, h₂, hu₂, -, -, hv₂⟩ := unpack_of_value_ne_zero hy hy0
  exact rounded_error (sub_toModel hu₁ hu₂) (aligned_sub_value hv₁ hv₂) hN h

theorem add_error (hx : x.isFinite = true) (hy : y.isFinite = true) (hx0 : value x ≠ 0)
    (hy0 : value y ≠ 0) {N : Int} (hN : N ≤ 1023) (h : |value x + value y| < 2 ^ N) :
    (x + y).isFinite = true ∧ |value (x + y) - (value x + value y)| ≤ 2 ^ max (N - 53) (-1074) := by
  obtain ⟨s₁, m₁, e₁, h₁, hu₁, -, -, hv₁⟩ := unpack_of_value_ne_zero hx hx0
  obtain ⟨s₂, m₂, e₂, h₂, hu₂, -, -, hv₂⟩ := unpack_of_value_ne_zero hy hy0
  exact rounded_error (add_toModel hu₁ hu₂) (aligned_add_value hv₁ hv₂) hN h

/-- Two doubles at least `2^(g + 52)` in size whose difference is below
`2^(g + 53)` subtract exactly. -/
theorem sub_exact (hx : x.isFinite = true) (hy : y.isFinite = true) {g : Int} (hg : -1074 ≤ g)
    (hg' : g ≤ 970) (hxg : (2 : ℚ) ^ (g + 52) ≤ |value x|) (hyg : (2 : ℚ) ^ (g + 52) ≤ |value y|)
    (h : |value x - value y| < 2 ^ (g + 53)) :
    (x - y).isFinite = true ∧ value (x - y) = value x - value y := by
  obtain ⟨s₁, m₁, e₁, h₁, hu₁, hge₁, hv₁⟩ := unpack_of_le_abs hx hxg
  obtain ⟨s₂, m₂, e₂, h₂, hu₂, hge₂, hv₂⟩ := unpack_of_le_abs hy hyg
  exact rounded_exact (sub_toModel hu₁ hu₂) (aligned_sub_value hv₁ hv₂) hg hg'
    (le_min hge₁ hge₂) h

/-- Two doubles at least `2^(g + 52)` in size whose sum is below `2^(g + 53)`
add exactly. -/
theorem add_exact (hx : x.isFinite = true) (hy : y.isFinite = true) {g : Int} (hg : -1074 ≤ g)
    (hg' : g ≤ 970) (hxg : (2 : ℚ) ^ (g + 52) ≤ |value x|) (hyg : (2 : ℚ) ^ (g + 52) ≤ |value y|)
    (h : |value x + value y| < 2 ^ (g + 53)) :
    (x + y).isFinite = true ∧ value (x + y) = value x + value y := by
  obtain ⟨s₁, m₁, e₁, h₁, hu₁, hge₁, hv₁⟩ := unpack_of_le_abs hx hxg
  obtain ⟨s₂, m₂, e₂, h₂, hu₂, hge₂, hv₂⟩ := unpack_of_le_abs hy hyg
  exact rounded_exact (add_toModel hu₁ hu₂) (aligned_add_value hv₁ hv₂) hg hg'
    (le_min hge₁ hge₂) h

end Binary64
end Geocube
