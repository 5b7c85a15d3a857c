import Geocube.Proofs.Binary64.Nearest

/-!
Products and quotients of doubles.

The logic's model of `Float` multiplies two nonzero doubles by multiplying their
mantissas exactly and rounding the product at the sum of their exponents
(`mul_toModel`, `mul_eq_round`), so the product of two nonzero finite doubles
below `2^N` is within half a step, `2^(N - 54)`, of the exact one
(`mul_half_error`). It divides by moving the dividend's mantissa left until the
quotient of the mantissas has 53 bits, or to the least exponent
(`divCore_exponent`, `divCore_cut`), cutting that quotient (`quotient_bounds`)
and rounding it with what the cut lost, for a quotient below `2^N` at an exponent
at most `N - 53` (`divCore_round_exponent_le`); so the quotient of two nonzero
finite doubles below `2^N` is within one step, `2^(N - 52)`, of the exact one
(`div_error`). A zero times or over a nonzero double is a zero
(`mul_of_value_eq_zero`, `div_of_value_eq_zero`).
-/

namespace Geocube
namespace Binary64
open Float.Model Float.Model.UnpackedFloat

/-! ## Signs -/

theorem apply_mul (s₁ s₂ : Sign) (a b : Int) :
    (s₁ * s₂).apply (a * b) = s₁.apply a * s₂.apply b := by
  cases s₁ <;> cases s₂
  · exact (neg_mul_neg a b).symm
  · exact (neg_mul a b).symm
  · exact (mul_neg a b).symm
  · rfl

theorem apply_one_div (s₁ s₂ : Sign) (a b : ℚ) :
    (s₁.apply 1 : ℚ) * a / ((s₂.apply 1 : ℚ) * b) = ((s₁ / s₂).apply 1 : ℚ) * (a / b) := by
  cases s₁ <;> cases s₂
  · rw [show Sign.negative / Sign.negative = Sign.positive from rfl]
    simp only [Sign.apply, Int.cast_neg, Int.cast_one]
    ring
  · rw [show Sign.negative / Sign.positive = Sign.negative from rfl]
    simp only [Sign.apply, Int.cast_neg, Int.cast_one]
    ring
  · rw [show Sign.positive / Sign.negative = Sign.negative from rfl]
    simp only [Sign.apply, Int.cast_neg, Int.cast_one]
    ring
  · rw [show Sign.positive / Sign.positive = Sign.positive from rfl]
    simp only [Sign.apply, Int.cast_one]
    ring

theorem abs_apply_sub_apply_one (s : Sign) (r : Nat) (u v : ℚ) :
    |(s.apply r : ℚ) * u - (s.apply 1 : ℚ) * v| = |r * u - v| := by
  cases s
  · simp only [Sign.apply, Int.cast_neg, Int.cast_natCast, Int.cast_one]
    rw [← abs_neg]
    ring_nf
  · simp only [Sign.apply, Int.cast_natCast, Int.cast_one, one_mul]

/-- The sign of a quotient stands for one or minus one. -/
theorem abs_apply_one (s : Sign) : |(s.apply 1 : ℚ)| = 1 := by
  cases s <;> simp [Sign.apply]

/-! ## Products -/

section Product

variable {x y : Float} {s₁ s₂ : Sign} {m₁ m₂ : Nat} {e₁ e₂ : Int} {h₁ : 0 < m₁} {h₂ : 0 < m₂}

/-- Multiplying nonzero doubles: the model multiplies the mantissas exactly,
adds the exponents, and rounds. -/
theorem mul_toModel (hx : x.toModel.unpack = .finite s₁ m₁ e₁ h₁)
    (hy : y.toModel.unpack = .finite s₂ m₂ e₂ h₂) :
    (x * y).toModel = Float.Model.pack
      (roundWithAccuracy Format.binary64 (s₁ * s₂) (m₁ * m₂) (e₁ + e₂) .exact) := by
  show Float.Model.pack (UnpackedFloat.mul Format.binary64 x.toModel.unpack y.toModel.unpack) = _
  rw [hx, hy]
  rfl

/-- The product of two mantissas of doubles is at the exponent `round` would
move it to or below: nothing needs moving left before the rounding. -/
theorem mul_eq_round (hs₁ : Shape m₁ e₁) (hs₂ : Shape m₂ e₂) (hm₁ : 0 < m₁) (hm₂ : 0 < m₂)
    (s : Sign) :
    roundWithAccuracy Format.binary64 s (m₁ * m₂) (e₁ + e₂) .exact =
      UnpackedFloat.round Format.binary64 s (m₁ * m₂) (e₁ + e₂) := by
  have hk : (e₁ + e₂ - Format.binary64.targetExponent (totalExponent (m₁ * m₂) (e₁ + e₂))).toNat = 0 := by
    rw [targetExponent_eq]
    have hm : 0 < m₁ * m₂ := Nat.mul_pos hm₁ hm₂
    -- either the product has at least 53 bits, or both exponents are the least
    have hcase : 2 ^ 52 ≤ m₁ * m₂ ∨ e₁ + e₂ ≤ -1074 := by
      rcases hs₁.top with he₁ | hbig₁ <;> rcases hs₂.top with he₂ | hbig₂
      · have := hs₂.ge
        omega
      · exact .inl (le_trans hbig₂ (Nat.le_mul_of_pos_left _ hm₁))
      · exact .inl (le_trans hbig₁ (Nat.le_mul_of_pos_right _ hm₂))
      · exact .inl (le_trans hbig₂ (Nat.le_mul_of_pos_left _ hm₁))
    rcases hcase with hbig | hlow
    · have := (Nat.le_log2 hm.ne').2 hbig
      omega
    · omega
  rw [round_eq_aligned, hk, Nat.shiftLeft_zero, Nat.cast_zero, sub_zero]

end Product

section Products

variable {x y : Float}

/-- The product of two nonzero finite doubles below `2^N` is finite and within
`2^(N - 54)` of the exact product (or half the least step). -/
theorem mul_half_error (hx : x.isFinite = true) (hy : y.isFinite = true) (hx0 : value x ≠ 0)
    (hy0 : value y ≠ 0) {N : Int} (hN : N ≤ 1023) (h : |value x * value y| < 2 ^ N) :
    (x * y).isFinite = true ∧ |value (x * y) - value x * value y| ≤ 2 ^ max (N - 54) (-1075) := by
  obtain ⟨s₁, m₁, e₁, h₁, hu₁, hs₁, -, hv₁⟩ := unpack_of_value_ne_zero hx hx0
  obtain ⟨s₂, m₂, e₂, h₂, hu₂, hs₂, -, hv₂⟩ := unpack_of_value_ne_zero hy hy0
  have hz := mul_toModel hu₁ hu₂
  rw [mul_eq_round hs₁ hs₂ h₁ h₂] at hz
  have hm : 0 < m₁ * m₂ := Nat.mul_pos h₁ h₂
  -- the exact product is the product of the mantissas at the sum of the exponents
  have hprod : value x * value y = ((s₁ * s₂).apply (m₁ * m₂ : Nat) : ℚ) * 2 ^ (e₁ + e₂) := by
    rw [hv₁, hv₂, Nat.cast_mul, apply_mul, Int.cast_mul, zpow_add₀ two_ne_zero]
    ring
  have hM : (s₁ * s₂).apply (m₁ * m₂ : Nat) ≠ 0 := by
    cases s₁ * s₂ <;> simp [Sign.apply] <;> omega
  have hlog := log2_add_lt hM (hprod ▸ h)
  have hnat : ((s₁ * s₂).apply (m₁ * m₂ : Nat)).natAbs = m₁ * m₂ := by
    cases s₁ * s₂ <;> simp only [Sign.apply, Int.natAbs_neg, Int.natAbs_natCast]
  rw [hnat] at hlog
  obtain ⟨hfits, -⟩ := round_error (s₁ * s₂) hm (e := e₁ + e₂) (by omega)
  obtain ⟨hfin, hval⟩ := value_of_toModel hz hfits
  refine ⟨hfin, ?_⟩
  obtain ⟨R, hR, herr⟩ := round_near (s₁ * s₂) hm (e₁ + e₂)
  rw [hval, hR, hprod, abs_apply_mul_sub]
  -- half a step at an exponent at most `N - 53`
  refine le_trans herr ?_
  rw [div_eq_mul_inv, ← zpow_neg_one, ← zpow_add₀ two_ne_zero]
  exact zpow_le_zpow_right₀ one_le_two (by omega)

/-- A zero times a nonzero finite double is a zero. -/
theorem mul_of_value_eq_zero (hx : x.isFinite = true) (h0 : value x = 0) (hy : y.isFinite = true)
    (hy0 : value y ≠ 0) : (x * y).isFinite = true ∧ value (x * y) = 0 := by
  obtain ⟨s, hu⟩ := unpack_of_value_eq_zero hx h0
  obtain ⟨s', m', e', hm', hu', -⟩ := unpack_of_value_ne_zero hy hy0
  have hz : (x * y).toModel = Float.Model.pack (.zero (s * s')) := by
    show Float.Model.pack (UnpackedFloat.mul Format.binary64 x.toModel.unpack y.toModel.unpack) = _
    rw [hu, hu']
    rfl
  exact value_of_toModel hz trivial

end Products

/-! ## Quotients of mantissas -/

/-- The exponent the model divides at: the exponent of the quotient's 53rd bit
less one more, never above the difference of the exponents, never below the
least exponent. -/
theorem divCore_exponent (m₁ : Nat) (e₁ : Int) (m₂ : Nat) (e₂ : Int) :
    (divCore Format.binary64 m₁ e₁ m₂ e₂).2.1 =
      min (e₁ - e₂) (max ((m₁.log2 : Int) - m₂.log2 + e₁ - e₂ - 53) (-1074)) := by
  simp only [divCore, Format.targetExponent, totalExponent, Format.mantissaBits, Format.minExponent]
  norm_num
  omega

/-- The model's quotient mantissa: the dividend moved left to that exponent,
divided by the divisor and cut. -/
theorem divCore_mantissa (m₁ : Nat) (e₁ : Int) (m₂ : Nat) (e₂ : Int) :
    (divCore Format.binary64 m₁ e₁ m₂ e₂).1 =
      (m₁ <<< (e₁ - e₂ - (divCore Format.binary64 m₁ e₁ m₂ e₂).2.1).toNat) / m₂ := rfl

/-- The exact quotient of `m₁ · 2^e₁` by `m₂ · 2^e₂` lies between the model's
cut quotient mantissa and the next one, at the exponent it divides at. -/
theorem quotient_bounds (m₁ : Nat) (e₁ : Int) {m₂ : Nat} (hm₂ : 0 < m₂) (e₂ : Int) :
    ((divCore Format.binary64 m₁ e₁ m₂ e₂).1 : ℚ) * 2 ^ (divCore Format.binary64 m₁ e₁ m₂ e₂).2.1 ≤
        m₁ * 2 ^ e₁ / (m₂ * 2 ^ e₂) ∧
      m₁ * 2 ^ e₁ / (m₂ * 2 ^ e₂) <
        ((divCore Format.binary64 m₁ e₁ m₂ e₂).1 + 1 : ℚ) * 2 ^ (divCore Format.binary64 m₁ e₁ m₂ e₂).2.1 := by
  rw [divCore_mantissa]
  set T := (divCore Format.binary64 m₁ e₁ m₂ e₂).2.1 with hTdef
  have hT : T ≤ e₁ - e₂ := by rw [hTdef, divCore_exponent]; exact min_le_left _ _
  set k := (e₁ - e₂ - T).toNat with hk
  set M := m₁ <<< k with hMdef
  -- the dividend moved left by `k` stands for the same number at the exponent `T`
  have hM : (M : ℚ) * 2 ^ T = m₁ * 2 ^ (e₁ - e₂) := by
    have := shiftLeft_value m₁ k (e₁ - e₂)
    rwa [show e₁ - e₂ - (k : Int) = T by omega] at this
  have hpos : (0 : ℚ) < 2 ^ T := zpow_pos two_pos T
  have hm₂' : (0 : ℚ) < m₂ := by exact_mod_cast hm₂
  have hQ : (m₁ : ℚ) * 2 ^ e₁ / (m₂ * 2 ^ e₂) = M / m₂ * 2 ^ T := by
    rw [div_mul_eq_mul_div, hM, zpow_sub₀ two_ne_zero]
    field_simp
  have hlo : M / m₂ * m₂ ≤ M := Nat.div_mul_le_self M m₂
  have hhi : M < (M / m₂ + 1) * m₂ := by
    rw [Nat.add_mul, Nat.one_mul]
    have := Nat.lt_div_mul_add hm₂ (a := M)
    omega
  have hlo' : ((M / m₂ : Nat) : ℚ) ≤ M / m₂ := by
    rw [le_div_iff₀ hm₂']
    exact_mod_cast hlo
  have hhi' : (M : ℚ) / m₂ < (M / m₂ : Nat) + 1 := by
    rw [div_lt_iff₀ hm₂']
    exact_mod_cast hhi
  rw [hQ]
  exact ⟨mul_le_mul_of_nonneg_right hlo' hpos.le, mul_lt_mul_of_pos_right hhi' hpos⟩

/-- The model's quotient mantissa has at least 53 bits, or is cut at the least
exponent. -/
theorem divCore_cut {m₁ m₂ : Nat} (e₁ e₂ : Int) (hm₁ : 0 < m₁) (hlt : m₁ < 2 ^ 53) (hm₂ : 0 < m₂) :
    52 ≤ (divCore Format.binary64 m₁ e₁ m₂ e₂).1.log2 ∨ (divCore Format.binary64 m₁ e₁ m₂ e₂).2.1 ≤ -1074 := by
  by_cases hT : (divCore Format.binary64 m₁ e₁ m₂ e₂).2.1 ≤ -1074
  · exact .inr hT
  left
  have hL₁ : m₁.log2 < 53 := (Nat.log2_lt hm₁.ne').2 hlt
  have hself₁ : 2 ^ m₁.log2 ≤ m₁ := Nat.log2_self_le hm₁.ne'
  have hself₂ : m₂ < 2 ^ (m₂.log2 + 1) := Nat.lt_log2_self
  have hexp := divCore_exponent m₁ e₁ m₂ e₂
  -- above the least exponent the model divides at `log₂ m₁ - log₂ m₂ + e₁ - e₂ - 53`,
  -- so the dividend is moved left until it has `53 + log₂ m₂` bits
  have hk : (e₁ - e₂ - (divCore Format.binary64 m₁ e₁ m₂ e₂).2.1).toNat = 53 + m₂.log2 - m₁.log2 := by
    omega
  rw [divCore_mantissa, hk, Nat.shiftLeft_eq]
  have hwide : 2 ^ 52 * m₂ ≤ m₁ * 2 ^ (53 + m₂.log2 - m₁.log2) := by
    calc 2 ^ 52 * m₂ ≤ 2 ^ 52 * 2 ^ (m₂.log2 + 1) := Nat.mul_le_mul_left _ hself₂.le
      _ = 2 ^ m₁.log2 * 2 ^ (53 + m₂.log2 - m₁.log2) := by
        rw [← Nat.pow_add, ← Nat.pow_add]
        congr 1
        omega
      _ ≤ m₁ * 2 ^ (53 + m₂.log2 - m₁.log2) := Nat.mul_le_mul_right _ hself₁
  have hq : 2 ^ 52 ≤ m₁ * 2 ^ (53 + m₂.log2 - m₁.log2) / m₂ :=
    (Nat.le_div_iff_mul_le hm₂).2 hwide
  exact (Nat.le_log2 (by omega)).2 hq

/-- A quotient of magnitudes below `2^N` is divided at an exponent at most
`N - 53`, or at the least one. -/
theorem divCore_exponent_le {m₁ m₂ : Nat} {e₁ e₂ : Int} (h₁ : 0 < m₁) (h₂ : 0 < m₂) {N : Int}
    (h : (m₁ : ℚ) * 2 ^ e₁ / (m₂ * 2 ^ e₂) < 2 ^ N) :
    (divCore Format.binary64 m₁ e₁ m₂ e₂).2.1 ≤ max (N - 53) (-1074) := by
  have hL₁ : (2 : ℚ) ^ (m₁.log2 : Int) ≤ m₁ := by
    rw [zpow_natCast]
    exact_mod_cast Nat.log2_self_le h₁.ne'
  have hL₂ : (m₂ : ℚ) < 2 ^ ((m₂.log2 : Int) + 1) := by
    rw [← Nat.cast_one, ← Nat.cast_add, zpow_natCast]
    exact_mod_cast Nat.lt_log2_self
  -- the quotient is above `2^(log₂ m₁ - log₂ m₂ + e₁ - e₂ - 1)`
  have hlow : (2 : ℚ) ^ ((m₁.log2 : Int) - m₂.log2 + e₁ - e₂ - 1) < m₁ * 2 ^ e₁ / (m₂ * 2 ^ e₂) := by
    have hsplit : (2 : ℚ) ^ ((m₁.log2 : Int) - m₂.log2 + e₁ - e₂ - 1) =
        2 ^ (m₁.log2 : Int) * 2 ^ e₁ / (2 ^ ((m₂.log2 : Int) + 1) * 2 ^ e₂) := by
      rw [← zpow_add₀ two_ne_zero, ← zpow_add₀ two_ne_zero, ← zpow_sub₀ two_ne_zero]
      congr 1
      ring
    rw [hsplit]
    exact div_lt_div₀' (mul_le_mul_of_nonneg_right hL₁ (zpow_pos two_pos e₁).le)
      (mul_lt_mul_of_pos_right hL₂ (zpow_pos two_pos e₂)) (by positivity) (by positivity)
  have hsizes := (zpow_lt_zpow_iff_right₀ one_lt_two).1 (hlow.trans h)
  rw [divCore_exponent]
  omega

/-- A quotient of magnitudes below `2^N` is rounded at an exponent at most
`N - 53`, or at the least one: the cut quotient is below `2^N` too. -/
theorem divCore_round_exponent_le {m₁ m₂ : Nat} {e₁ e₂ : Int} (h₁ : 0 < m₁) (hlt : m₁ < 2 ^ 53)
    (h₂ : 0 < m₂) {N : Int} (h : (m₁ : ℚ) * 2 ^ e₁ / (m₂ * 2 ^ e₂) < 2 ^ N) :
    max (((divCore Format.binary64 m₁ e₁ m₂ e₂).1.log2 : Int) +
      (divCore Format.binary64 m₁ e₁ m₂ e₂).2.1 - 52) (-1074) ≤ max (N - 53) (-1074) := by
  have hTN := divCore_exponent_le h₁ h₂ h
  have hc := divCore_cut e₁ e₂ h₁ hlt h₂
  have hqlo := (quotient_bounds m₁ e₁ h₂ e₂).1
  set q := (divCore Format.binary64 m₁ e₁ m₂ e₂).1
  set T := (divCore Format.binary64 m₁ e₁ m₂ e₂).2.1
  by_cases hq0 : q = 0
  · -- an empty cut sits at the least exponent
    rw [hq0] at hc ⊢
    simp only [Nat.log2_zero, Nat.cast_zero, zero_add] at hc ⊢
    omega
  · have hlt' : |((q : Int) : ℚ) * 2 ^ T| < 2 ^ N := by
      rw [Int.cast_natCast, abs_of_nonneg (by positivity)]
      exact hqlo.trans_lt h
    have hlog := log2_add_lt (by exact_mod_cast hq0) hlt'
    rw [Int.natAbs_natCast] at hlog
    omega

/-! ## Quotients of doubles -/

section Quotient

variable {x y : Float} {s₁ s₂ : Sign} {m₁ m₂ : Nat} {e₁ e₂ : Int} {h₁ : 0 < m₁} {h₂ : 0 < m₂}

/-- Dividing nonzero doubles: the model cuts the quotient of the mantissas at an
exponent with room for 53 bits, keeps what the cut lost as an accuracy, and
rounds. -/
theorem div_toModel (hx : x.toModel.unpack = .finite s₁ m₁ e₁ h₁)
    (hy : y.toModel.unpack = .finite s₂ m₂ e₂ h₂) :
    (x / y).toModel = Float.Model.pack (roundWithAccuracy Format.binary64 (s₁ / s₂)
      (divCore Format.binary64 m₁ e₁ m₂ e₂).1 (divCore Format.binary64 m₁ e₁ m₂ e₂).2.1
      (divCore Format.binary64 m₁ e₁ m₂ e₂).2.2) := by
  show Float.Model.pack (UnpackedFloat.div Format.binary64 x.toModel.unpack y.toModel.unpack) = _
  rw [hx, hy]
  rfl

/-- The exact quotient of two nonzero doubles from their fields: the sign of the
quotient times the quotient of the magnitudes. -/
theorem value_div_value (hv₁ : value x = (s₁.apply m₁ : ℚ) * 2 ^ e₁)
    (hv₂ : value y = (s₂.apply m₂ : ℚ) * 2 ^ e₂) :
    value x / value y = ((s₁ / s₂).apply 1 : ℚ) * (m₁ * 2 ^ e₁ / (m₂ * 2 ^ e₂)) := by
  have hsign : ∀ (s : Sign) (m : Nat), (s.apply m : ℚ) = (s.apply 1 : ℚ) * m := by
    intro s m
    cases s <;> simp [Sign.apply]
  rw [hv₁, hv₂, hsign s₁, hsign s₂, mul_assoc, mul_assoc, apply_one_div]

end Quotient

section Quotients

variable {x y : Float}

/-- The quotient of two nonzero finite doubles below `2^N` is finite and within
`2^(N - 52)` of the exact quotient (or twice the least step): the cut and the
rounding each lose at most one step. -/
theorem div_error (hx : x.isFinite = true) (hy : y.isFinite = true) (hx0 : value x ≠ 0)
    (hy0 : value y ≠ 0) {N : Int} (hN : N ≤ 1023) (h : |value x / value y| < 2 ^ N) :
    (x / y).isFinite = true ∧ |value (x / y) - value x / value y| ≤ 2 ^ max (N - 52) (-1073) := by
  obtain ⟨s₁, m₁, e₁, h₁, hu₁, hs₁, -, hv₁⟩ := unpack_of_value_ne_zero hx hx0
  obtain ⟨s₂, m₂, e₂, h₂, hu₂, -, -, hv₂⟩ := unpack_of_value_ne_zero hy hy0
  have hval := value_div_value hv₁ hv₂
  have hQN : (m₁ : ℚ) * 2 ^ e₁ / (m₂ * 2 ^ e₂) < 2 ^ N := by
    rwa [hval, abs_mul, abs_apply_one, one_mul, abs_of_pos (by positivity)] at h
  obtain ⟨hqlo, hqhi⟩ := quotient_bounds m₁ e₁ h₂ e₂
  have hc := divCore_cut e₁ e₂ h₁ hs₁.lt h₂
  have hqN := divCore_round_exponent_le h₁ hs₁.lt h₂ hQN
  set q := (divCore Format.binary64 m₁ e₁ m₂ e₂).1 with hq
  set T := (divCore Format.binary64 m₁ e₁ m₂ e₂).2.1 with hT
  set Q : ℚ := m₁ * 2 ^ e₁ / (m₂ * 2 ^ e₂) with hQ
  rw [add_mul, one_mul] at hqhi
  obtain ⟨hfits, herr⟩ := roundWithAccuracy_error (s₁ / s₂) (divCore Format.binary64 m₁ e₁ m₂ e₂).2.2
    hc (by omega)
  obtain ⟨hfin, hz⟩ := value_of_toModel (div_toModel hu₁ hu₂) hfits
  refine ⟨hfin, ?_⟩
  rw [hz, hval]
  set u := unpackedValue (roundWithAccuracy Format.binary64 (s₁ / s₂) q T
    (divCore Format.binary64 m₁ e₁ m₂ e₂).2.2)
  set t := max ((q.log2 : Int) + T - 52) (-1074) with ht
  -- the cut loses less than a step at `T`, which is at most the step rounded to
  have hcut : |((s₁ / s₂).apply q : ℚ) * 2 ^ T - ((s₁ / s₂).apply 1 : ℚ) * Q| ≤ 2 ^ t := by
    have hstep : |(q : ℚ) * 2 ^ T - Q| ≤ 2 ^ T := abs_le.2 ⟨by linarith, by linarith⟩
    rw [abs_apply_sub_apply_one]
    exact hstep.trans (zpow_le_zpow_right₀ one_le_two (by omega))
  calc |u - ((s₁ / s₂).apply 1 : ℚ) * Q|
      ≤ |u - ((s₁ / s₂).apply q : ℚ) * 2 ^ T| + |((s₁ / s₂).apply q : ℚ) * 2 ^ T - ((s₁ / s₂).apply 1 : ℚ) * Q| :=
        abs_sub_le _ _ _
    _ ≤ 2 ^ t + 2 ^ t := add_le_add herr hcut
    _ = 2 ^ (t + 1) := by rw [zpow_add_one₀ two_ne_zero]; ring
    _ ≤ 2 ^ max (N - 52) (-1073) := zpow_le_zpow_right₀ one_le_two (by omega)

/-- A zero over a nonzero finite double is a zero. -/
theorem div_of_value_eq_zero (hx : x.isFinite = true) (h0 : value x = 0) (hy : y.isFinite = true)
    (hy0 : value y ≠ 0) : (x / y).isFinite = true ∧ value (x / y) = 0 := by
  obtain ⟨s, hu⟩ := unpack_of_value_eq_zero hx h0
  obtain ⟨s', m', e', hm', hu', -⟩ := unpack_of_value_ne_zero hy hy0
  have hz : (x / y).toModel = Float.Model.pack (.zero (s / s')) := by
    show Float.Model.pack (UnpackedFloat.div Format.binary64 x.toModel.unpack y.toModel.unpack) = _
    rw [hu, hu']
    rfl
  exact value_of_toModel hz trivial

end Quotients

end Binary64
end Geocube
