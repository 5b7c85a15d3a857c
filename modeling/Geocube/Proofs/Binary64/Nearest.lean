import Geocube.Proofs.Binary64.Rounding

/-!
Rounding to nearest in the model of doubles.

The model cuts a mantissa one bit at a time (`shiftRightOne`), keeping the last
bit cut off (the round bit) and whether any bit below it was set (the sticky
bit). Cut from an exact mantissa `m` by `j + 1` bits these are bit `j` of `m`
and whether `m mod 2^j` is nonzero (`shiftRight_exact`), so the rounded
mantissa is `roundHalfEven m (2^j)`, the nearest quotient with ties to the even
one (`roundedMantissa_shiftRight`). Rounding thus moves a number by at most half
a step at the exponent it rounds to (`round_near`), where `round_error` allows a
whole step.

For doubles: the sum or difference of two nonzero finite doubles below `2^N` is
within `2^(N - 54)` of the exact one (`add_half_error`, `sub_half_error`), and
an exact result that is a whole multiple of `2^g` below `2^(g + 53)` comes out
as it is, whatever the exponents of the operands (`add_exact_of_multiple`,
`sub_exact_of_multiple`). A zero added to a double gives the double back
(`add_of_value_eq_zero`).
-/

namespace Geocube
namespace Binary64
open Float.Model Float.Model.UnpackedFloat

/-! ## The round and sticky bits -/

/-- Cutting an exact mantissa `m` by `j + 1` bits keeps `m / 2^(j+1)`, with bit
`j` of `m` as the round bit and the bits below it as the sticky bit. -/
theorem shiftRight_exact (m : Nat) : ∀ j : Nat,
    (⟨m, false, false⟩ : ExtendedMantissa) >>> (j + 1) =
      ⟨m / 2 ^ (j + 1), m / 2 ^ j % 2 != 0, m % 2 ^ j != 0⟩
  | 0 => by
    change ExtendedMantissa.shiftRightOne ⟨m, false, false⟩ = _
    simp [ExtendedMantissa.shiftRightOne, Nat.mod_one]
  | j + 1 => by
    change ExtendedMantissa.shiftRightOne ((⟨m, false, false⟩ : ExtendedMantissa) >>> (j + 1)) = _
    rw [shiftRight_exact m j]
    -- the bits cut so far are bit `j` and the bits below it
    have hmod : m % 2 ^ (j + 1) = m % 2 ^ j + 2 ^ j * (m / 2 ^ j % 2) := Nat.mod_pow_succ
    have hsticky : (m / 2 ^ j % 2 != 0 || m % 2 ^ j != 0) = (m % 2 ^ (j + 1) != 0) := by
      rcases Nat.mod_two_eq_zero_or_one (m / 2 ^ j) with hb | hb <;>
        simp [hmod, hb]
    simp only [ExtendedMantissa.shiftRightOne, Nat.div_div_eq_div_mul, ← pow_succ, hsticky]

/-- The rounded mantissa of an exact mantissa `m` cut by `j` bits is the nearest
quotient of `m` by `2^j`, ties to the even one. -/
theorem roundedMantissa_shiftRight (m : Nat) : ∀ j : Nat,
    ((⟨m, false, false⟩ : ExtendedMantissa) >>> j).roundedMantissa = roundHalfEven m (2 ^ j)
  | 0 => by
    rw [pow_zero, roundHalfEven_one]
    rfl
  | j + 1 => by
    rw [shiftRight_exact]
    unfold roundHalfEven
    -- the remainder by `2^(j+1)` is bit `j` above the bits below it
    have hmod : m % 2 ^ (j + 1) = m % 2 ^ j + 2 ^ j * (m / 2 ^ j % 2) := Nat.mod_pow_succ
    have hlow : m % 2 ^ j < 2 ^ j := Nat.mod_lt _ (Nat.two_pow_pos j)
    have hpow : 2 ^ (j + 1) = 2 * 2 ^ j := by rw [pow_succ, mul_comm]
    have hP : 0 < 2 ^ j := Nat.two_pow_pos j
    generalize m / 2 ^ (j + 1) = q
    rw [hmod, hpow]
    -- four cases: bit `j` of `m` clear or set, the bits below it zero or not
    rcases Nat.mod_two_eq_zero_or_one (m / 2 ^ j) with hb | hb <;> rw [hb] <;>
      clear hmod hpow hb <;> generalize m % 2 ^ j = low at * <;> generalize 2 ^ j = P at * <;>
      by_cases hs : low = 0
    all_goals
      first
        | subst hs
        | rw [bne_iff_ne.2 hs]
      simp [ExtendedMantissa.roundedMantissa, ExtendedMantissa.accuracy,
        Accuracy.roundToNearestEven, Nat.pos_iff_ne_zero.1 hP] <;>
        first
          | omega
          | split <;> omega

/-- The nearest quotient by `d`, times `d`, is within `d / 2` of the dividend. -/
theorem roundHalfEven_mul_near (m : Nat) {d : Nat} (hd : 0 < d) :
    2 * (roundHalfEven m d * d) ≤ 2 * m + d ∧ 2 * m ≤ 2 * (roundHalfEven m d * d) + d := by
  have hdiv : d * (m / d) + m % d = m := Nat.div_add_mod m d
  have hlt : m % d < d := Nat.mod_lt m hd
  unfold roundHalfEven
  generalize m / d = q at *
  generalize m % d = r at *
  rw [Nat.mul_comm d q] at hdiv
  dsimp only
  split
  · -- rounded up: the remainder is at least half of `d`
    rename_i hup
    simp only [Bool.or_eq_true, decide_eq_true_eq, Bool.and_eq_true, beq_iff_eq] at hup
    rw [Nat.add_mul, Nat.one_mul]
    omega
  · rename_i hdown
    simp only [Bool.or_eq_true, decide_eq_true_eq, Bool.and_eq_true, beq_iff_eq, not_or] at hdown
    omega

/-! ## Rounding a mantissa to nearest -/

/-- Rounding `m · 2^e` gives a whole number `R` of steps `2^t` at the exponent
`t` it rounds to, within half a step of the number. -/
theorem round_near (s : Sign) {m : Nat} (hm : 0 < m) (e : Int) :
    ∃ R : Nat, unpackedValue (UnpackedFloat.round Format.binary64 s m e) =
        (s.apply R : ℚ) * 2 ^ max ((m.log2 : Int) + e - 52) (-1074) ∧
      |(R : ℚ) * 2 ^ max ((m.log2 : Int) + e - 52) (-1074) - m * 2 ^ e| ≤
        2 ^ max ((m.log2 : Int) + e - 52) (-1074) / 2 := by
  rw [round_eq_aligned, unpackedValue_roundWithAccuracy]
  set t := Format.binary64.targetExponent (totalExponent m e) with ht
  have ht' : t = max ((m.log2 : Int) + e - 52) (-1074) := targetExponent_eq m e
  set k := (e - t).toNat with hk
  set j := (t - (e - (k : Int))).toNat with hj
  have htarget := targetExponent_shiftLeft hm e k
  have hsnd : (shiftToTargetExponent Format.binary64 (m <<< k) (e - k) .exact).2 = t := by
    rw [shiftToTargetExponent_snd, htarget]
    omega
  -- the mantissa moved left by `k` is cut by `j` bits
  have hfst : (shiftToTargetExponent Format.binary64 (m <<< k) (e - k) .exact).1 =
      (⟨m <<< k, false, false⟩ : ExtendedMantissa) >>> j := by
    simp only [shiftToTargetExponent, shiftToExponent, htarget]
    rfl
  refine ⟨roundHalfEven (m <<< k) (2 ^ j), ?_, ?_⟩
  · rw [hsnd, hfst, roundedMantissa_shiftRight, ← ht']
  · rw [← ht']
    have hexp : t = (e - k) + j := by omega
    have hpos : (0 : ℚ) < 2 ^ (e - k : Int) := zpow_pos two_pos _
    obtain ⟨hup, hdown⟩ := roundHalfEven_mul_near (m <<< k) (Nat.two_pow_pos j)
    have hup' : 2 * ((roundHalfEven (m <<< k) (2 ^ j) : ℚ) * 2 ^ j) ≤ 2 * (m <<< k : Nat) + 2 ^ j := by
      exact_mod_cast hup
    have hdown' : 2 * ((m <<< k : Nat) : ℚ) ≤ 2 * ((roundHalfEven (m <<< k) (2 ^ j) : ℚ) * 2 ^ j) + 2 ^ j := by
      exact_mod_cast hdown
    -- in steps of `2^(e - k)`, the error is at most `2^j / 2`
    have hsteps : |(roundHalfEven (m <<< k) (2 ^ j) : ℚ) * 2 ^ j - (m <<< k : Nat)| ≤ 2 ^ j / 2 :=
      abs_le.2 ⟨by linarith, by linarith⟩
    calc |(roundHalfEven (m <<< k) (2 ^ j) : ℚ) * 2 ^ t - m * 2 ^ e|
        = |(roundHalfEven (m <<< k) (2 ^ j) : ℚ) * 2 ^ j - (m <<< k : Nat)| * 2 ^ (e - k : Int) := by
          rw [← shiftLeft_value m k e, hexp, zpow_add₀ two_ne_zero, zpow_natCast, ← abs_of_pos hpos,
            ← abs_mul, abs_of_pos hpos]
          ring_nf
      _ ≤ 2 ^ j / 2 * 2 ^ (e - k : Int) := mul_le_mul_of_nonneg_right hsteps hpos.le
      _ = 2 ^ t / 2 := by
          rw [hexp, zpow_add₀ two_ne_zero, zpow_natCast]
          ring

/-- Normalizing `M · 2^e` gives a whole number `R` of steps `2^t` at the
exponent `t` it rounds to, within half a step of the number. -/
theorem normalize_near (M e : Int) (zs : Sign) :
    ∃ R : Int, unpackedValue (UnpackedFloat.normalize Format.binary64 M e zs) =
        R * 2 ^ max ((M.natAbs.log2 : Int) + e - 52) (-1074) ∧
      |(R : ℚ) * 2 ^ max ((M.natAbs.log2 : Int) + e - 52) (-1074) - M * 2 ^ e| ≤
        2 ^ max ((M.natAbs.log2 : Int) + e - 52) (-1074) / 2 := by
  by_cases h0 : M = 0
  · subst h0
    have hz : UnpackedFloat.normalize Format.binary64 0 e zs = .zero zs := rfl
    refine ⟨0, by simp [hz, unpackedValue], ?_⟩
    simp only [Int.cast_zero, zero_mul, sub_zero, abs_zero]
    positivity
  · obtain ⟨R, hval, herr⟩ :=
      round_near (if M < 0 then .negative else .positive) (Int.natAbs_pos.2 h0) e
    refine ⟨(if M < 0 then Sign.negative else .positive).apply R, ?_, ?_⟩
    · rw [normalize_eq_round h0, hval]
    · rw [← apply_sign_natAbs M, abs_apply_mul_sub]
      exact herr

/-! ## Rounding a combination of two doubles to nearest -/

/-- A double computed as the rounding of `M · 2^e`, a number `D` below `2^N`,
is finite and within `2^(N - 54)` of `D` (or half the least step). -/
theorem rounded_half_error {z : Float} {M e N : Int} {D : ℚ}
    (hz : z.toModel = Float.Model.pack (UnpackedFloat.normalize Format.binary64 M e .positive))
    (hD : (M : ℚ) * 2 ^ e = D) (hN : N ≤ 1023) (h : |D| < 2 ^ N) :
    z.isFinite = true ∧ |value z - D| ≤ 2 ^ max (N - 54) (-1075) := by
  subst hD
  obtain ⟨hfits, -⟩ := normalize_error_of_lt .positive hN h
  obtain ⟨hfin, hval⟩ := value_of_toModel hz hfits
  refine ⟨hfin, ?_⟩
  obtain ⟨R, hR, herr⟩ := normalize_near M e .positive
  rw [hval, hR]
  by_cases h0 : M = 0
  · subst h0
    have hzero : UnpackedFloat.normalize Format.binary64 0 e .positive = .zero .positive := rfl
    rw [← hR, hzero]
    simp only [unpackedValue, Int.cast_zero, zero_mul, sub_zero, abs_zero]
    positivity
  · -- half a step at an exponent at most `N - 53`
    have hlt := log2_add_lt h0 h
    refine le_trans herr ?_
    rw [div_eq_mul_inv, ← zpow_neg_one, ← zpow_add₀ two_ne_zero]
    exact zpow_le_zpow_right₀ one_le_two (by omega)

/-- A double computed as the rounding of `M · 2^e`, a number `D` that is a whole
multiple of `2^g` below `2^(g + 53)`, is exactly `D`. -/
theorem rounded_exact_of_multiple {z : Float} {M e K g : Int} {D : ℚ}
    (hz : z.toModel = Float.Model.pack (UnpackedFloat.normalize Format.binary64 M e .positive))
    (hD : (M : ℚ) * 2 ^ e = D) (hK : D = K * 2 ^ g) (hg : -1074 ≤ g) (hg' : g ≤ 970)
    (h : |D| < 2 ^ (g + 53)) : z.isFinite = true ∧ value z = D := by
  subst hD
  obtain ⟨hfits, -⟩ := normalize_error_of_lt .positive (by omega) h
  obtain ⟨hfin, hval⟩ := value_of_toModel hz hfits
  refine ⟨hfin, ?_⟩
  obtain ⟨R, hR, herr⟩ := normalize_near M e .positive
  rw [hval, hR]
  by_cases h0 : M = 0
  · subst h0
    have hzero : UnpackedFloat.normalize Format.binary64 0 e .positive = .zero .positive := rfl
    rw [← hR, hzero]
    simp [unpackedValue]
  · -- the exponent rounded to is at most `g`, so both numbers are whole numbers of
    -- steps there, less than a step apart
    have hlt := log2_add_lt h0 h
    set t := max ((M.natAbs.log2 : Int) + e - 52) (-1074) with ht
    have htg : t ≤ g := by omega
    have hpos : (0 : ℚ) < 2 ^ t := zpow_pos two_pos t
    have hsteps : (K : ℚ) * 2 ^ g = (K * 2 ^ (g - t).toNat : Int) * 2 ^ t := by
      rw [Int.cast_mul, Int.cast_pow, Int.cast_ofNat, mul_assoc, ← zpow_natCast,
        ← zpow_add₀ two_ne_zero]
      congr 2
      omega
    rw [hK, hsteps] at herr ⊢
    have hn : |((R - K * 2 ^ (g - t).toNat : Int) : ℚ)| < 1 := by
      rw [Int.cast_sub, ← mul_lt_mul_iff_of_pos_right hpos, ← abs_of_pos hpos, ← abs_mul,
        abs_of_pos hpos, sub_mul, one_mul]
      linarith
    have hn' : R - K * 2 ^ (g - t).toNat = 0 := by
      rw [← Int.abs_lt_one_iff]
      exact_mod_cast hn
    rw [show R = K * 2 ^ (g - t).toNat by omega]

/-! ## Sums and differences of doubles -/

variable {x y : Float}

/-- The sum of two nonzero finite doubles below `2^N` is finite and within
`2^(N - 54)` of the exact sum (or half the least step). -/
theorem add_half_error (hx : x.isFinite = true) (hy : y.isFinite = true) (hx0 : value x ≠ 0)
    (hy0 : value y ≠ 0) {N : Int} (hN : N ≤ 1023) (h : |value x + value y| < 2 ^ N) :
    (x + y).isFinite = true ∧ |value (x + y) - (value x + value y)| ≤ 2 ^ max (N - 54) (-1075) := by
  obtain ⟨s₁, m₁, e₁, h₁, hu₁, -, -, hv₁⟩ := unpack_of_value_ne_zero hx hx0
  obtain ⟨s₂, m₂, e₂, h₂, hu₂, -, -, hv₂⟩ := unpack_of_value_ne_zero hy hy0
  exact rounded_half_error (add_toModel hu₁ hu₂) (aligned_add_value hv₁ hv₂) hN h

/-- The difference of two nonzero finite doubles below `2^N`, likewise. -/
theorem sub_half_error (hx : x.isFinite = true) (hy : y.isFinite = true) (hx0 : value x ≠ 0)
    (hy0 : value y ≠ 0) {N : Int} (hN : N ≤ 1023) (h : |value x - value y| < 2 ^ N) :
    (x - y).isFinite = true ∧ |value (x - y) - (value x - value y)| ≤ 2 ^ max (N - 54) (-1075) := by
  obtain ⟨s₁, m₁, e₁, h₁, hu₁, -, -, hv₁⟩ := unpack_of_value_ne_zero hx hx0
  obtain ⟨s₂, m₂, e₂, h₂, hu₂, -, -, hv₂⟩ := unpack_of_value_ne_zero hy hy0
  exact rounded_half_error (sub_toModel hu₁ hu₂) (aligned_sub_value hv₁ hv₂) hN h

/-- Adding a double to a zero gives the double back. -/
theorem add_of_value_eq_zero (hx : x.isFinite = true) (h0 : value x = 0) (hy : y.isFinite = true)
    (hy0 : value y ≠ 0) : x + y = y := by
  obtain ⟨_, hu⟩ := unpack_of_value_eq_zero hx h0
  obtain ⟨s, m', e', hm', hu', -⟩ := unpack_of_value_ne_zero hy hy0
  -- the model adds a zero by handing back the other operand
  have hsum : (x + y).toModel = y.toModel := by
    show Float.Model.pack (UnpackedFloat.add Format.binary64 x.toModel.unpack y.toModel.unpack) = _
    rw [hu, hu']
    show Float.Model.pack (.finite s m' e' hm') = _
    rw [← hu', model_pack_unpack]
  calc x + y = Float.ofModel (x + y).toModel := rfl
    _ = y := by rw [hsum]

/-- Two nonzero finite doubles whose exact sum is a whole multiple of `2^g`
below `2^(g + 53)` add exactly. -/
theorem add_exact_of_multiple (hx : x.isFinite = true) (hy : y.isFinite = true)
    (hx0 : value x ≠ 0) (hy0 : value y ≠ 0) {K g : Int} (hK : value x + value y = K * 2 ^ g)
    (hg : -1074 ≤ g) (hg' : g ≤ 970) (h : |value x + value y| < 2 ^ (g + 53)) :
    (x + y).isFinite = true ∧ value (x + y) = value x + value y := by
  obtain ⟨s₁, m₁, e₁, h₁, hu₁, -, -, hv₁⟩ := unpack_of_value_ne_zero hx hx0
  obtain ⟨s₂, m₂, e₂, h₂, hu₂, -, -, hv₂⟩ := unpack_of_value_ne_zero hy hy0
  exact rounded_exact_of_multiple (add_toModel hu₁ hu₂) (aligned_add_value hv₁ hv₂) hK hg hg' h

/-- Two nonzero finite doubles whose exact difference is a whole multiple of
`2^g` below `2^(g + 53)` subtract exactly. -/
theorem sub_exact_of_multiple (hx : x.isFinite = true) (hy : y.isFinite = true)
    (hx0 : value x ≠ 0) (hy0 : value y ≠ 0) {K g : Int} (hK : value x - value y = K * 2 ^ g)
    (hg : -1074 ≤ g) (hg' : g ≤ 970) (h : |value x - value y| < 2 ^ (g + 53)) :
    (x - y).isFinite = true ∧ value (x - y) = value x - value y := by
  obtain ⟨s₁, m₁, e₁, h₁, hu₁, -, -, hv₁⟩ := unpack_of_value_ne_zero hx hx0
  obtain ⟨s₂, m₂, e₂, h₂, hu₂, -, -, hv₂⟩ := unpack_of_value_ne_zero hy hy0
  exact rounded_exact_of_multiple (sub_toModel hu₁ hu₂) (aligned_sub_value hv₁ hv₂) hK hg hg' h

end Binary64
end Geocube
