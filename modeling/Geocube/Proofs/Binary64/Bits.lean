import Geocube.Proofs.Binary64.Order
import Mathlib.Algebra.Order.Field.Power
import Mathlib.Data.Rat.Cast.Order

/-!
Doubles as bit patterns.

`Binary64.decode` reads the sign, exponent and fraction fields of a word with
natural-number arithmetic; the logic's model of `Float` unpacks the same fields
as bit vectors, and a word is NaN there exactly when its exponent field is all
ones and its fraction is not zero (`unpack_isNaN_iff`), and finite when its
exponent field is not all ones, which is when `decode` reads it as a finite
value (`decode_of_isFinite`). Packing an unpacked
value and unpacking it again keeps whether it is NaN (`isNaN_unpack_pack`).

The model packs every valid word back from its unpacked form (`pack_unpack`),
so a word whose exponent field is below all ones reads back as the finite value
its fields give (`decode_pack`). `decode` and the model read the same fields:
they agree on every finite word and every infinity (`unpack_of_decode`,
`unpack_of_decode_infinite`).

`Binary64.ofRatio` rounds a ratio of naturals to a word: its exponent bounds the
quotient from above (`lt_scale`), so the rounded mantissa has at most 53 bits,
and the word it packs is a finite value or an infinity, never NaN
(`ofRatio_fields`, `ofRatio_isNaN`). Every integer is therefore a number as a
double (`ofInt_isNaN`).
-/

namespace Geocube

@[simp] theorem pow2_eq (n : Nat) : pow2 n = 2 ^ n := rfl

namespace Binary64
open Float.Model

/-- A double is its word. -/
theorem toBits_injective : Function.Injective Float.toBits := by
  rintro ⟨⟨a, ha⟩⟩ ⟨⟨b, hb⟩⟩ h
  change a = b at h
  subst h
  rfl

theorem unpackExponent_toNat (b : BitVec 64) :
    (@UnpackedFloat.unpackExponent Format.binary64 b).toNat = b.toNat / 2 ^ 52 % 2048 := by
  simp [UnpackedFloat.unpackExponent, Format.binary64, Nat.shiftRight_eq_div_pow]

theorem unpackMantissa_toNat (b : BitVec 64) :
    (@UnpackedFloat.unpackMantissa Format.binary64 b).toNat = b.toNat % 2 ^ 52 := by
  simp [UnpackedFloat.unpackMantissa, Format.binary64]

/-- A word is NaN when its exponent field is all ones and its fraction is not zero. -/
theorem unpack_isNaN_iff (b : BitVec 64) :
    (UnpackedFloat.unpack Format.binary64 b).isNaN = true ↔
      b.toNat / 2 ^ 52 % 2048 = 2047 ∧ b.toNat % 2 ^ 52 ≠ 0 := by
  rw [← unpackExponent_toNat, ← unpackMantissa_toNat]
  unfold UnpackedFloat.unpack
  simp only
  split_ifs <;> simp_all [UnpackedFloat.isNaN, ← BitVec.toNat_inj]

/-- Packing keeps whether a value is NaN: every pattern but the canonical NaN
has a fraction of zero or an exponent field below all ones. -/
theorem isNaN_unpack_pack (g : UnpackedFloat) :
    (UnpackedFloat.unpack Format.binary64 (UnpackedFloat.pack Format.binary64 g)).isNaN = g.isNaN := by
  fun_cases UnpackedFloat.pack Format.binary64 g with
  | case1 => decide
  | case2 s => simp [UnpackedFloat.packedInfinity, UnpackedFloat.unpack, UnpackedFloat.isNaN]
  | case3 s => simp [UnpackedFloat.packedZero, UnpackedFloat.unpack, UnpackedFloat.isNaN]
  | case4 s m e hm b h => simp [UnpackedFloat.packedInfinity, UnpackedFloat.unpack, UnpackedFloat.isNaN]
  | case5 s m e hm k b h₁ h₂ =>
    have hb : BitVec.ofNat 11 b ≠ 2047#11 := by
      simp [← BitVec.toNat_inj] at h₁ ⊢
      omega
    simp [UnpackedFloat.unpack, UnpackedFloat.isNaN, hb]
    split_ifs <;> rfl
  | case6 s m e hm k b h₁ h₂ =>
    simp [UnpackedFloat.unpack, UnpackedFloat.isNaN]
    split_ifs <;> rfl

/-- Reading a word canonicalises NaN and keeps every other word. -/
theorem isNaN_ofBits (u : UInt64) :
    (Float.ofBits u).isNaN = (UnpackedFloat.unpack Format.binary64 u.toBitVec).isNaN := by
  rw [isNaN_eq]
  show (UnpackedFloat.unpack Format.binary64 (UInt64.ofBitVec (UnpackedFloat.pack Format.binary64
    (UnpackedFloat.unpack Format.binary64 u.toBitVec))).toBitVec).isNaN = _
  rw [UInt64.toBitVec_ofBitVec, isNaN_unpack_pack]

/-- A word whose exponent field is not all ones, or whose fraction is zero, is
not NaN. -/
theorem isNaN_pack {neg : Bool} {biased frac : Nat}
    (h : biased < 2047 ∧ frac < 2 ^ 52 ∨ biased = 2047 ∧ frac = 0) :
    (pack neg biased frac).isNaN = false := by
  unfold pack
  rw [isNaN_ofBits, Bool.eq_false_iff, ne_eq, unpack_isNaN_iff]
  simp only [UInt64.toBitVec_ofNat', BitVec.toNat_ofNat, pow2_eq]
  split <;> omega

/-! ## Words and their fields -/

theorem unpackSign_toNat (b : BitVec 64) :
    (@UnpackedFloat.unpackSign Format.binary64 b).toNat = b.toNat / 2 ^ 63 := by
  have hb := b.isLt
  simp [UnpackedFloat.unpackSign, Format.binary64, Nat.shiftRight_eq_div_pow]
  omega

theorem packComponents_toNat (s : UnpackedFloat.Sign) (e : BitVec 11) (m : BitVec 52) :
    (UnpackedFloat.packComponents Format.binary64 s e m).toNat =
      s.toBitVec.toNat * 2 ^ 63 + e.toNat * 2 ^ 52 + m.toNat := by
  have he := e.isLt
  have hm := m.isLt
  simp only [UnpackedFloat.packComponents, BitVec.toNat_append]
  rw [← Nat.shiftLeft_add_eq_or_of_lt hm, ← Nat.shiftLeft_add_eq_or_of_lt he, Nat.shiftLeft_eq,
    Nat.shiftLeft_eq]
  omega

theorem sign_toBitVec_ofBitVec (s : BitVec 1) : (UnpackedFloat.Sign.ofBitVec s).toBitVec = s := by
  unfold UnpackedFloat.Sign.ofBitVec
  split_ifs with h
  · exact h.symm
  · have : s = 1#1 := by
      rw [← BitVec.toNat_inj] at h ⊢
      have := s.isLt
      simp at h ⊢
      omega
    exact this.symm

/-- A word is its sign, exponent and mantissa fields put together. -/
theorem eq_packComponents (b : BitVec 64) :
    b = UnpackedFloat.packComponents Format.binary64
      (UnpackedFloat.Sign.ofBitVec (@UnpackedFloat.unpackSign Format.binary64 b))
      (UnpackedFloat.unpackExponent b) (UnpackedFloat.unpackMantissa b) := by
  apply BitVec.eq_of_toNat_eq
  rw [packComponents_toNat, sign_toBitVec_ofBitVec, unpackSign_toNat, unpackExponent_toNat,
    unpackMantissa_toNat]
  have := b.isLt
  omega

theorem toNat_one_append (f : BitVec 52) : (1#1 ++ f).toNat = 2 ^ 52 + f.toNat := by
  rw [BitVec.toNat_append, ← Nat.shiftLeft_add_eq_or_of_lt f.isLt, Nat.shiftLeft_eq]
  rfl

@[simp] theorem binary64_exponentBias : Format.binary64.exponentBias = 1023 := rfl

@[simp] theorem binary64_mantissaBits : Format.binary64.mantissaBits = 53 := rfl

/-- Every valid word is packed back from its unpacked form. -/
theorem pack_unpack {b : BitVec 64} (h : Format.binary64.Valid b) :
    UnpackedFloat.pack Format.binary64 (UnpackedFloat.unpack Format.binary64 b) = b := by
  have hE : (@UnpackedFloat.unpackExponent Format.binary64 b).toNat < 2048 :=
    (@UnpackedFloat.unpackExponent Format.binary64 b).isLt
  have hF : (@UnpackedFloat.unpackMantissa Format.binary64 b).toNat < 2 ^ 52 :=
    (@UnpackedFloat.unpackMantissa Format.binary64 b).isLt
  unfold UnpackedFloat.unpack
  simp only
  split_ifs with he hm hz hm'
  · conv_rhs => rw [eq_packComponents b]
    simp [UnpackedFloat.pack, UnpackedFloat.packedInfinity, he, hm]
  · exact (h.eq_packedNaN he hm).symm
  · conv_rhs => rw [eq_packComponents b]
    simp [UnpackedFloat.pack, UnpackedFloat.packedZero, hz, hm']
  · -- a subnormal: exponent field zero, mantissa below the implicit bit
    conv_rhs => rw [eq_packComponents b]
    have hE0 : (@UnpackedFloat.unpackExponent Format.binary64 b).toNat = 0 := by rw [hz]; rfl
    have hF0 : (@UnpackedFloat.unpackMantissa Format.binary64 b).toNat ≠ 0 := fun h0 =>
      hm' (BitVec.eq_of_toNat_eq (by simpa using h0))
    have hlog : (@UnpackedFloat.unpackMantissa Format.binary64 b).toNat.log2 < 52 :=
      (Nat.log2_lt hF0).2 hF
    simp only [UnpackedFloat.pack]
    split_ifs with h1 h2
    · simp [hE0] at h1
    · simp at h2
      omega
    · rw [hz, BitVec.ofNat_toNat, BitVec.setWidth_eq]
  · -- a normal number: the implicit bit above the mantissa field
    conv_rhs => rw [eq_packComponents b]
    have hE0 : (@UnpackedFloat.unpackExponent Format.binary64 b).toNat ≠ 0 := fun h0 =>
      hz (BitVec.eq_of_toNat_eq (by simpa using h0))
    have hE1 : (@UnpackedFloat.unpackExponent Format.binary64 b).toNat ≠ 2047 := fun h0 =>
      he (BitVec.eq_of_toNat_eq (by simpa using h0))
    have hm := toNat_one_append (@UnpackedFloat.unpackMantissa Format.binary64 b)
    have hlog : (2 ^ 52 + (@UnpackedFloat.unpackMantissa Format.binary64 b).toNat).log2 = 52 := by
      rw [Nat.log2_eq_iff (by omega)]
      omega
    simp only [UnpackedFloat.pack]
    split_ifs with h1 h2
    · simp at h1
      omega
    · congr 1
      · apply BitVec.eq_of_toNat_eq
        simp only [BitVec.toNat_ofNat, binary64_exponentBias]
        omega
      · apply BitVec.eq_of_toNat_eq
        simp only [BitVec.toNat_ofNat, hm]
        omega
    · rw [hm, hlog] at h2
      exact absurd rfl h2

/-- Reading a valid word keeps it. -/
theorem toBits_ofBits {u : UInt64} (h : Format.binary64.Valid u.toBitVec) :
    (Float.ofBits u).toBits = u := by
  apply UInt64.toBitVec_inj.1
  exact pack_unpack h

/-- A word with its exponent field below all ones is read as the finite value
its fields give. -/
theorem decode_pack (neg : Bool) {biased frac : Nat} (hb : biased < 2047) (hf : frac < 2 ^ 52) :
    decode (pack neg biased frac) =
      if biased = 0 then .finite neg frac (-1074) else .finite neg (frac + 2 ^ 52) (biased - 1075) := by
  have hu : (UInt64.ofNat ((if neg then pow2 63 else 0) + biased * pow2 52 + frac)).toNat =
      (if neg then 2 ^ 63 else 0) + biased * 2 ^ 52 + frac := by
    rw [UInt64.toNat_ofNat', pow2_eq, pow2_eq]
    split <;> omega
  have hvalid : Format.binary64.Valid
      (UInt64.ofNat ((if neg then pow2 63 else 0) + biased * pow2 52 + frac)).toBitVec := by
    constructor
    intro hexp
    have := congrArg BitVec.toNat hexp
    rw [unpackExponent_toNat, UInt64.toNat_toBitVec, hu] at this
    split at this <;> simp at this <;> omega
  unfold decode pack
  rw [toBits_ofBits hvalid, hu]
  -- the three fields of the word, read back by division
  have hsign : ((if neg then 2 ^ 63 else 0) + biased * 2 ^ 52 + frac) / 2 ^ 63 = if neg then 1 else 0 := by
    split <;> omega
  have hexp : ((if neg then 2 ^ 63 else 0) + biased * 2 ^ 52 + frac) / 2 ^ 52 % 2048 = biased := by
    split <;> omega
  have hfrac : ((if neg then 2 ^ 63 else 0) + biased * 2 ^ 52 + frac) % 2 ^ 52 = frac := by
    split <;> omega
  simp only [pow2_eq, hsign, hexp, hfrac]
  cases neg <;> by_cases h0 : biased = 0 <;> simp [h0, hb.ne]

theorem sign_ofBitVec_unpackSign (b : BitVec 64) :
    UnpackedFloat.Sign.ofBitVec (@UnpackedFloat.unpackSign Format.binary64 b) =
      if (b.toNat / 2 ^ 63 == 1) = true then .negative else .positive := by
  have h := unpackSign_toNat b
  have hb := b.isLt
  unfold UnpackedFloat.Sign.ofBitVec
  by_cases h1 : b.toNat / 2 ^ 63 = 1
  · rw [if_neg, if_pos (by simpa using h1)]
    intro h0
    rw [h0] at h
    simp at h
    omega
  · rw [if_pos, if_neg (by simpa using h1)]
    apply BitVec.eq_of_toNat_eq
    simp only [h, BitVec.toNat_ofNat]
    omega

/-- The logic's model unpacks a word into the finite value that `decode` reads:
a zero when the mantissa is zero, the same mantissa and exponent otherwise. -/
theorem unpack_of_decode {x : Float} {neg : Bool} {m : Nat} {e : Int}
    (h : decode x = .finite neg m e) :
    (m = 0 ∧ x.toModel.unpack = .zero (if neg then .negative else .positive)) ∨
      ∃ hm : 0 < m, x.toModel.unpack = .finite (if neg then .negative else .positive) m e hm := by
  -- both read the same word's fields, `decode` by division and the model by bit slices
  have hu : x.toModel.unpack = UnpackedFloat.unpack Format.binary64 x.toModel.toBits.toBitVec := rfl
  have hn : x.toBits.toNat = x.toModel.toBits.toBitVec.toNat := rfl
  unfold decode at h
  rw [hn] at h
  rw [hu]
  generalize x.toModel.toBits.toBitVec = b at h
  have hexp := unpackExponent_toNat b
  have hmant := unpackMantissa_toNat b
  have hones : (-1#11 : BitVec 11).toNat = 2047 := rfl
  unfold UnpackedFloat.unpack
  simp only [sign_ofBitVec_unpackSign, pow2_eq, beq_iff_eq, ← BitVec.toNat_inj, hexp, hmant, hones,
    toNat_one_append, binary64_exponentBias, BitVec.toNat_ofNat] at h ⊢
  by_cases h2047 : b.toNat / 2 ^ 52 % 2048 = 2047
  · rw [if_pos h2047] at h
    split at h <;> cases h
  rw [if_neg h2047] at h
  rw [if_neg h2047]
  by_cases h0 : b.toNat / 2 ^ 52 % 2048 = 0
  · -- a subnormal or a zero
    rw [if_pos h0, Kind.finite.injEq] at h
    obtain ⟨rfl, rfl, rfl⟩ := h
    rw [if_pos (by simpa using h0)]
    by_cases hm0 : b.toNat % 2 ^ 52 = 0
    · exact .inl ⟨hm0, by rw [dif_pos (by simpa using hm0)]; simp⟩
    · refine .inr ⟨by omega, ?_⟩
      rw [dif_neg (by simpa using hm0)]
      congr 1
      case e_sign => simp
      case e_exponent => omega
  · -- a normal number
    rw [if_neg h0, Kind.finite.injEq] at h
    obtain ⟨rfl, rfl, rfl⟩ := h
    rw [if_neg (by simpa using h0)]
    refine .inr ⟨by omega, ?_⟩
    congr 1
    case e_sign => simp
    case e_mantissa => omega

theorem unpack_of_decode_infinite {x : Float} {neg : Bool} (h : decode x = .infinite neg) :
    x.toModel.unpack = .infinity (if neg then .negative else .positive) := by
  have hu : x.toModel.unpack = UnpackedFloat.unpack Format.binary64 x.toModel.toBits.toBitVec := rfl
  have hn : x.toBits.toNat = x.toModel.toBits.toBitVec.toNat := rfl
  unfold decode at h
  rw [hn] at h
  rw [hu]
  generalize x.toModel.toBits.toBitVec = b at h
  have hexp := unpackExponent_toNat b
  have hmant := unpackMantissa_toNat b
  have hones : (-1#11 : BitVec 11).toNat = 2047 := rfl
  unfold UnpackedFloat.unpack
  simp only [sign_ofBitVec_unpackSign, pow2_eq, beq_iff_eq, ← BitVec.toNat_inj, hexp, hmant, hones,
    BitVec.toNat_ofNat] at h ⊢
  -- only an exponent field of all ones and a zero fraction decode as an infinity
  split_ifs at h with h2047 hm0 h0
  · rw [Kind.infinite.injEq] at h
    subst h
    rw [if_pos h2047, if_pos (by simpa using hm0)]
    simp

theorem isNaN_of_decode_nan {x : Float} (h : decode x = .nan) : x.isNaN = true := by
  rw [isNaN_eq]
  change (UnpackedFloat.unpack Format.binary64 x.toModel.toBits.toBitVec).isNaN = true
  rw [unpack_isNaN_iff]
  have hn : x.toBits.toNat = x.toModel.toBits.toBitVec.toNat := rfl
  unfold decode at h
  rw [hn] at h
  simp only [pow2_eq, beq_iff_eq] at h
  -- only an exponent field of all ones with a fraction decodes as NaN
  split_ifs at h with h2047 hm0
  exact ⟨h2047, hm0⟩

/-- The fields `decode` reads: a mantissa of at most 53 bits, with its top bit
set unless the exponent is the least one. -/
theorem decode_finite_bounds {x : Float} {neg : Bool} {m : Nat} {e : Int}
    (h : decode x = .finite neg m e) :
    m < 2 ^ 53 ∧ -1074 ≤ e ∧ e ≤ 971 ∧ (e = -1074 ∨ 2 ^ 52 ≤ m) := by
  unfold decode at h
  simp only [pow2_eq, beq_iff_eq] at h
  -- a subnormal or a normal number; the other words are no finite value
  split_ifs at h with h2047 h0
  · cases h
    omega
  · cases h
    omega

/-! ## Rounding ratios -/

theorem roundHalfEven_le_of_lt {a b n : Nat} (h : a < b * n) : roundHalfEven a b ≤ n := by
  have hq : a / b < n := Nat.div_lt_of_lt_mul h
  unfold roundHalfEven
  dsimp only
  split <;> omega

/-- The exponent `ofRatio` picks bounds the quotient from above. -/
theorem lt_scale {num den : Nat} (hd : den ≠ 0) :
    let e0 : Int := (num.log2 : Int) - den.log2
    (num : ℚ) < den * 2 ^ ((if powLe num den e0 then e0 else e0 - 1) + 1) := by
  intro e0
  split
  · -- the leading bits of the two naturals
    have h1 : (num : ℚ) < 2 ^ (num.log2 + 1) := by exact_mod_cast Nat.lt_log2_self
    have h2 : (2 : ℚ) ^ den.log2 ≤ den := by exact_mod_cast Nat.log2_self_le hd
    calc (num : ℚ) < 2 ^ (num.log2 + 1) := h1
      _ = 2 ^ (e0 + 1) * 2 ^ den.log2 := by
        rw [← zpow_natCast, ← zpow_natCast, ← zpow_add₀ two_ne_zero]
        congr 1
        push_cast [e0]
        omega
      _ ≤ 2 ^ (e0 + 1) * den := mul_le_mul_of_nonneg_left h2 (zpow_pos two_pos _).le
      _ = den * 2 ^ (e0 + 1) := mul_comm _ _
  · -- `powLe` failing at `e0` is the bound
    rename_i hle
    rw [sub_add_cancel]
    unfold powLe at hle
    split at hle
    · rename_i he
      have h : num < den * 2 ^ e0.toNat := Nat.lt_of_not_le fun h' => hle (decide_eq_true h')
      calc (num : ℚ) < den * 2 ^ e0.toNat := by exact_mod_cast h
        _ = den * 2 ^ e0 := by rw [← zpow_natCast, Int.toNat_of_nonneg he]
    · rename_i he
      have h : num * 2 ^ (-e0).toNat < den := Nat.lt_of_not_le fun h' => hle (decide_eq_true h')
      have hp : (0 : ℚ) < 2 ^ (-e0) := zpow_pos two_pos _
      have h' : (num : ℚ) * 2 ^ (-e0) < den := by
        rw [← Int.toNat_of_nonneg (by omega : 0 ≤ -e0), zpow_natCast]
        exact_mod_cast h
      calc (num : ℚ) = num * 2 ^ (-e0) * 2 ^ e0 := by
            rw [mul_assoc, ← zpow_add₀ two_ne_zero, neg_add_cancel, zpow_zero, mul_one]
        _ < den * 2 ^ e0 := mul_lt_mul_of_pos_right h' (zpow_pos two_pos _)

/-- The rounded mantissa of `ofRatio` fits in 53 bits, its carry included. -/
theorem roundedMantissa_le {num den : Nat} {e s : Int}
    (he : (num : ℚ) < den * 2 ^ (e + 1)) (hs : e - 52 ≤ s) :
    (if 0 ≤ s then roundHalfEven num (den * pow2 s.toNat)
      else roundHalfEven (num * pow2 (-s).toNat) den) ≤ pow2 53 := by
  have hlt : (num : ℚ) < den * 2 ^ (s + 53) :=
    he.trans_le (mul_le_mul_of_nonneg_left (zpow_le_zpow_right₀ one_le_two (by omega))
      (Nat.cast_nonneg _))
  split
  · rename_i h0
    apply roundHalfEven_le_of_lt
    have : (num : ℚ) < (den * 2 ^ s.toNat * 2 ^ 53 : ℕ) := by
      rw [zpow_add₀ two_ne_zero, ← Int.toNat_of_nonneg h0, zpow_natCast] at hlt
      push_cast
      rw [mul_assoc]
      exact_mod_cast hlt
    exact_mod_cast this
  · rename_i h0
    apply roundHalfEven_le_of_lt
    have hp : (0 : ℚ) < 2 ^ (-s) := zpow_pos two_pos _
    have : ((num * 2 ^ (-s).toNat : ℕ) : ℚ) < (den * 2 ^ 53 : ℕ) := by
      push_cast
      rw [← zpow_natCast (2 : ℚ) (-s).toNat, Int.toNat_of_nonneg (by omega)]
      calc (num : ℚ) * 2 ^ (-s) < den * 2 ^ (s + 53) * 2 ^ (-s) := mul_lt_mul_of_pos_right hlt hp
        _ = den * 2 ^ 53 := by
          rw [mul_assoc, ← zpow_add₀ two_ne_zero, add_comm s, add_neg_cancel_right]
          norm_cast
    exact_mod_cast this

/-- The last step of `ofRatio`: a mantissa of at most 53 bits, its carry moved
into the exponent, packs into a word that is not NaN. -/
theorem packRounded_fields (neg : Bool) {m : Nat} (s : Int) (hm : m ≤ pow2 53) :
    ∃ b f, (match if (m == pow2 53) = true then (pow2 52, s + 1) else (m, s) with
      | (m, s) => if m < pow2 52 then pack neg 0 m
        else if s + 1075 ≥ 2047 then pack neg 2047 0 else pack neg (s + 1075).toNat (m - pow2 52)) =
      pack neg b f ∧ (b < 2047 ∧ f < 2 ^ 52 ∨ b = 2047 ∧ f = 0) := by
  obtain ⟨m', s', hms, hm'⟩ : ∃ m' s', (if (m == pow2 53) = true then (pow2 52, s + 1) else (m, s)) =
      (m', s') ∧ m' < pow2 53 := by
    by_cases hc : m = pow2 53
    · exact ⟨_, _, if_pos (beq_iff_eq.2 hc), by simp⟩
    · exact ⟨_, _, if_neg (by simpa using hc), lt_of_le_of_ne hm hc⟩
  rw [hms]
  dsimp only
  have h52 : pow2 52 = 2 ^ 52 := rfl
  have h53 : pow2 53 = 2 ^ 53 := rfl
  split
  · exact ⟨0, m', rfl, .inl ⟨by omega, by omega⟩⟩
  split
  · exact ⟨2047, 0, rfl, .inr ⟨rfl, rfl⟩⟩
  · exact ⟨_, _, rfl, .inl ⟨by omega, by omega⟩⟩

/-- Every result of `ofRatio` is a word of a finite value or an infinity. -/
theorem ofRatio_fields (neg : Bool) (num den : Nat) :
    ∃ b f, ofRatio neg num den = pack neg b f ∧ (b < 2047 ∧ f < 2 ^ 52 ∨ b = 2047 ∧ f = 0) := by
  unfold ofRatio
  split
  · exact ⟨0, 0, rfl, .inl ⟨by omega, by omega⟩⟩
  · rename_i h
    simp only [Bool.or_eq_true, beq_iff_eq, not_or] at h
    exact packRounded_fields neg _ (roundedMantissa_le (lt_scale h.2) (le_max_left _ _))

theorem isNaN_of_isFinite {x : Float} (h : x.isFinite = true) : x.isNaN = false := by
  rw [isNaN_eq]
  change x.toModel.unpack.isFinite = true at h
  cases hu : x.toModel.unpack <;> simp_all [UnpackedFloat.isFinite, UnpackedFloat.isNaN]

/-- A word is finite when its exponent field is not all ones. -/
theorem unpack_isFinite_iff (b : BitVec 64) :
    (UnpackedFloat.unpack Format.binary64 b).isFinite = true ↔ b.toNat / 2 ^ 52 % 2048 ≠ 2047 := by
  rw [← unpackExponent_toNat]
  unfold UnpackedFloat.unpack
  simp only
  split_ifs <;> simp_all [UnpackedFloat.isFinite, ← BitVec.toNat_inj]

theorem decode_of_isFinite {x : Float} (h : x.isFinite = true) :
    ∃ neg m e, decode x = .finite neg m e := by
  have he : x.toBits.toNat / 2 ^ 52 % 2048 ≠ 2047 := (unpack_isFinite_iff _).1 h
  unfold decode
  simp only [pow2_eq, beq_iff_eq, he, if_false]
  split_ifs <;> exact ⟨_, _, _, rfl⟩

theorem ofRatio_isNaN (neg : Bool) (num den : Nat) : (ofRatio neg num den).isNaN = false := by
  obtain ⟨b, f, h, hbf⟩ := ofRatio_fields neg num den
  rw [h]
  exact isNaN_pack hbf

/-- Every integer is a number as a double. -/
theorem ofInt_isNaN (i : Int) : (ofInt i).isNaN = false := ofRatio_isNaN _ _ _

end Binary64
end Geocube
