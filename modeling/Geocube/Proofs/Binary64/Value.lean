import Geocube.Proofs.Binary64.Bits
import Geocube.Geo.Scalar

/-!
# The numbers doubles stand for

A finite double stands for the rational number `±m·2^e` that `decode` reads
from its fields (`Binary64.value`). The fields of a finite double have a shape:
a mantissa of at most 53 bits whose top bit is set unless the exponent is the
least one (`Binary64.Shape`). On fields of that shape the order of doubles,
sign first, then exponent, then mantissa, is the order of the numbers they
stand for, so `<` and `==` on finite doubles compare values
(`Binary64.lt_iff_value`, `Binary64.beq_iff_value`), and an infinity lies
beyond every finite double (`Binary64.lt_of_decode_infinite`).

Every whole number below `2^53` is a double exactly (`Binary64.decode_ofRatio_nat`).
A double stands for a whole number (`Binary64.IsWhole`) exactly when no bit of its
mantissa lies below the binary point (`Binary64.isIntegral_iff`). Rounding a
finite double gives a whole one and keeps one that is whole already
(`Binary64.roundHalfAway_isWhole`, `Binary64.roundHalfAway_of_isWhole`), and
clamping a whole double between whole ends clamps the numbers
(`fclamp_isWhole`), while an infinity clamps to the end on its side
(`fclamp_of_infinite`).
-/

namespace Geocube
namespace Binary64
open Float.Model

/-- The number a finite double stands for, `±m·2^e`; an infinity or NaN stands
for none and is given zero. -/
def value (x : Float) : ℚ :=
  match decode x with
  | .finite neg m e => (if neg then -(m : ℚ) else m) * 2 ^ e
  | _ => 0

theorem value_of_decode {x : Float} {neg : Bool} {m : Nat} {e : Int}
    (h : decode x = .finite neg m e) : value x = (if neg then -(m : ℚ) else m) * 2 ^ e := by
  rw [value, h]

theorem isFinite_of_decode {x : Float} {neg : Bool} {m : Nat} {e : Int}
    (h : decode x = .finite neg m e) : x.isFinite = true := by
  change x.toModel.unpack.isFinite = true
  rcases unpack_of_decode h with ⟨-, hu⟩ | ⟨_, hu⟩
  · rw [hu]
    rfl
  · rw [hu]
    rfl

/-- The place of a finite double in the order of doubles, from its fields. -/
def finiteKey (neg : Bool) (m : Nat) (e : Int) : ℤ ×ₗ ℤ ×ₗ ℤ :=
  if m = 0 then toLex (0, toLex (0, 0))
  else if neg then toLex (-1, toLex (-e, -(m : ℤ))) else toLex (1, toLex (e, (m : ℤ)))

theorem orderKey_of_decode {x : Float} {neg : Bool} {m : Nat} {e : Int}
    (h : decode x = .finite neg m e) : orderKey x.toModel.unpack = finiteKey neg m e := by
  rcases unpack_of_decode h with ⟨rfl, hu⟩ | ⟨hm, hu⟩
  · rw [hu, finiteKey, if_pos rfl]
    cases neg <;> rfl
  · rw [hu, finiteKey, if_neg hm.ne']
    cases neg <;> rfl

/-- The fields of a finite double: a mantissa of at most 53 bits whose top bit
is set unless the exponent is the least one. -/
structure Shape (m : Nat) (e : Int) : Prop where
  lt : m < 2 ^ 53
  ge : -1074 ≤ e
  top : e = -1074 ∨ 2 ^ 52 ≤ m

theorem shape_of_decode {x : Float} {neg : Bool} {m : Nat} {e : Int}
    (h : decode x = .finite neg m e) : Shape m e :=
  have ⟨hlt, hge, _, htop⟩ := decode_finite_bounds h
  ⟨hlt, hge, htop⟩

/-- Of two positive finite doubles, the one with the smaller exponent is the
smaller: the larger exponent is above the least one, so its mantissa has its top
bit set. -/
theorem mul_zpow_lt_of_exp_lt {m m' : Nat} {e e' : Int} (h : Shape m e) (h' : Shape m' e')
    (he : e < e') : (m : ℚ) * 2 ^ e < m' * 2 ^ e' := by
  have htop : 2 ^ 52 ≤ m' := h'.top.resolve_left (by have := h.ge; omega)
  have hlt : (m : ℚ) < 2 ^ 53 := by exact_mod_cast h.lt
  have htop' : (2 : ℚ) ^ 52 ≤ m' := by exact_mod_cast htop
  calc (m : ℚ) * 2 ^ e < 2 ^ 53 * 2 ^ e := mul_lt_mul_of_pos_right hlt (zpow_pos two_pos _)
    _ = 2 ^ (e + 53) := by rw [zpow_add₀ two_ne_zero, mul_comm]; norm_num
    _ ≤ 2 ^ (e' + 52) := zpow_le_zpow_right₀ one_le_two (by omega)
    _ = 2 ^ 52 * 2 ^ e' := by rw [zpow_add₀ two_ne_zero, mul_comm]; norm_num
    _ ≤ m' * 2 ^ e' := mul_le_mul_of_nonneg_right htop' (zpow_pos two_pos _).le

theorem value_lt_of_lex_lt {m m' : Nat} {e e' : Int} (h : Shape m e) (h' : Shape m' e')
    (hlt : toLex (e, (m : ℤ)) < toLex (e', (m' : ℤ))) : (m : ℚ) * 2 ^ e < m' * 2 ^ e' := by
  rw [Prod.Lex.toLex_lt_toLex] at hlt
  rcases hlt with he | ⟨rfl, hm⟩
  · exact mul_zpow_lt_of_exp_lt h h' he
  · have hm' : (m : ℤ) < m' := hm
    exact mul_lt_mul_of_pos_right (by exact_mod_cast hm') (zpow_pos two_pos _)

/-- Among positive finite doubles the order of exponent, then mantissa, is the
order of values. -/
theorem lex_lt_iff {m m' : Nat} {e e' : Int} (h : Shape m e) (h' : Shape m' e') :
    toLex (e, (m : ℤ)) < toLex (e', (m' : ℤ)) ↔ (m : ℚ) * 2 ^ e < m' * 2 ^ e' := by
  refine ⟨value_lt_of_lex_lt h h', fun hv => ?_⟩
  rcases lt_trichotomy (toLex (e, (m : ℤ))) (toLex (e', (m' : ℤ))) with hlt | heq | hgt
  · exact hlt
  · simp only [toLex_inj, Prod.mk.injEq, Nat.cast_inj] at heq
    obtain ⟨rfl, rfl⟩ := heq
    exact absurd hv (lt_irrefl _)
  · exact absurd (value_lt_of_lex_lt h' h hgt) (not_lt.2 hv.le)

theorem neg_lex_lt_iff {a b c d : ℤ} :
    toLex (-a, -b) < toLex (-c, -d) ↔ toLex (c, d) < toLex (a, b) := by
  simp only [Prod.Lex.toLex_lt_toLex]
  omega

/-- The order of finite doubles is the order of their values. -/
theorem finiteKey_lt_iff {n n' : Bool} {m m' : Nat} {e e' : Int} (h : Shape m e) (h' : Shape m' e') :
    finiteKey n m e < finiteKey n' m' e' ↔
      (if n then -(m : ℚ) else m) * 2 ^ e < (if n' then -(m' : ℚ) else m') * 2 ^ e' := by
  have hpos : ∀ {m : Nat} {e : Int}, 0 < m → (0 : ℚ) < m * 2 ^ e :=
    fun hm => mul_pos (by exact_mod_cast hm) (zpow_pos two_pos _)
  rcases Nat.eq_zero_or_pos m with rfl | hm <;> rcases Nat.eq_zero_or_pos m' with rfl | hm'
  · simp [finiteKey]
  · cases n' <;> simp [finiteKey, hm'.ne', Prod.Lex.toLex_lt_toLex, hpos hm', (hpos hm').le]
  · cases n <;> simp [finiteKey, hm.ne', Prod.Lex.toLex_lt_toLex, hpos hm, (hpos hm).le]
  · -- two nonzero values: the sign decides, then the magnitudes, reversed below zero
    simp only [finiteKey, hm.ne', hm'.ne', if_false]
    cases n <;> cases n'
    case false.false =>
      simp only [Bool.false_eq_true, if_false]
      rw [Prod.Lex.toLex_lt_toLex]
      simp only [lt_irrefl, false_or, true_and]
      exact lex_lt_iff h h'
    case false.true =>
      simp only [Bool.false_eq_true, if_false, if_true, Prod.Lex.toLex_lt_toLex, neg_mul]
      constructor
      · rintro (h1 | ⟨h1, -⟩) <;> omega
      · intro hv
        exact absurd (hv.trans (neg_lt_zero.2 (hpos hm'))) (not_lt.2 (hpos hm).le)
    case true.false =>
      simp only [Bool.false_eq_true, if_false, if_true, Prod.Lex.toLex_lt_toLex, neg_mul]
      exact ⟨fun _ => (neg_lt_zero.2 (hpos hm)).trans (hpos hm'), fun _ => .inl (by omega)⟩
    case true.true =>
      simp only [if_true, neg_mul, neg_lt_neg_iff]
      rw [Prod.Lex.toLex_lt_toLex]
      simp only [lt_irrefl, false_or, true_and]
      rw [neg_lex_lt_iff]
      exact lex_lt_iff h' h

/-- Comparing two finite doubles compares the numbers they stand for. -/
theorem lt_iff_value {x y : Float} (hx : x.isFinite = true) (hy : y.isFinite = true) :
    x < y ↔ value x < value y := by
  obtain ⟨nx, mx, ex, hdx⟩ := decode_of_isFinite hx
  obtain ⟨ny, my, ey, hdy⟩ := decode_of_isFinite hy
  rw [lt_iff_orderKey (isNaN_of_isFinite hx) (isNaN_of_isFinite hy), orderKey_of_decode hdx,
    orderKey_of_decode hdy, value_of_decode hdx, value_of_decode hdy]
  exact finiteKey_lt_iff (shape_of_decode hdx) (shape_of_decode hdy)

/-- Two finite doubles are equal under `==` when they stand for the same number,
the two zeros included. -/
theorem beq_iff_value {x y : Float} (hx : x.isFinite = true) (hy : y.isFinite = true) :
    (x == y) = true ↔ value x = value y := by
  have hxy : orderKey x.toModel.unpack < orderKey y.toModel.unpack ↔ value x < value y := by
    rw [← lt_iff_orderKey (isNaN_of_isFinite hx) (isNaN_of_isFinite hy)]
    exact lt_iff_value hx hy
  have hyx : orderKey y.toModel.unpack < orderKey x.toModel.unpack ↔ value y < value x := by
    rw [← lt_iff_orderKey (isNaN_of_isFinite hy) (isNaN_of_isFinite hx)]
    exact lt_iff_value hy hx
  -- both orders are linear: equal is neither below the other
  rw [beq_iff_orderKey (isNaN_of_isFinite hx) (isNaN_of_isFinite hy), le_antisymm_iff,
    le_antisymm_iff, ← not_lt, ← not_lt, ← not_lt, ← not_lt, hxy, hyx]

theorem finiteKey_lt_top (n : Bool) (m : Nat) (e : Int) :
    finiteKey n m e < toLex (2, toLex (0, 0)) := by
  unfold finiteKey
  split_ifs <;> simp [Prod.Lex.toLex_lt_toLex]

theorem bot_lt_finiteKey (n : Bool) (m : Nat) (e : Int) :
    toLex (-2, toLex (0, 0)) < finiteKey n m e := by
  unfold finiteKey
  split_ifs <;> simp [Prod.Lex.toLex_lt_toLex]

/-- An infinity is above or below every finite double, as its sign says. -/
theorem lt_of_decode_infinite {x y : Float} {neg : Bool} (hx : decode x = .infinite neg)
    (hy : y.isFinite = true) : (if neg then x < y else y < x) ∧ ¬ (if neg then y < x else x < y) := by
  obtain ⟨n, m, e, hdy⟩ := decode_of_isFinite hy
  have hu := unpack_of_decode_infinite hx
  have hxn : x.isNaN = false := by
    rw [isNaN_eq, hu]
    rfl
  have hyn := isNaN_of_isFinite hy
  cases neg
  · simp only [Bool.false_eq_true, if_false] at hu ⊢
    rw [lt_iff_orderKey hyn hxn, lt_iff_orderKey hxn hyn, orderKey_of_decode hdy, hu]
    exact ⟨finiteKey_lt_top n m e, not_lt.2 (finiteKey_lt_top n m e).le⟩
  · simp only [if_true] at hu ⊢
    rw [lt_iff_orderKey hyn hxn, lt_iff_orderKey hxn hyn, orderKey_of_decode hdy, hu]
    exact ⟨bot_lt_finiteKey n m e, not_lt.2 (bot_lt_finiteKey n m e).le⟩

/-! ## Whole numbers -/

theorem roundHalfEven_one (n : Nat) : roundHalfEven n 1 = n := by
  simp only [roundHalfEven, Nat.div_one, Nat.mod_one]
  rfl

/-- The mantissa of a positive whole number below `2^53`: the number shifted up
until its leading bit is bit 52. -/
theorem mantissa_bounds {k : Nat} (hk0 : 0 < k) (hk : k < 2 ^ 53) :
    k.log2 ≤ 52 ∧ 2 ^ 52 ≤ k * 2 ^ (52 - k.log2) ∧ k * 2 ^ (52 - k.log2) < 2 ^ 53 := by
  have hL : k.log2 < 53 := (Nat.log2_lt hk0.ne').2 hk
  have hlo : 2 ^ k.log2 ≤ k := Nat.log2_self_le hk0.ne'
  have hhi : k < 2 ^ (k.log2 + 1) := Nat.lt_log2_self
  have hsplit : 2 ^ 52 = 2 ^ k.log2 * 2 ^ (52 - k.log2) := by
    rw [← Nat.pow_add, Nat.add_sub_cancel' (by omega)]
  have hsplit' : 2 ^ 53 = 2 ^ (k.log2 + 1) * 2 ^ (52 - k.log2) := by
    rw [← Nat.pow_add]
    congr 1
    omega
  refine ⟨by omega, ?_, ?_⟩
  · rw [hsplit]
    exact Nat.mul_le_mul_right _ hlo
  · rw [hsplit']
    exact Nat.mul_lt_mul_of_pos_right hhi (Nat.two_pow_pos _)

/-- A positive whole number below `2^53` is packed with its leading bit as the
implicit one. -/
theorem ofRatio_nat {k : Nat} (neg : Bool) (hk0 : 0 < k) (hk : k < 2 ^ 53) :
    ofRatio neg k 1 = pack neg (k.log2 + 1023) (k * 2 ^ (52 - k.log2) - 2 ^ 52) := by
  obtain ⟨hL, hmlo, hmhi⟩ := mantissa_bounds hk0 hk
  have hlog1 : Nat.log2 1 = 0 := (Nat.log2_eq_iff (by norm_num)).2 ⟨by norm_num, by norm_num⟩
  have hpow : powLe k 1 (k.log2 : Int) = true := by
    simp [powLe, Nat.log2_self_le hk0.ne']
  have hmax : max ((k.log2 : Int) - 52) (-1074) = (k.log2 : Int) - 52 := max_eq_left (by omega)
  -- the mantissa is the number itself, shifted to 53 bits
  have hm : (if 0 ≤ (k.log2 : Int) - 52 then roundHalfEven k (1 * 2 ^ ((k.log2 : Int) - 52).toNat)
      else roundHalfEven (k * 2 ^ (-((k.log2 : Int) - 52)).toNat) 1) = k * 2 ^ (52 - k.log2) := by
    split_ifs with h0
    · have hL52 : k.log2 = 52 := by omega
      have hs : ((k.log2 : Int) - 52).toNat = 0 := by omega
      rw [hs, pow_zero, Nat.mul_one, roundHalfEven_one, hL52, Nat.sub_self, pow_zero, Nat.mul_one]
    · rw [roundHalfEven_one]
      congr 2
      omega
  have hnz : (k == 0 || 1 == 0) = false := by simp [hk0.ne']
  have hcarry : (k * 2 ^ (52 - k.log2) == 2 ^ 53) = false := by
    rw [beq_eq_false_iff_ne]
    omega
  have hsub : ¬ k * 2 ^ (52 - k.log2) < 2 ^ 52 := by omega
  have hbig : ¬ (k.log2 : Int) - 52 + 1075 ≥ 2047 := by omega
  have hbiased : ((k.log2 : Int) - 52 + 1075).toNat = k.log2 + 1023 := by omega
  unfold ofRatio
  simp only [hnz, Bool.false_eq_true, if_false, hlog1, Nat.cast_zero, sub_zero, hpow, if_true, hmax,
    hm, hcarry, hsub, hbig, hbiased, pow2_eq]

/-- Every whole number below `2^53` is a double exactly, with the sign asked for. -/
theorem decode_ofRatio_nat (neg : Bool) {k : Nat} (hk : k < 2 ^ 53) :
    ∃ m e, decode (ofRatio neg k 1) = .finite neg m e ∧ (m : ℚ) * 2 ^ e = k := by
  rcases Nat.eq_zero_or_pos k with rfl | hk0
  · refine ⟨0, -1074, ?_, by simp⟩
    rw [ofRatio, if_pos (by simp), decode_pack neg (by norm_num) (by norm_num), if_pos rfl]
  · obtain ⟨hL, hmlo, hmhi⟩ := mantissa_bounds hk0 hk
    refine ⟨k * 2 ^ (52 - k.log2), (k.log2 : Int) - 52, ?_, ?_⟩
    · have hf : k * 2 ^ (52 - k.log2) - 2 ^ 52 + 2 ^ 52 = k * 2 ^ (52 - k.log2) := by omega
      have he : ((k.log2 + 1023 : Nat) : Int) - 1075 = (k.log2 : Int) - 52 := by omega
      rw [ofRatio_nat neg hk0 hk, decode_pack neg (by omega) (by omega), if_neg (by omega), hf, he]
    · have hpow : ((2 : ℚ) ^ (52 - k.log2)) * 2 ^ ((k.log2 : Int) - 52) = 1 := by
        rw [← zpow_natCast, ← zpow_add₀ two_ne_zero, Nat.cast_sub hL]
        simp
      push_cast
      rw [mul_assoc, hpow, mul_one]

/-- `x` is a finite double standing for the whole number `n`. -/
def IsWhole (x : Float) (n : Int) : Prop := x.isFinite = true ∧ value x = n

theorem isWhole_of_decode {x : Float} {neg : Bool} {m : Nat} {e : Int} {n : Int}
    (h : decode x = .finite neg m e) (hv : ((if neg then -(m : ℚ) else m) * 2 ^ e) = n) :
    IsWhole x n :=
  ⟨isFinite_of_decode h, (value_of_decode h).trans hv⟩

namespace IsWhole

variable {x y : Float} {i j : Int}

theorem isNaN_eq_false (hx : IsWhole x i) : x.isNaN = false := isNaN_of_isFinite hx.1

theorem unique (hx : IsWhole x i) (hx' : IsWhole x j) : i = j :=
  Int.cast_injective (α := ℚ) (hx.2.symm.trans hx'.2)

theorem lt_iff (hx : IsWhole x i) (hy : IsWhole y j) : x < y ↔ i < j := by
  rw [lt_iff_value hx.1 hy.1, hx.2, hy.2, Int.cast_lt]

theorem beq_iff (hx : IsWhole x i) (hy : IsWhole y j) : (x == y) = true ↔ i = j := by
  rw [beq_iff_value hx.1 hy.1, hx.2, hy.2, Int.cast_inj]

end IsWhole

theorem isWhole_ofRatio_nat (neg : Bool) {k : Nat} (hk : k < 2 ^ 53) :
    IsWhole (ofRatio neg k 1) (if neg then -(k : Int) else k) := by
  obtain ⟨m, e, hd, hv⟩ := decode_ofRatio_nat neg hk
  refine ⟨isFinite_of_decode hd, ?_⟩
  rw [value_of_decode hd]
  cases neg
  · simpa using hv
  · simp [hv]

/-- Every integer of size below `2^53` is a double exactly. -/
theorem isWhole_ofInt {i : Int} (hi : i.natAbs < 2 ^ 53) : IsWhole (ofInt i) i := by
  unfold ofInt
  by_cases hneg : i < 0
  · have h := isWhole_ofRatio_nat true hi
    rw [if_pos rfl, show -(i.natAbs : Int) = i by omega] at h
    rwa [decide_eq_true hneg]
  · have h := isWhole_ofRatio_nat false hi
    rw [if_neg Bool.false_ne_true, show (i.natAbs : Int) = i by omega] at h
    rwa [decide_eq_false hneg]

theorem value_of_nonneg_exp {x : Float} {neg : Bool} {m : Nat} {e : Int}
    (h : decode x = .finite neg m e) (he : 0 ≤ e) :
    value x = ((if neg then -((m * 2 ^ e.toNat : Nat) : Int) else (m * 2 ^ e.toNat : Nat) : Int) : ℚ) := by
  have hpow : (2 : ℚ) ^ e = 2 ^ e.toNat := by rw [← zpow_natCast, Int.toNat_of_nonneg he]
  rw [value_of_decode h, hpow]
  cases neg <;> simp

theorem value_mul_of_neg_exp {x : Float} {neg : Bool} {m : Nat} {e : Int}
    (h : decode x = .finite neg m e) (he : e < 0) :
    value x * 2 ^ (-e).toNat = ((if neg then -(m : Int) else m : Int) : ℚ) := by
  have hpow : (2 : ℚ) ^ e * 2 ^ (-e).toNat = 1 := by
    rw [← zpow_natCast, Int.toNat_of_nonneg (by omega), ← zpow_add₀ two_ne_zero, add_neg_cancel,
      zpow_zero]
  rw [value_of_decode h, mul_assoc, hpow, mul_one]
  cases neg <;> simp

/-- `n · d = ±m` among integers: `d` divides `m` and `n` is `±(m / d)`. -/
theorem mul_eq_signed_iff {n : Int} {m d : Nat} (hd : 0 < d) (neg : Bool) :
    n * d = (if neg then -(m : Int) else m) ↔
      m % d = 0 ∧ n = if neg then -((m / d : Nat) : Int) else ((m / d : Nat) : Int) := by
  have key : ∀ n : Int, n * d = m ↔ m % d = 0 ∧ n = ((m / d : Nat) : Int) := by
    intro n
    constructor
    · intro hn
      have hdvd : d ∣ m := Int.natCast_dvd_natCast.1 ⟨n, by rw [← hn, mul_comm]⟩
      refine ⟨Nat.mod_eq_zero_of_dvd hdvd, ?_⟩
      rw [Int.natCast_div, ← hn, Int.mul_ediv_cancel _ (by exact_mod_cast hd.ne')]
    · rintro ⟨hmod, rfl⟩
      exact_mod_cast Nat.div_mul_cancel (Nat.dvd_of_mod_eq_zero hmod)
  cases neg
  · simpa using key n
  · simp only [if_true]
    rw [← neg_eq_iff_eq_neg, ← neg_mul, key (-n), neg_eq_iff_eq_neg]

/-- A double with a negative exponent stands for a whole number exactly when the
bits of its mantissa below the point are zero; the number is the mantissa
shifted down. -/
theorem isWhole_iff_of_neg_exp {x : Float} {neg : Bool} {m : Nat} {e : Int}
    (h : decode x = .finite neg m e) (he : e < 0) {n : Int} :
    IsWhole x n ↔ m % 2 ^ (-e).toNat = 0 ∧ n = if neg then -((m / 2 ^ (-e).toNat : Nat) : Int)
      else ((m / 2 ^ (-e).toNat : Nat) : Int) := by
  have hd : 0 < 2 ^ (-e).toNat := Nat.two_pow_pos _
  have hdq : ((2 ^ (-e).toNat : Nat) : ℚ) ≠ 0 := by exact_mod_cast hd.ne'
  -- being whole is `n · 2^(-e) = ±m` among integers
  have hval : value x = n ↔ n * ((2 ^ (-e).toNat : Nat) : Int) = if neg then -(m : Int) else m := by
    rw [← Int.cast_inj (α := ℚ), ← value_mul_of_neg_exp h he]
    push_cast
    constructor
    · intro hv
      rw [hv]
    · intro hv
      exact mul_right_cancel₀ (pow_ne_zero _ two_ne_zero) hv.symm
  unfold IsWhole
  rw [and_iff_right (isFinite_of_decode h), hval]
  exact mul_eq_signed_iff hd neg

theorem isWhole_of_nonneg_exp {x : Float} {neg : Bool} {m : Nat} {e : Int}
    (h : decode x = .finite neg m e) (he : 0 ≤ e) :
    IsWhole x (if neg then -((m * 2 ^ e.toNat : Nat) : Int) else (m * 2 ^ e.toNat : Nat)) :=
  ⟨isFinite_of_decode h, value_of_nonneg_exp h he⟩

/-- Truncating a whole double gives its number. -/
theorem truncToInt?_of_isWhole {x : Float} {n : Int} (hw : IsWhole x n) : truncToInt? x = some n := by
  obtain ⟨neg, m, e, hd⟩ := decode_of_isFinite hw.1
  rw [truncToInt?, hd]
  by_cases he : 0 ≤ e
  · have hn : (n : ℚ) = ((if neg then -((m * 2 ^ e.toNat : Nat) : Int) else (m * 2 ^ e.toNat : Nat) : Int) : ℚ) := by
      rw [← hw.2, value_of_nonneg_exp hd he]
    rw [Int.cast_inj] at hn
    simp only [if_pos he, pow2_eq, hn]
  · obtain ⟨-, hn⟩ := (isWhole_iff_of_neg_exp hd (by omega)).1 hw
    simp only [if_neg he, pow2_eq, hn]

/-- A double passes the whole-number test exactly when it stands for a whole number. -/
theorem isIntegral_iff {x : Float} : isIntegral x = true ↔ ∃ n, IsWhole x n := by
  constructor
  · intro hi
    unfold isIntegral at hi
    split at hi
    · next neg m e hd =>
      by_cases he : 0 ≤ e
      · exact ⟨_, isWhole_of_nonneg_exp hd he⟩
      · simp only [he, decide_false, Bool.false_or, beq_iff_eq, pow2_eq] at hi
        exact ⟨_, (isWhole_iff_of_neg_exp hd (by omega)).2 ⟨hi, rfl⟩⟩
    · cases hi
  · rintro ⟨n, hw⟩
    obtain ⟨neg, m, e, hd⟩ := decode_of_isFinite hw.1
    rw [isIntegral, hd]
    by_cases he : 0 ≤ e
    · simp [he]
    · obtain ⟨hmod, -⟩ := (isWhole_iff_of_neg_exp hd (by omega)).1 hw
      simp [he, hmod]

/-- Rounding a finite double to a whole number gives a double that stands for one:
a mantissa of 53 bits shifted down by at least one place fits again. -/
theorem roundHalfAway_isWhole {x : Float} (hx : x.isFinite = true) :
    ∃ n, IsWhole (roundHalfAway x) n := by
  obtain ⟨neg, m, e, hd⟩ := decode_of_isFinite hx
  rw [roundHalfAway, hd]
  dsimp only
  by_cases he : 0 ≤ e
  · rw [if_pos he]
    exact ⟨_, isWhole_of_nonneg_exp hd he⟩
  · rw [if_neg he]
    have hlt := (shape_of_decode hd).lt
    have hd2 : 2 ≤ pow2 (-e).toNat := by
      rw [pow2_eq]
      calc 2 = 2 ^ 1 := rfl
        _ ≤ 2 ^ (-e).toNat := Nat.pow_le_pow_right (by norm_num) (by omega)
    have hq : m / pow2 (-e).toNat < 2 ^ 52 := by
      rw [Nat.div_lt_iff_lt_mul (by omega)]
      calc m < 2 ^ 53 := hlt
        _ = 2 ^ 52 * 2 := Nat.pow_succ 2 52
        _ ≤ 2 ^ 52 * pow2 (-e).toNat := Nat.mul_le_mul_left _ hd2
    exact ⟨_, isWhole_ofRatio_nat neg (by split <;> omega)⟩

/-- Rounding keeps a double that already stands for a whole number. -/
theorem roundHalfAway_of_isWhole {x : Float} {n : Int} (hw : IsWhole x n) :
    IsWhole (roundHalfAway x) n := by
  obtain ⟨neg, m, e, hd⟩ := decode_of_isFinite hw.1
  rw [roundHalfAway, hd]
  dsimp only
  by_cases he : 0 ≤ e
  · rw [if_pos he]
    exact hw
  · rw [if_neg he]
    obtain ⟨hmod, rfl⟩ := (isWhole_iff_of_neg_exp hd (by omega)).1 hw
    have hq : m / 2 ^ (-e).toNat < 2 ^ 53 :=
      lt_of_le_of_lt (Nat.div_le_self _ _) (shape_of_decode hd).lt
    simp only [pow2_eq, hmod, Nat.mul_zero, ge_iff_le, Nat.le_zero, Nat.pos_iff_ne_zero.1 (Nat.two_pow_pos _),
      if_false]
    exact isWhole_ofRatio_nat neg hq

theorem roundHalfAway_of_infinite {x : Float} {neg : Bool} (h : decode x = .infinite neg) :
    roundHalfAway x = x := by
  rw [roundHalfAway, h]

end Binary64

open Binary64

/-! ## Clamping -/

/-- Clamping a whole double between two whole ends, the lower not above the
upper, gives the whole number clamped between them. -/
theorem fclamp_isWhole {x lo hi : Float} {n a b : Int} (hx : IsWhole x n) (hlo : IsWhole lo a)
    (hhi : IsWhole hi b) (hab : a ≤ b) : IsWhole (fclamp x lo hi) (max a (min n b)) := by
  unfold fclamp
  dsimp only
  by_cases hna : n < a
  · have h1 : x < lo := (hx.lt_iff hlo).2 hna
    have h2 : ¬ lo > hi := fun h => by
      rw [gt_iff_lt, hhi.lt_iff hlo] at h
      omega
    simp only [h1, h2, if_true, if_false]
    rwa [show max a (min n b) = a by omega]
  · have h1 : ¬ x < lo := fun h => hna ((hx.lt_iff hlo).1 h)
    simp only [h1, if_false]
    by_cases hbn : b < n
    · have h2 : x > hi := (hhi.lt_iff hx).2 hbn
      simp only [h2, if_true]
      rwa [show max a (min n b) = b by omega]
    · have h2 : ¬ x > hi := fun h => hbn ((hhi.lt_iff hx).1 h)
      simp only [h2, if_false]
      rwa [show max a (min n b) = n by omega]

/-- Clamping an infinity gives the end on its side. -/
theorem fclamp_of_infinite {x lo hi : Float} {neg : Bool} (hx : decode x = .infinite neg)
    (hlo : lo.isFinite = true) (hhi : hi.isFinite = true) (hab : ¬ hi < lo) :
    fclamp x lo hi = if neg then lo else hi := by
  have hbelow := lt_of_decode_infinite hx hlo
  have habove := lt_of_decode_infinite hx hhi
  unfold fclamp
  dsimp only
  cases neg
  · simp only [Bool.false_eq_true, if_false] at hbelow habove ⊢
    rw [if_neg hbelow.2, if_pos habove.1]
  · simp only [if_true] at hbelow habove ⊢
    rw [if_pos hbelow.1, if_neg hab]

end Geocube
