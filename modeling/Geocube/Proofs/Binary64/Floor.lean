import Geocube.Proofs.Binary64.Nearest

/-!
Comparisons, whole parts and counts of doubles.

Comparing finite doubles with `≤` compares their numbers (`le_iff_value`), a
double between two finite ones is finite (`isFinite_of_le_of_lt`), and a
nonzero finite double is the only one standing for its number
(`eq_of_value_eq`). A double of size at least `2^(g + 52)` is a whole multiple
of `2^g` (`multiple_of_le_abs`). The whole part of a finite double stands for
the floor of its number (`floor_isWhole`); rounding halves away from zero gives
a whole double at most a half away (`roundHalfAway_near`). A whole double
converts to its number clamped to the range (`toIntClamped_isWhole`), and counts
as its number, negatives as zero (`toNatClamped_of_isWhole`); so the count of
the whole part of a finite double below `n` is below `n` (`toNatClamped_floor_lt`).
-/

namespace Geocube
namespace Binary64
open Float.Model Float.Model.UnpackedFloat

variable {x y : Float}

/-! ## Comparisons and equality -/

/-- Of two doubles that are not NaN, one at most the other is not above it. -/
theorem not_lt_of_le (hx : x.isNaN = false) (hy : y.isNaN = false) (h : x ≤ y) : ¬ y < x := by
  intro hyx
  rw [le_iff_compare] at h
  rw [lt_iff_orderKey hy hx] at hyx
  cases hc : x.toModel.unpack.compare y.toModel.unpack with
  | none => simp [hc] at h
  | some o =>
    cases o with
    | lt => exact absurd ((compare_eq_some_lt_iff hx hy).1 hc) (not_lt.2 hyx.le)
    | eq => exact absurd ((compare_eq_some_eq_iff_orderKey hx hy).1 hc) hyx.ne'
    | gt => simp [hc, Ordering.isLE] at h

/-- Comparing two finite doubles with `≤` compares the numbers they stand for. -/
theorem le_iff_value (hx : x.isFinite = true) (hy : y.isFinite = true) :
    x ≤ y ↔ value x ≤ value y := by
  have hxn := isNaN_of_isFinite hx
  have hyn := isNaN_of_isFinite hy
  constructor
  · intro h
    exact not_lt.1 fun hlt => not_lt_of_le hxn hyn h ((lt_iff_value hy hx).2 hlt)
  · intro h
    exact le_of_not_lt hxn hyn fun hyx => absurd ((lt_iff_value hy hx).1 hyx) (not_lt.2 h)

/-- A double at least one finite double and below another is finite: NaN is
above nothing, minus infinity above no finite double, plus infinity below none. -/
theorem isFinite_of_le_of_lt {lo hi : Float} (hlo : lo.isFinite = true) (hhi : hi.isFinite = true)
    (h₁ : lo ≤ x) (h₂ : x < hi) : x.isFinite = true := by
  cases hd : decode x with
  | finite neg m e => exact isFinite_of_decode hd
  | infinite neg =>
    obtain ⟨hbelow, habove⟩ := lt_of_decode_infinite hd hlo
    obtain ⟨-, habove'⟩ := lt_of_decode_infinite hd hhi
    cases neg
    · exact absurd h₂ habove'
    · exact absurd hbelow (not_lt_of_le (isNaN_of_isFinite hlo) (not_isNaN_of_lt hbelow).1 h₁)
  | nan =>
    have hn : x.isNaN = true := isNaN_of_decode_nan hd
    exact absurd (not_isNaN_of_lt h₂).1 (by rw [hn]; decide)

/-- A nonzero finite double is the only double standing for its number. -/
theorem eq_of_value_eq (hx : x.isFinite = true) (hy : y.isFinite = true) (hx0 : value x ≠ 0)
    (h : value x = value y) : x = y := by
  obtain ⟨s₁, m₁, e₁, h₁, hu₁, -, -, -⟩ := unpack_of_value_ne_zero hx hx0
  obtain ⟨s₂, m₂, e₂, h₂, hu₂, -, -, -⟩ := unpack_of_value_ne_zero hy (h ▸ hx0)
  have hkey := (beq_iff_orderKey (isNaN_of_isFinite hx) (isNaN_of_isFinite hy)).1
    ((beq_iff_value hx hy).2 h)
  rw [hu₁, hu₂] at hkey
  -- equal keys of nonzero numbers are equal fields
  have hunp : x.toModel.unpack = y.toModel.unpack := by
    rw [hu₁, hu₂]
    cases s₁ <;> cases s₂ <;> simp [orderKey] at hkey ⊢ <;> omega
  obtain ⟨a⟩ := x
  obtain ⟨b⟩ := y
  rw [← model_pack_unpack a, ← model_pack_unpack b]
  exact congrArg (fun u => Float.ofModel (Float.Model.pack u)) hunp

/-- A finite double of size at least `2^(g + 52)` is a whole multiple of `2^g`. -/
theorem multiple_of_le_abs (hx : x.isFinite = true) {g : Int}
    (h : (2 : ℚ) ^ (g + 52) ≤ |value x|) : ∃ K : Int, value x = K * 2 ^ g := by
  obtain ⟨s, m, e, hm, -, hge, hv⟩ := unpack_of_le_abs hx h
  refine ⟨s.apply m * 2 ^ (e - g).toNat, ?_⟩
  rw [hv, Int.cast_mul, Int.cast_pow, Int.cast_ofNat, mul_assoc, ← zpow_natCast,
    ← zpow_add₀ two_ne_zero]
  congr 2
  omega

/-! ## Whole parts and counts -/

/-- The whole part of a finite double stands for the floor of its number. -/
theorem floor_isWhole (hx : x.isFinite = true) : IsWhole (floor x) ⌊value x⌋ := by
  obtain ⟨neg, m, e, hd⟩ := decode_of_isFinite hx
  rw [floor, hd]
  dsimp only
  by_cases he : 0 ≤ e
  · rw [if_pos he]
    have hw := isWhole_of_nonneg_exp hd he
    rw [hw.2, Int.floor_intCast]
    exact hw
  · rw [if_neg he]
    have hd0 : 0 < pow2 (-e).toNat := by rw [pow2_eq]; exact Nat.two_pow_pos _
    by_cases hmod : m % pow2 (-e).toNat = 0
    · -- no bit below the point: the double is whole and kept
      rw [if_pos (by simpa using hmod)]
      have hw := (isWhole_iff_of_neg_exp hd (by omega)).2 ⟨by rwa [← pow2_eq], rfl⟩
      rw [hw.2, Int.floor_intCast]
      exact hw
    · rw [if_neg (by simpa using hmod)]
      set d := pow2 (-e).toNat with hd'
      have hlt := (shape_of_decode hd).lt
      have hq : m / d + 1 < 2 ^ 53 := by
        have : m / d ≤ m := Nat.div_le_self _ _
        have : m / d < m := Nat.div_lt_self (Nat.pos_of_ne_zero fun h => hmod (by simp [h]))
          (by rw [hd', pow2_eq]; exact Nat.one_lt_two_pow (by omega))
        omega
      have hw := isWhole_ofRatio_nat neg (k := if neg then m / d + 1 else m / d) (by split <;> omega)
      refine ⟨hw.1, ?_⟩
      rw [hw.2]
      congr 1
      -- the floor of `±m / d` when `d` does not divide `m`
      have hv : value x * d = ((if neg then -(m : Int) else m : Int) : ℚ) := by
        rw [hd', pow2_eq]
        exact_mod_cast value_mul_of_neg_exp hd (by omega)
      have hdq : (0 : ℚ) < d := by exact_mod_cast hd0
      have hdiv : d * (m / d) + m % d = m := Nat.div_add_mod m d
      have hr : 0 < m % d := Nat.pos_of_ne_zero hmod
      have hr' : m % d < d := Nat.mod_lt _ hd0
      generalize m / d = q at *
      generalize m % d = r at *
      symm
      rw [Int.floor_eq_iff, ← mul_le_mul_iff_of_pos_right hdq, ← mul_lt_mul_iff_of_pos_right hdq, hv]
      cases neg
      · simp only [Bool.false_eq_true, if_false, Int.cast_natCast]
        constructor
        · exact_mod_cast (show q * d ≤ m by rw [← hdiv, Nat.mul_comm]; omega)
        · exact_mod_cast (show m < (q + 1) * d by rw [← hdiv, Nat.add_mul, Nat.mul_comm]; omega)
      · simp only [↓reduceIte, Int.cast_neg, Int.cast_natCast]
        push_cast
        constructor
        · have : m ≤ (q + 1) * d := by rw [← hdiv, Nat.add_mul, Nat.mul_comm]; omega
          have : (m : ℚ) ≤ ((q : ℚ) + 1) * d := by exact_mod_cast this
          linarith
        · have : q * d < m := by rw [← hdiv, Nat.mul_comm]; omega
          have : (q : ℚ) * d < m := by exact_mod_cast this
          linarith

/-- Rounding a finite double halves away from zero gives a whole double at most
a half from it. -/
theorem roundHalfAway_near (hx : x.isFinite = true) :
    ∃ n : Int, IsWhole (roundHalfAway x) n ∧ |(n : ℚ) - value x| ≤ 1 / 2 := by
  obtain ⟨neg, m, e, hd⟩ := decode_of_isFinite hx
  rw [roundHalfAway, hd]
  dsimp only
  by_cases he : 0 ≤ e
  · rw [if_pos he]
    have hw := isWhole_of_nonneg_exp hd he
    exact ⟨_, hw, by rw [← hw.2, sub_self, abs_zero]; norm_num⟩
  · rw [if_neg he]
    set d := pow2 (-e).toNat with hd'
    have hd2 : 2 ≤ d := by
      rw [hd', pow2_eq]
      calc 2 = 2 ^ 1 := rfl
        _ ≤ 2 ^ (-e).toNat := Nat.pow_le_pow_right (by norm_num) (by omega)
    have hq : m / d < 2 ^ 52 := by
      rw [Nat.div_lt_iff_lt_mul (by omega)]
      calc m < 2 ^ 53 := (shape_of_decode hd).lt
        _ = 2 ^ 52 * 2 := Nat.pow_succ 2 52
        _ ≤ 2 ^ 52 * d := Nat.mul_le_mul_left _ hd2
    set k := if 2 * (m % d) ≥ d then m / d + 1 else m / d with hk
    have hw := isWhole_ofRatio_nat neg (k := k) (by rw [hk]; split <;> omega)
    refine ⟨_, hw, ?_⟩
    have hdq : (0 : ℚ) < d := by exact_mod_cast (show 0 < d by omega)
    have hv : value x * d = ((if neg then -(m : Int) else m : Int) : ℚ) := by
      rw [hd', pow2_eq]
      exact_mod_cast value_mul_of_neg_exp hd (by omega)
    -- the multiple of `d` rounded to is at most `d / 2` from `m`
    have hkm : |(k : ℚ) * d - m| ≤ d / 2 := by
      have hdiv : ((m / d : Nat) : ℚ) * d + (m % d : Nat) = m := by
        exact_mod_cast (show m / d * d + m % d = m by rw [Nat.mul_comm]; exact Nat.div_add_mod m d)
      have hr : ((m % d : Nat) : ℚ) < d := by exact_mod_cast Nat.mod_lt _ (show 0 < d by omega)
      rw [abs_le, hk]
      split_ifs with hhalf
      · have hr' : (d : ℚ) ≤ 2 * (m % d : Nat) := by exact_mod_cast hhalf
        push_cast at hdiv hr hr' ⊢
        constructor <;> linarith
      · have hr' : 2 * ((m % d : Nat) : ℚ) < d := by exact_mod_cast not_le.1 hhalf
        constructor <;> linarith
    have hsplit : |((if neg then -(k : Int) else k : Int) : ℚ) - value x| * d = |(k : ℚ) * d - m| := by
      rw [← abs_of_pos hdq, ← abs_mul, sub_mul, hv, abs_of_pos hdq]
      cases neg
      · simp
      · simp only [↓reduceIte, Int.cast_neg, Int.cast_natCast]
        rw [← abs_neg]
        ring_nf
    rw [← mul_le_mul_iff_of_pos_right hdq, hsplit]
    linarith

/-- A whole double converts to its number clamped to the range. -/
theorem toIntClamped_isWhole {n lo hi : Int} (hw : IsWhole x n) :
    toIntClamped x lo hi = if n < lo then lo else if n > hi then hi else n := by
  obtain ⟨neg, m, e, hd⟩ := decode_of_isFinite hw.1
  unfold toIntClamped
  rw [hd]
  dsimp only
  rw [truncToInt?_of_isWhole hw, Option.getD_some]

/-- A whole double converts to its number when that lies in the range. -/
theorem toIntClamped_of_isWhole {n lo hi : Int} (hw : IsWhole x n) (hlo : lo ≤ n) (hhi : n ≤ hi) :
    toIntClamped x lo hi = n := by
  rw [toIntClamped_isWhole hw]
  split_ifs <;> omega

/-- The count of a whole double of size below `2^64` is its number, a negative
number counting as zero. -/
theorem toNatClamped_of_isWhole {n : Int} (hw : IsWhole x n) (hn : n < 2 ^ 64) :
    toNatClamped x = n.toNat := by
  obtain ⟨neg, m, e, hd⟩ := decode_of_isFinite hw.1
  have ht := truncToInt?_of_isWhole hw
  unfold toNatClamped toIntClamped
  rw [hd]
  dsimp only
  rw [ht, Option.getD_some, pow2_eq]
  split_ifs <;> omega

/-- The count of the whole part of a finite double below `n` is below `n`. -/
theorem toNatClamped_floor_lt {n : Nat} (hn : 0 < n) (hn' : n ≤ 2 ^ 64) (hx : x.isFinite = true)
    (h : value x < n) : toNatClamped (floor x) < n := by
  have hfloor : ⌊value x⌋ < n := Int.floor_lt.2 (by exact_mod_cast h)
  rw [toNatClamped_of_isWhole (floor_isWhole hx) (by omega)]
  omega

/-- NaN counts as zero. -/
theorem toNatClamped_of_nan (h : decode x = .nan) : toNatClamped x = 0 := by
  unfold toNatClamped toIntClamped
  rw [h]
  rfl

end Binary64
end Geocube
