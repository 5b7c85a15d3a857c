import Geocube.Proofs.Binary64.Rounding
import Geocube.Projection.TransverseMercator

/-!
Bringing an angle into `[-π, π]`.

`wrapPi` subtracts the double `turn`, twice `piF`, while the value is above
`piF`, then adds it while the value is below `-piF`. On a finite double below
`2^54` in size a subtraction is within two of the exact one
(`Binary64.sub_error`), so it lowers the value by more than four; and below two
turns it is exact (`Binary64.sub_exact`), so it never passes below `-piF`
(`turnDown_step`). The loop going down therefore ends within a step for each
four units of the value (`turnDown_run`), and so does the loop going up
(`turnUp_step`, `turnUp_run`). `wrapPi` counts more steps than that
(`abs_lt_toNatClamped_abs`): on every finite double below `2^54` in size both
loops end, the result lies in `[-piF, piF]`, and a value within three times
`piF` is moved by exactly one turn or none (`wrapPi_settles`).

Above that size a turn can be lost in rounding. From `1e300` radians less the
central meridian of a UTM zone, which the transverse Mercator projection hands
the loop for the longitude `1e300`, a subtraction gives the value back and the
loop going down never ends (`utm_forward_wrap_never_ends`).
-/

namespace Geocube
open Binary64

/-- The number `piF` stands for, just below `π`. -/
theorem value_piF : value piF = 884279719003555 / 2 ^ 48 := by decide +kernel

theorem value_turn : value turn = 2 * value piF := by decide +kernel

theorem piF_isFinite : piF.isFinite = true := by decide +kernel

theorem turn_isFinite : turn.isFinite = true := by decide +kernel

/-! ## One turn -/

section Steps

variable {x : Float}

/-- Between `piF` and a turn plus four, subtracting a turn is exact. -/
theorem sub_turn_exact (hx : x.isFinite = true) (hlo : value piF < value x)
    (hhi : value x < value turn + 4) :
    (x - turn).isFinite = true ∧ value (x - turn) = value x - value turn := by
  have hP := value_piF
  have hT := value_turn
  refine sub_exact hx turn_isFinite (g := -51) (by norm_num) (by norm_num) ?_ ?_ ?_
  · rw [abs_of_pos (by linarith)]
    norm_num
    linarith
  · rw [hT, hP]
    norm_num
  · rw [abs_lt]
    norm_num
    constructor <;> linarith

/-- Between a turn less four and `-piF`, adding a turn is exact. -/
theorem add_turn_exact (hx : x.isFinite = true) (hhi : value x < -value piF)
    (hlo : -(value turn + 4) < value x) :
    (x + turn).isFinite = true ∧ value (x + turn) = value x + value turn := by
  have hP := value_piF
  have hT := value_turn
  refine add_exact hx turn_isFinite (g := -51) (by norm_num) (by norm_num) ?_ ?_ ?_
  · rw [abs_of_neg (by linarith)]
    norm_num
    linarith
  · rw [hT, hP]
    norm_num
  · rw [abs_lt]
    norm_num
    constructor <;> linarith

/-- One turn down from above `piF`, below `2^54`: the value drops by more than
four and does not pass below `-piF`. -/
theorem turnDown_step (hx : x.isFinite = true) (hlo : value piF < value x)
    (hhi : value x < 2 ^ 54) :
    (x - turn).isFinite = true ∧ -value piF ≤ value (x - turn) ∧
      value (x - turn) ≤ value x - 4 := by
  have hP := value_piF
  have hT := value_turn
  have hx0 : value x ≠ 0 := by rw [hP] at hlo; intro h; rw [h] at hlo; norm_num at hlo
  have hT0 : value turn ≠ 0 := by rw [hT, hP]; norm_num
  have hD : |value x - value turn| < 2 ^ (54 : Int) := by
    rw [abs_lt]
    norm_num
    constructor <;> linarith
  obtain ⟨hfin, herr⟩ := sub_error hx turn_isFinite hx0 hT0 (by norm_num) hD
  norm_num at herr
  rw [abs_le] at herr
  refine ⟨hfin, ?_, by linarith⟩
  by_cases hsmall : value x < value turn + 4
  · -- below a turn plus four the subtraction is exact
    rw [(sub_turn_exact hx hlo hsmall).2]
    linarith
  · linarith

/-- One turn up from below `-piF`, above `-2^54`: the value rises by more than
four and does not pass above `piF`. -/
theorem turnUp_step (hx : x.isFinite = true) (hhi : value x < -value piF)
    (hlo : -2 ^ 54 < value x) :
    (x + turn).isFinite = true ∧ value (x + turn) ≤ value piF ∧
      value x + 4 ≤ value (x + turn) := by
  have hP := value_piF
  have hT := value_turn
  have hx0 : value x ≠ 0 := by rw [hP] at hhi; intro h; rw [h] at hhi; norm_num at hhi
  have hT0 : value turn ≠ 0 := by rw [hT, hP]; norm_num
  have hD : |value x + value turn| < 2 ^ (54 : Int) := by
    rw [abs_lt]
    norm_num
    constructor <;> linarith
  obtain ⟨hfin, herr⟩ := add_error hx turn_isFinite hx0 hT0 (by norm_num) hD
  norm_num at herr
  rw [abs_le] at herr
  refine ⟨hfin, ?_, by linarith⟩
  by_cases hsmall : -(value turn + 4) < value x
  · -- above a turn less four the addition is exact
    rw [(add_turn_exact hx hhi hsmall).2]
    linarith
  · linarith

end Steps

/-! ## The loops -/

theorem turnDown_of_not_gt {x : Float} (h : ¬x > piF) : ∀ k, turnDown k x = x
  | 0 => rfl
  | _ + 1 => by rw [turnDown, if_neg h]

theorem turnUp_of_not_lt {x : Float} (h : ¬x < -piF) : ∀ k, turnUp k x = x
  | 0 => rfl
  | _ + 1 => by rw [turnUp, if_neg h]

theorem negPiF_isFinite : (-piF).isFinite = true := by decide +kernel

theorem value_negPiF : value (-piF) = -value piF := by decide +kernel

theorem gt_piF_iff {x : Float} (hx : x.isFinite = true) : x > piF ↔ value piF < value x :=
  lt_iff_value piF_isFinite hx

theorem lt_negPiF_iff {x : Float} (hx : x.isFinite = true) : x < -piF ↔ value x < -value piF := by
  rw [lt_iff_value hx negPiF_isFinite, value_negPiF]

/-- Going down from a finite double below `2^54`, with a step for each four
units above `piF`, ends at a finite double at or below `piF`; from above `piF`
it ends at or above `-piF`, and from at or below `piF` it does nothing. -/
theorem turnDown_run : ∀ (k : Nat) {x : Float}, x.isFinite = true → value x < 2 ^ 54 →
    value x ≤ 4 * k + value piF →
    (turnDown k x).isFinite = true ∧ value (turnDown k x) ≤ value piF ∧
      (value piF < value x → -value piF ≤ value (turnDown k x)) ∧
      (value x ≤ value piF → turnDown k x = x)
  | 0, x, hx, _, hk => by
    have hle : value x ≤ value piF := by simpa using hk
    exact ⟨hx, hle, fun h => absurd h (not_lt.2 hle), fun _ => rfl⟩
  | k + 1, x, hx, hhi, hk => by
    by_cases hgt : value piF < value x
    · have hguard : x > piF := (gt_piF_iff hx).2 hgt
      obtain ⟨hfin, hlo, hdrop⟩ := turnDown_step hx hgt hhi
      have ih := turnDown_run k hfin (by linarith) (by push_cast at hk; linarith)
      rw [turnDown, if_pos hguard]
      refine ⟨ih.1, ih.2.1, fun _ => ?_, fun h => absurd hgt (not_lt.2 h)⟩
      -- the run from `x - turn` either went on or stopped at once
      by_cases hy : value piF < value (x - turn)
      · exact ih.2.2.1 hy
      · rw [ih.2.2.2 (not_lt.1 hy)]
        exact hlo
    · have hguard : ¬x > piF := fun h => hgt ((gt_piF_iff hx).1 h)
      rw [turnDown, if_neg hguard]
      exact ⟨hx, not_lt.1 hgt, fun h => absurd h hgt, fun _ => rfl⟩

/-- Going up from a finite double above `-2^54`, with a step for each four
units below `-piF`, ends at a finite double at or above `-piF`; from below
`-piF` it ends at or below `piF`, and from at or above `-piF` it does nothing. -/
theorem turnUp_run : ∀ (k : Nat) {x : Float}, x.isFinite = true → -2 ^ 54 < value x →
    -value x ≤ 4 * k + value piF →
    (turnUp k x).isFinite = true ∧ -value piF ≤ value (turnUp k x) ∧
      (value x < -value piF → value (turnUp k x) ≤ value piF) ∧
      (-value piF ≤ value x → turnUp k x = x)
  | 0, x, hx, _, hk => by
    have hle : -value piF ≤ value x := by simp at hk; linarith
    exact ⟨hx, hle, fun h => absurd h (not_lt.2 hle), fun _ => rfl⟩
  | k + 1, x, hx, hlo, hk => by
    by_cases hlt : value x < -value piF
    · have hguard : x < -piF := (lt_negPiF_iff hx).2 hlt
      obtain ⟨hfin, hhi, hrise⟩ := turnUp_step hx hlt hlo
      have ih := turnUp_run k hfin (by linarith) (by push_cast at hk; linarith)
      rw [turnUp, if_pos hguard]
      refine ⟨ih.1, ih.2.1, fun _ => ?_, fun h => absurd hlt (not_lt.2 h)⟩
      -- the run from `x + turn` either went on or stopped at once
      by_cases hy : value (x + turn) < -value piF
      · exact ih.2.2.1 hy
      · rw [ih.2.2.2 (not_lt.1 hy)]
        exact hhi
    · have hguard : ¬x < -piF := fun h => hlt ((lt_negPiF_iff hx).1 h)
      rw [turnUp, if_neg hguard]
      exact ⟨hx, not_lt.1 hlt, fun h => absurd h hlt, fun _ => rfl⟩

/-! ## The steps `wrapPi` counts -/

/-- Truncating a finite double toward zero gives the whole part of its size,
with its sign. -/
theorem truncToInt?_of_decode {x : Float} {neg : Bool} {m : Nat} {e : Int}
    (hd : decode x = .finite neg m e) :
    ∃ n : Nat, truncToInt? x = some (if neg then -(n : Int) else n) ∧
      (n : ℚ) ≤ m * 2 ^ e ∧ (m : ℚ) * 2 ^ e < n + 1 := by
  rw [truncToInt?, hd]
  by_cases he : 0 ≤ e
  · -- a whole number: the mantissa moved left
    have hpow : (2 : ℚ) ^ e = ((2 ^ e.toNat : Nat) : ℚ) := by
      rw [Nat.cast_pow, Nat.cast_ofNat, ← zpow_natCast, Int.toNat_of_nonneg he]
    refine ⟨m * 2 ^ e.toNat, by simp [he, pow2_eq], ?_, ?_⟩ <;> rw [hpow] <;> push_cast <;> linarith
  · -- the mantissa cut by the bits below the binary point
    have hpow : (2 : ℚ) ^ e = (((2 ^ (-e).toNat : Nat) : ℚ))⁻¹ := by
      rw [Nat.cast_pow, Nat.cast_ofNat, ← zpow_natCast, Int.toNat_of_nonneg (by omega), zpow_neg,
        inv_inv]
    have hd0 : (0 : ℚ) < ((2 ^ (-e).toNat : Nat) : ℚ) := by exact_mod_cast Nat.two_pow_pos _
    have hlo : m / 2 ^ (-e).toNat * 2 ^ (-e).toNat ≤ m := Nat.div_mul_le_self m _
    have hhi : m < 2 ^ (-e).toNat * (m / 2 ^ (-e).toNat + 1) :=
      Nat.lt_mul_div_succ m (Nat.two_pow_pos _)
    refine ⟨m / 2 ^ (-e).toNat, by simp [he, pow2_eq], ?_, ?_⟩
    · rw [hpow, ← div_eq_mul_inv, le_div_iff₀ hd0]
      exact_mod_cast hlo
    · rw [hpow, ← div_eq_mul_inv, div_lt_iff₀ hd0]
      have : (m : ℚ) < (2 ^ (-e).toNat : Nat) * ((m / 2 ^ (-e).toNat : Nat) + 1) := by
        exact_mod_cast hhi
      linarith

/-- `wrapPi` counts at least as many steps as the size of the value, less one:
the size truncated to a count, below `2^63` never saturated. -/
theorem abs_lt_toNatClamped_abs {v : Float} (hv : v.isFinite = true) (hV : |value v| < 2 ^ 63) :
    |value v| < Binary64.toNatClamped v.abs + 1 := by
  obtain ⟨habs, hval⟩ := value_abs hv
  obtain ⟨neg, m, e, hd⟩ := decode_of_isFinite habs
  obtain ⟨n, htr, hlo, hhi⟩ := truncToInt?_of_decode hd
  have hv' := value_of_decode hd
  have hpos : (0 : ℚ) < 2 ^ e := zpow_pos two_pos e
  have hm : (0 : ℚ) ≤ m := Nat.cast_nonneg m
  -- the size is not negative, so its fields have no sign unless they are zero
  have hnonneg : (0 : ℚ) ≤ (if neg then -(m : ℚ) else m) * 2 ^ e := by
    rw [← hv', hval]
    exact abs_nonneg _
  have hsign : neg = true → (m : ℚ) * 2 ^ e = 0 := by
    rintro rfl
    rw [if_pos rfl, neg_mul] at hnonneg
    nlinarith
  have hsize : |value v| = m * 2 ^ e := by
    rw [← hval, hv']
    cases neg
    · simp
    · rw [if_pos rfl, neg_mul, hsign rfl, neg_zero]
  have hn' : n < 2 ^ 63 := by
    have hn : (n : ℚ) < 2 ^ 63 := by linarith
    exact_mod_cast hn
  have hint : (if neg then -(n : Int) else n) = n := by
    cases neg
    · rfl
    · have hn0 : (n : ℚ) ≤ 0 := by linarith [hsign rfl]
      have : n = 0 := by exact_mod_cast le_antisymm hn0 (Nat.cast_nonneg n)
      simp [this]
  have hcount : Binary64.toNatClamped v.abs = n := by
    rw [Binary64.toNatClamped, Binary64.toIntClamped, hd]
    simp only [htr, hint, Option.getD_some, pow2_eq]
    rw [if_neg (by omega), if_neg (by omega)]
    rfl
  rw [hcount, hsize]
  exact hhi

/-! ## `wrapPi` -/

/-- From above `piF` up to three times `piF`, one turn down lands in
`[-piF, piF]`, exactly, and the loop stops there. -/
theorem turnDown_near (k : Nat) {x : Float} (hx : x.isFinite = true) (hlo : value piF < value x)
    (hhi : value x ≤ 3 * value piF) :
    turnDown (k + 1) x = x - turn ∧ value (x - turn) = value x - value turn := by
  have hT := value_turn
  have hP := value_piF
  obtain ⟨hfin, hval⟩ := sub_turn_exact hx hlo (by linarith)
  have hstop : ¬x - turn > piF := fun h => by
    have := (gt_piF_iff hfin).1 h
    linarith
  rw [turnDown, if_pos ((gt_piF_iff hx).2 hlo), turnDown_of_not_gt hstop]
  exact ⟨rfl, hval⟩

/-- From below `-piF` down to three times `-piF`, one turn up lands in
`[-piF, piF]`, exactly, and the loop stops there. -/
theorem turnUp_near (k : Nat) {x : Float} (hx : x.isFinite = true) (hhi : value x < -value piF)
    (hlo : -(3 * value piF) ≤ value x) :
    turnUp (k + 1) x = x + turn ∧ value (x + turn) = value x + value turn := by
  have hT := value_turn
  have hP := value_piF
  obtain ⟨hfin, hval⟩ := add_turn_exact hx hhi (by linarith)
  have hstop : ¬x + turn < -piF := fun h => by
    have := (lt_negPiF_iff hfin).1 h
    linarith
  rw [turnUp, if_pos ((lt_negPiF_iff hx).2 hhi), turnUp_of_not_lt hstop]
  exact ⟨rfl, hval⟩

/-- Bringing an angle into `[-π, π]` ends on every finite double below `2^54`
in size: the loop subtracting turns stops, then the loop adding turns stops,
within the steps `wrapPi` counts, so `wrapPi` gives what the loops end at. That
is a finite double in `[-piF, piF]`, and a value within three times `piF` is
moved by exactly one turn, or not at all. -/
theorem wrapPi_settles (v : Float) (hv : v.isFinite = true) (hV : |value v| < 2 ^ 54) :
    (∃ j i : Nat, ¬turnDown j v > piF ∧ ¬turnUp i (turnDown j v) < -piF ∧
      wrapPi v = turnUp i (turnDown j v)) ∧
    (wrapPi v).isFinite = true ∧ -value piF ≤ value (wrapPi v) ∧ value (wrapPi v) ≤ value piF ∧
    (|value v| ≤ 3 * value piF →
      value (wrapPi v) = value v ∨ value (wrapPi v) = value v - value turn ∨
        value (wrapPi v) = value v + value turn) := by
  have hP := value_piF
  have hwrap : wrapPi v = turnUp (Binary64.toNatClamped v.abs + 2)
      (turnDown (Binary64.toNatClamped v.abs + 2) v) := rfl
  rw [hwrap]
  generalize hn : Binary64.toNatClamped v.abs = n
  have hcount : |value v| < n + 1 := hn ▸ abs_lt_toNatClamped_abs hv (by linarith)
  obtain ⟨hlo, hhi⟩ := abs_lt.1 hV
  have hvle : value v ≤ |value v| := le_abs_self _
  have hvge : -|value v| ≤ value v := neg_abs_le _
  -- the loop going down: it stops at or below `piF`, at or above `-piF` if it moved
  obtain ⟨hfin₁, hle₁, hge₁, hstay₁⟩ := turnDown_run (n + 2) hv hhi (by push_cast; linarith)
  have hlo₁ : -2 ^ 54 < value (turnDown (n + 2) v) ∧
      -value (turnDown (n + 2) v) ≤ 4 * ((n + 2 : Nat) : ℚ) + value piF := by
    by_cases hgt : value piF < value v
    · have := hge₁ hgt
      push_cast
      constructor <;> linarith
    · rw [hstay₁ (not_lt.1 hgt)]
      push_cast
      constructor <;> linarith
  -- the loop going up from there
  obtain ⟨hfin₂, hge₂, hle₂, hstay₂⟩ := turnUp_run (n + 2) hfin₁ hlo₁.1 hlo₁.2
  have hle : value (turnUp (n + 2) (turnDown (n + 2) v)) ≤ value piF := by
    by_cases hlt : value (turnDown (n + 2) v) < -value piF
    · exact hle₂ hlt
    · rw [hstay₂ (not_lt.1 hlt)]
      exact hle₁
  refine ⟨⟨n + 2, n + 2, fun h => absurd ((gt_piF_iff hfin₁).1 h) (not_lt.2 hle₁),
    fun h => absurd ((lt_negPiF_iff hfin₂).1 h) (not_lt.2 hge₂), rfl⟩,
    hfin₂, hge₂, hle, fun hnear => ?_⟩
  -- near the range: one exact turn or none
  rw [abs_le] at hnear
  by_cases hgt : value piF < value v
  · obtain ⟨hdown, hval⟩ := turnDown_near (n + 1) hv hgt hnear.2
    have hstop : ¬v - turn < -piF := fun h => by
      have := (lt_negPiF_iff (sub_turn_exact hv hgt (by rw [value_turn]; linarith)).1).1 h
      rw [hval, value_turn] at this
      linarith
    rw [hdown, turnUp_of_not_lt hstop]
    exact .inr (.inl hval)
  · rw [hstay₁ (not_lt.1 hgt)]
    by_cases hlt : value v < -value piF
    · obtain ⟨hup, hval⟩ := turnUp_near (n + 1) hv hlt (by linarith)
      rw [hup]
      exact .inr (.inr hval)
    · rw [turnUp_of_not_lt (fun h => hlt ((lt_negPiF_iff hv).1 h))]
      exact .inl rfl

/-- A thousand radians, about 159 turns, settle in `[-piF, piF]`. -/
theorem thousand_radians_settle :
    (1000.0 : Float).isFinite = true ∧ |value 1000.0| < 2 ^ 54 ∧
      -value piF ≤ value (wrapPi 1000.0) ∧ value (wrapPi 1000.0) ≤ value piF := by
  have hfin : (1000.0 : Float).isFinite = true := by decide +kernel
  have hval : value 1000.0 = 1000 := by decide +kernel
  have hsize : |value 1000.0| < 2 ^ 54 := by rw [hval]; norm_num
  obtain ⟨-, -, hlo, hhi, -⟩ := wrapPi_settles 1000.0 hfin hsize
  exact ⟨hfin, hsize, hlo, hhi⟩

/-! ## A value the loop cannot bring down -/

/-- Above `piF`, a value that subtracting a turn gives back stays as it is
however many steps the loop takes. -/
theorem turnDown_stalls {x : Float} (hgt : x > piF) (h : x - turn = x) : ∀ k, turnDown k x = x
  | 0 => rfl
  | k + 1 => by rw [turnDown, if_pos hgt, h, turnDown_stalls hgt h k]

/-- The transverse Mercator projection of UTM zone 55 south, asked for the
longitude `1e300`, hands the loop `1e300` radians less its central meridian:
a value above `piF` from which subtracting a turn gives the value back, so the
loop going down never ends. -/
theorem utm_forward_wrap_never_ends :
    toRadians 1e300 - (TransverseMercator.utm 55 false).lon0 > piF ∧
      toRadians 1e300 - (TransverseMercator.utm 55 false).lon0 - turn =
        toRadians 1e300 - (TransverseMercator.utm 55 false).lon0 ∧
      ∀ k, turnDown k (toRadians 1e300 - (TransverseMercator.utm 55 false).lon0) =
        toRadians 1e300 - (TransverseMercator.utm 55 false).lon0 := by
  have hgt : toRadians 1e300 - (TransverseMercator.utm 55 false).lon0 > piF := by decide +kernel
  have hback : toRadians 1e300 - (TransverseMercator.utm 55 false).lon0 - turn =
      toRadians 1e300 - (TransverseMercator.utm 55 false).lon0 :=
    toBits_injective (by decide +kernel)
  exact ⟨hgt, hback, turnDown_stalls hgt hback⟩

end Geocube
