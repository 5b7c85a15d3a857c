import Geocube.Grid.ReadWindow
import Geocube.Proofs.Binary64.Floor
import Mathlib.Order.Basic
import Mathlib.Tactic.SplitIfs
import Mathlib.Tactic.ByContra

/-!
Aligned read windows are exact.

When the destination's pixels are whole blocks of `k` source pixels, destination
index `j` is fed by the source pixels `[t + j*k, t + (j+1)*k)`. `blockSpan`
classifies one axis with two floor and two ceiling divisions: the blocks that
meet the source `[0, srcLen)` are those from `⌊-t/k⌋` up to `⌈(srcLen - t)/k⌉`,
and the blocks inside it those from `⌈-t/k⌉` up to `⌊(srcLen - t)/k⌋`
(`meets_iff`, `inside_iff`); both ranges are then clipped to the destination.
The arithmetic is on signed 64-bit words: `-t`, `srcLen - t` and the negations
around a ceiling wrap. While neither `-t` nor `srcLen - t` leaves the word range
(`NoWrap`), the ceilings are exact (`ceilDiv_eq_ceilQuot`) and so is the
classification.

Main statement, `aligned_windows_exact`: for an offset that is a word, a source
length that is not negative and a positive block size, as long as the source
length minus the offset is below `2^63`, the span is empty when no block of the
destination meets the source, full with the range of the blocks that meet it
when all of those lie inside it, and straddling when one of them sticks out.
Whatever the grids, every window an aligned read returns lies inside its grid:
a full span of the word arithmetic has its ends between the wrapped `-t` and
`srcLen - t` (`full_wordBounds`), and the casts of the windows to counts give
the residues of their exact values (`axis_window`). For a source whose shape is
a word, the source window is made of the destination window's blocks. Past the
word range the classification goes wrong (`overflowing_span_straddles`).
-/

namespace Geocube.ReadWindow

open Binary64

/-- Block `j` of `k` source pixels from `t` shares a pixel with `[0, srcLen)`. -/
def Meets (t k srcLen j : Int) : Prop := t + j * k < srcLen ∧ 0 < t + (j + 1) * k

/-- Block `j` of `k` source pixels from `t` lies inside `[0, srcLen)`. -/
def Inside (t k srcLen j : Int) : Prop := 0 ≤ t + j * k ∧ t + (j + 1) * k ≤ srcLen

instance (t k srcLen j : Int) : Decidable (Meets t k srcLen j) :=
  inferInstanceAs (Decidable (_ ∧ _))

instance (t k srcLen j : Int) : Decidable (Inside t k srcLen j) :=
  inferInstanceAs (Decidable (_ ∧ _))

/-- The source window is made of the destination window's `kx × ky` blocks, the
first of them starting at source pixel `(ty, tx)`. -/
def BlocksOf (rw : ReadWindow) (kx ky tx ty : Int) : Prop :=
  (rw.src.rowOff : Int) = ty + rw.dst.rowOff * ky ∧ (rw.src.colOff : Int) = tx + rw.dst.colOff * kx ∧
    (rw.src.height : Int) = rw.dst.height * ky ∧ (rw.src.width : Int) = rw.dst.width * kx

/-! ## Signed 64-bit words -/

/-- A value of the signed 64-bit range. -/
def InWord (x : Int) : Prop := -(2 ^ 63) ≤ x ∧ x < 2 ^ 63

instance (x : Int) : Decidable (InWord x) := inferInstanceAs (Decidable (_ ∧ _))

namespace Word

theorem wrap_eq_emod (x : Int) : wrap x = (x + 2 ^ 63) % 2 ^ 64 - 2 ^ 63 := by
  simp [wrap, pow2]

theorem toUsize_eq_toNat (x : Int) : toUsize x = (x % 2 ^ 64).toNat := by
  simp [toUsize, pow2]

theorem wrap_inWord (x : Int) : InWord (wrap x) := by
  rw [wrap_eq_emod]
  unfold InWord
  omega

theorem wrap_of_inWord {x : Int} (h : InWord x) : wrap x = x := by
  unfold InWord at h
  rw [wrap_eq_emod]
  omega

/-- A wrapped value differs from the value by a multiple of `2^64`. -/
theorem wrap_eq_add (x : Int) : ∃ q : Int, wrap x = x + q * 2 ^ 64 :=
  ⟨-((x + 2 ^ 63) / 2 ^ 64), by rw [wrap_eq_emod]; omega⟩

/-- A count as a word is at most the count. -/
theorem wrap_le (x : Nat) : wrap x ≤ x := by
  rw [wrap_eq_emod]
  omega

/-- The count of a value `2^64`-congruent to one in `[0, 2^64)` is that one. -/
theorem toUsize_eq {x y q : Int} (h0 : 0 ≤ y) (h1 : y < 2 ^ 64) (h : x = y + q * 2 ^ 64) :
    (toUsize x : Int) = y := by
  rw [toUsize_eq_toNat]
  omega

theorem toUsize_of_lt {x : Int} (h0 : 0 ≤ x) (h1 : x < 2 ^ 64) : (toUsize x : Int) = x :=
  toUsize_eq (q := 0) h0 h1 (by omega)

/-- `-t` does not wrap when `m - t` wraps to a positive word for a count `m`
below `2^63`: an offset of `-2^63` would take `m - t` to at least `2^63`, which
wraps to a negative word. -/
theorem wrap_neg_eq {t : Int} {m : Nat} (ht : InWord t) (hm : m < 2 ^ 63) (h : 0 < wrap (m - t)) :
    wrap (-t) = -t := by
  obtain ⟨b, hB⟩ := wrap_eq_add (m - t)
  have hBw := wrap_inWord (m - t)
  unfold InWord at ht hBw
  exact wrap_of_inWord (by unfold InWord; omega)

/-- The wrapped `m - t` less the wrapped `-t` is `2^64`-congruent to `m` and
below `2^64`, so at most `m`. -/
theorem wrap_sub_wrap_le (t : Int) (m : Nat) : wrap (wrap m - t) - wrap (-t) ≤ m := by
  obtain ⟨a, hA⟩ := wrap_eq_add (-t)
  obtain ⟨b, hB⟩ := wrap_eq_add (wrap m - t)
  obtain ⟨c, hM⟩ := wrap_eq_add m
  have hAw := wrap_inWord (-t)
  have hBw := wrap_inWord (wrap m - t)
  unfold InWord at hAw hBw
  omega

end Word

/-- Division by a positive block size moves a value toward zero and never
past it. -/
theorem ediv_between (a : Int) {k : Int} (hk : 0 < k) : min a 0 ≤ a / k ∧ a / k ≤ max a 0 := by
  rcases le_or_gt 0 a with h0 | h0
  · have h1 := Int.ediv_nonneg h0 hk.le
    have h2 := Int.ediv_le_self k h0
    omega
  · have h1 : a ≤ a / k := (Int.le_ediv_iff_mul_le hk).2 (by nlinarith)
    have h2 : a / k < 0 := (Int.ediv_lt_iff_lt_mul hk).2 (by omega)
    omega

theorem toIntClamped_between (x : Float) {lo hi : Int} (hlo : lo ≤ 0) (hhi : 0 ≤ hi) :
    lo ≤ toIntClamped x lo hi ∧ toIntClamped x lo hi ≤ hi := by
  unfold toIntClamped
  split
  · omega
  · split <;> omega
  · dsimp only
    split_ifs <;> omega

theorem pow2_sixtyThree : ((pow2 63 : Nat) : Int) = 2 ^ 63 := by simp [pow2]

/-- Offsets and block sizes are rounded to a saturated word. -/
theorem roundedWord_inWord (x : Float) : InWord (roundedWord x) := by
  have h := toIntClamped_between (roundHalfAway x)
    (show -((pow2 63 : Nat) : Int) ≤ 0 by omega)
    (show 0 ≤ ((pow2 63 : Nat) : Int) - 1 by simp [pow2])
  unfold roundedWord InWord
  rw [pow2_sixtyThree] at h ⊢
  omega

/-- A resolution that is not below a half rounds to a block size that is not
negative: NaN converts to zero, plus infinity to the largest word, and a finite
double of at least a half rounds to a whole number that is not negative. -/
theorem roundedWord_nonneg {x : Float} (h : ¬ x < 0.5) : 0 ≤ roundedWord x := by
  have hhalf : (0.5 : Float).isFinite = true := by decide +kernel
  unfold roundedWord
  cases hd : decode x with
  | nan => simp [roundHalfAway, toIntClamped, hd]
  | infinite neg =>
    rw [roundHalfAway_of_infinite hd]
    cases neg
    · simp only [toIntClamped, hd, Bool.false_eq_true, if_false, pow2_sixtyThree]
      omega
    · exact absurd (lt_of_decode_infinite hd hhalf).1 h
  | finite neg m e =>
    have hx := isFinite_of_decode hd
    have hv : (1 : ℚ) / 2 ≤ value x := by
      have hval : value (0.5 : Float) = 1 / 2 := by decide +kernel
      have hle := le_of_not_lt (isNaN_of_isFinite hhalf) (isNaN_of_isFinite hx) h
      rw [← hval]
      exact (le_iff_value hhalf hx).1 hle
    obtain ⟨n, hw, hn⟩ := roundHalfAway_near hx
    have hn0 : 0 ≤ n := by
      have : (0 : ℚ) ≤ n := by linarith [(abs_le.1 hn).1]
      exact_mod_cast this
    rw [toIntClamped_isWhole hw, pow2_sixtyThree]
    split_ifs <;> omega

/-! ## Floor and ceiling division by a positive block size -/

/-- Division rounding up, in exact integers. -/
def ceilQuot (a k : Int) : Int := -((-a) / k)

section Divisions

variable {a j k : Int}

theorem floorDiv_lt_iff (hk : 0 < k) : floorDiv a k < j ↔ a < j * k :=
  Int.ediv_lt_iff_lt_mul hk

theorem ceilQuot_le_iff (hk : 0 < k) : ceilQuot a k ≤ j ↔ a ≤ j * k := by
  have h : -j ≤ (-a) / k ↔ -j * k ≤ -a := Int.le_ediv_iff_mul_le hk
  rw [Int.neg_mul] at h
  unfold ceilQuot
  omega

theorem lt_ceilQuot_iff (hk : 0 < k) : j < ceilQuot a k ↔ j * k < a := by
  rw [← Int.not_le, ceilQuot_le_iff hk, Int.not_le]

theorem floorDiv_le_ceilQuot (hk : 0 < k) : floorDiv a k ≤ ceilQuot a k := by
  have hc : a ≤ ceilQuot a k * k := (ceilQuot_le_iff hk).1 (Int.le_refl _)
  have hnext : a < (ceilQuot a k + 1) * k := by
    rw [Int.add_mul, Int.one_mul]
    omega
  have := (floorDiv_lt_iff hk).2 hnext
  omega

/-- The word ceiling is the exact one for a value strictly inside the word
range: its negation is a word, and so is the negated quotient. -/
theorem ceilDiv_eq_ceilQuot (hk : 0 < k) (ha : -(2 ^ 63) < a) (ha' : a < 2 ^ 63) :
    ceilDiv a k = ceilQuot a k := by
  have hneg : Word.wrap (-a) = -a := Word.wrap_of_inWord (by unfold InWord; omega)
  have hq := ediv_between (-a) hk
  unfold ceilDiv ceilQuot
  rw [hneg]
  exact Word.wrap_of_inWord (by unfold InWord; omega)

end Divisions

/-! ## Which blocks meet the source, and which lie inside it -/

/-- Neither `-t` nor `srcLen - t` is `-2^63` or outside the word range, so no
step of `blockSpan t k srcLen _` wraps. -/
def NoWrap (t srcLen : Int) : Prop :=
  -(2 ^ 63) < t ∧ t < 2 ^ 63 ∧ -(2 ^ 63) < srcLen - t ∧ srcLen - t < 2 ^ 63

section Blocks

variable {t k s d j j0 j1 : Int}

/-- An offset that is a word and a source length that is not negative wrap
nothing while the length minus the offset stays below `2^63`. -/
theorem noWrap_of_lt (ht : InWord t) (hs : 0 ≤ s) (hst : s - t < 2 ^ 63) : NoWrap t s := by
  unfold InWord at ht
  unfold NoWrap
  omega

theorem meets_iff (hk : 0 < k) : Meets t k s j ↔ floorDiv (-t) k ≤ j ∧ j < ceilQuot (s - t) k := by
  have hlo : floorDiv (-t) k < j + 1 ↔ -t < (j + 1) * k := floorDiv_lt_iff hk
  have hhi : j < ceilQuot (s - t) k ↔ j * k < s - t := lt_ceilQuot_iff hk
  unfold Meets
  omega

theorem inside_iff (hk : 0 < k) : Inside t k s j ↔ ceilQuot (-t) k ≤ j ∧ j < floorDiv (s - t) k := by
  have hlo : ceilQuot (-t) k ≤ j ↔ -t ≤ j * k := ceilQuot_le_iff hk
  have hhi : floorDiv (s - t) k < j + 1 ↔ s - t < (j + 1) * k := floorDiv_lt_iff hk
  unfold Inside
  omega

/-- The destination indices whose block meets the source form the clipped
range that `blockSpan` compares. -/
theorem meets_in_range_iff (hk : 0 < k) :
    (0 ≤ j ∧ j < d ∧ Meets t k s j) ↔
      max (floorDiv (-t) k) 0 ≤ j ∧ j < min (ceilQuot (s - t) k) d := by
  rw [meets_iff hk]
  omega

/-- With nothing wrapping, `blockSpan` compares the exact ranges. -/
theorem blockSpan_eq (hk : 0 < k) (hw : NoWrap t s) :
    blockSpan t k s d =
      if min (ceilQuot (s - t) k) d ≤ max (floorDiv (-t) k) 0 then .empty
      else if max (ceilQuot (-t) k) 0 = max (floorDiv (-t) k) 0 ∧
          min (floorDiv (s - t) k) d = min (ceilQuot (s - t) k) d then
        .full (max (ceilQuot (-t) k) 0) (min (floorDiv (s - t) k) d)
      else .straddling := by
  unfold NoWrap at hw
  have hneg : Word.wrap (-t) = -t := Word.wrap_of_inWord (by unfold InWord; omega)
  have hsub : Word.wrap (s - t) = s - t := Word.wrap_of_inWord (by unfold InWord; omega)
  have hceil₁ : ceilDiv (-t) k = ceilQuot (-t) k := ceilDiv_eq_ceilQuot hk (by omega) (by omega)
  have hceil₂ : ceilDiv (s - t) k = ceilQuot (s - t) k := ceilDiv_eq_ceilQuot hk (by omega) (by omega)
  simp only [blockSpan, hneg, hsub, hceil₁, hceil₂, Bool.and_eq_true, beq_iff_eq]

/-- Two descriptions of one non-empty range of integers have the same ends. -/
theorem range_eq_of_iff {lo hi : Int} (hlt : j0 < j1)
    (hset : ∀ j, (lo ≤ j ∧ j < hi) ↔ (j0 ≤ j ∧ j < j1)) : lo = j0 ∧ hi = j1 := by
  have h0 := (hset j0).2 ⟨(Int.le_refl _), hlt⟩
  have h1 := (hset (j1 - 1)).2 ⟨by omega, by omega⟩
  have h2 := (hset lo).1 ⟨(Int.le_refl _), by omega⟩
  have h3 := (hset (hi - 1)).1 ⟨by omega, by omega⟩
  omega

theorem blockSpan_eq_empty_iff (hk : 0 < k) (hw : NoWrap t s) :
    blockSpan t k s d = .empty ↔ ∀ j, 0 ≤ j → j < d → ¬ Meets t k s j := by
  have hrange := fun j => meets_in_range_iff (t := t) (s := s) (d := d) (j := j) hk
  rw [blockSpan_eq hk hw]
  split_ifs with hempty hfull
  · simp only [true_iff]
    intro j h0 hd hm
    have := (hrange j).1 ⟨h0, hd, hm⟩
    omega
  all_goals
    simp only [false_iff, not_forall, not_not]
    -- the first index of the clipped range meets the source
    have hfirst := (hrange (max (floorDiv (-t) k) 0)).2 ⟨(Int.le_refl _), by omega⟩
    exact ⟨_, hfirst.1, hfirst.2.1, hfirst.2.2⟩

theorem blockSpan_eq_full_iff (hk : 0 < k) (hw : NoWrap t s) :
    blockSpan t k s d = .full j0 j1 ↔
      j0 < j1 ∧ (∀ j, (0 ≤ j ∧ j < d ∧ Meets t k s j) ↔ j0 ≤ j ∧ j < j1) ∧
        ∀ j, j0 ≤ j → j < j1 → Inside t k s j := by
  have hlo := floorDiv_le_ceilQuot (a := -t) hk
  have hhi := floorDiv_le_ceilQuot (a := s - t) hk
  simp only [meets_in_range_iff hk, inside_iff hk]
  rw [blockSpan_eq hk hw]
  split_ifs with hempty hfull
  · simp only [false_iff, not_and]
    intro hlt hset
    have := (hset j0).2 ⟨(Int.le_refl _), hlt⟩
    omega
  · rw [BlockSpan.full.injEq]
    constructor
    · rintro ⟨rfl, rfl⟩
      exact ⟨by omega, fun j => by omega, fun j _ _ => by omega⟩
    · rintro ⟨hlt, hset, hin⟩
      have hends := range_eq_of_iff hlt hset
      have := hin j0 (Int.le_refl _) hlt
      have := hin (j1 - 1) (by omega) (by omega)
      omega
  · simp only [false_iff, not_and]
    intro hlt hset hin
    -- the reported range is the meeting range, and its end blocks lie inside
    have hends := range_eq_of_iff hlt hset
    have := hin j0 (Int.le_refl _) hlt
    have := hin (j1 - 1) (by omega) (by omega)
    exact hfull ⟨by omega, by omega⟩

theorem blockSpan_eq_straddling_iff (hk : 0 < k) (hw : NoWrap t s) :
    blockSpan t k s d = .straddling ↔ ∃ j, (0 ≤ j ∧ j < d ∧ Meets t k s j) ∧ ¬ Inside t k s j := by
  have hlo := floorDiv_le_ceilQuot (a := -t) hk
  have hhi := floorDiv_le_ceilQuot (a := s - t) hk
  simp only [meets_in_range_iff hk, inside_iff hk]
  rw [blockSpan_eq hk hw]
  split_ifs with hempty hfull
  · simp only [false_iff, not_exists, not_and]
    intro j h0 h1
    omega
  · simp only [false_iff, not_exists, not_and]
    intro j h0 h1
    omega
  · simp only [true_iff]
    -- a clipped end that moved inwards leaves its end block sticking out
    by_cases hsame : max (ceilQuot (-t) k) 0 = max (floorDiv (-t) k) 0
    · exact ⟨min (ceilQuot (s - t) k) d - 1, by omega, by omega⟩
    · exact ⟨max (floorDiv (-t) k) 0, by omega, by omega⟩

/-! ## Full spans in word arithmetic -/

/-- A block size of zero divides everything to zero: no block meets the source. -/
theorem blockSpan_zero : blockSpan t 0 s d = .empty := by
  simp [blockSpan, floorDiv, ceilDiv, Word.wrap_eq_emod]

/-- The ends of a full span, whatever wraps: its blocks start at or after the
wrapped `-t` and end at or before the wrapped `srcLen - t`. -/
theorem full_wordBounds (hk : 0 < k) (h : blockSpan t k s d = .full j0 j1) :
    0 ≤ j0 ∧ j0 < j1 ∧ j1 ≤ d ∧ Word.wrap (-t) ≤ j0 * k ∧ j1 * k ≤ Word.wrap (s - t) := by
  have hA := Word.wrap_inWord (-t)
  simp only [blockSpan, Bool.and_eq_true, beq_iff_eq] at h
  generalize Word.wrap (-t) = A at h hA
  generalize Word.wrap (s - t) = B at h
  split_ifs at h with hempty hfull
  · rw [BlockSpan.full.injEq] at h
    obtain ⟨rfl, rfl⟩ := h
    refine ⟨le_max_right _ _, by omega, min_le_right _ _, ?_,
      (Int.le_ediv_iff_mul_le hk).1 (min_le_left _ _)⟩
    -- the least word has no exact ceiling, but lies below every block start
    by_cases hmin : A = -(2 ^ 63)
    · have := Int.mul_nonneg (le_max_right (ceilDiv A k) 0) hk.le
      omega
    · unfold InWord at hA
      rw [ceilDiv_eq_ceilQuot hk (by omega) hA.2]
      exact (ceilQuot_le_iff hk).1 (le_max_left _ _)

end Blocks

/-! ## Windows of an aligned read -/

/-- Both windows of an axis of a full span, whatever the lengths: the destination
part lies inside `[0, n)`, the source part inside `[0, m)`, neither is empty, and
for a source length below `2^63` the source part is made of the blocks of the
destination part. The source part is `[j0*k - A, j1*k - A)` for the wrapped
`A = -t`, cast to counts, inside `[0, B - A)` for the wrapped `B = m - t`; and
`B - A` is the residue of `m`. -/
theorem axis_window {t k j0 j1 : Int} {m n : Nat} (hk : 0 < k) (ht : InWord t)
    (h : blockSpan t k (Word.wrap m) (Word.wrap n) = .full j0 j1) :
    Word.toUsize j0 + Word.toUsize (j1 - j0) ≤ n ∧ 0 < Word.toUsize (j1 - j0) ∧
      Word.toUsize (t + j0 * k) + Word.toUsize ((j1 - j0) * k) ≤ m ∧
      0 < Word.toUsize ((j1 - j0) * k) ∧
      (m < 2 ^ 63 → (Word.toUsize (t + j0 * k) : Int) = t + (Word.toUsize j0 : Int) * k ∧
        (Word.toUsize ((j1 - j0) * k) : Int) = (Word.toUsize (j1 - j0) : Int) * k) := by
  obtain ⟨h0, hlt, h1, hA, hB⟩ := full_wordBounds hk h
  have hstep : j0 * k < j1 * k := Int.mul_lt_mul_of_pos_right hlt hk
  have hfirst : 0 ≤ j0 * k := Int.mul_nonneg h0 hk.le
  have hsplit : (j1 - j0) * k = j1 * k - j0 * k := Int.sub_mul j1 j0 k
  have hdst := Word.wrap_le n
  have hdist := Word.wrap_sub_wrap_le t m
  have hn := (Word.wrap_inWord n).2
  have hBw := (Word.wrap_inWord (Word.wrap m - t)).2
  have hAw := (Word.wrap_inWord (-t)).1
  obtain ⟨a, hAa⟩ := Word.wrap_eq_add (-t)
  have hj0 : (Word.toUsize j0 : Int) = j0 := Word.toUsize_of_lt h0 (by omega)
  have hlen : (Word.toUsize (j1 - j0) : Int) = j1 - j0 := Word.toUsize_of_lt (by omega) (by omega)
  have hoff : (Word.toUsize (t + j0 * k) : Int) = j0 * k - Word.wrap (-t) :=
    Word.toUsize_eq (q := a) (by omega) (by omega) (by omega)
  have hlenk : (Word.toUsize ((j1 - j0) * k) : Int) = (j1 - j0) * k :=
    Word.toUsize_of_lt (by omega) (by omega)
  refine ⟨by omega, by omega, by omega, by omega, fun hm => ⟨?_, ?_⟩⟩
  · have hmw : Word.wrap m = m := Word.wrap_of_inWord (by unfold InWord; omega)
    rw [hmw] at hB
    rw [hoff, hj0, Word.wrap_neg_eq ht hm (by omega)]
    omega
  · rw [hlenk, hlen]

variable {src dst : GeoBox} {rel : Affine} {rw : ReadWindow}

/-- What an aligned read is made of: block sizes that are not negative, a full
span on each axis of the word arithmetic, the destination window their index
ranges and the source window their blocks, each cast to a count. -/
theorem aligned_eq_some_some (h : aligned src dst rel = some (some rw)) :
    ∃ c0 c1 r0 r1,
      0 ≤ roundedWord rel.resolution.1 ∧ 0 ≤ roundedWord rel.resolution.2 ∧
      blockSpan (roundedWord rel.origin.1) (roundedWord rel.resolution.1)
        (Word.wrap src.width) (Word.wrap dst.width) = .full c0 c1 ∧
      blockSpan (roundedWord rel.origin.2) (roundedWord rel.resolution.2)
        (Word.wrap src.height) (Word.wrap dst.height) = .full r0 r1 ∧
      rw.dst = ⟨Word.toUsize r0, Word.toUsize c0, Word.toUsize (r1 - r0), Word.toUsize (c1 - c0)⟩ ∧
      rw.src = ⟨Word.toUsize (roundedWord rel.origin.2 + r0 * roundedWord rel.resolution.2),
        Word.toUsize (roundedWord rel.origin.1 + c0 * roundedWord rel.resolution.1),
        Word.toUsize ((r1 - r0) * roundedWord rel.resolution.2),
        Word.toUsize ((c1 - c0) * roundedWord rel.resolution.1)⟩ := by
  unfold aligned at h
  split_ifs at h
  split at h
  next sx sy hres =>
    split_ifs at h with hsmall
    simp only [Bool.or_eq_true, not_or] at hsmall
    obtain ⟨⟨⟨hx, hy⟩, -⟩, -⟩ := hsmall
    dsimp only at h
    split at h
    next c0 c1 r0 r1 hcols hrows =>
      cases h
      rw [hres]
      exact ⟨c0, c1, r0, r1, roundedWord_nonneg (by simpa using hx),
        roundedWord_nonneg (by simpa using hy), hcols, hrows, rfl, rfl⟩
    all_goals cases h

/-- A full span has a positive block size: a block size of zero leaves the span
empty. -/
theorem pos_of_full {t k s d j0 j1 : Int} (hk : 0 ≤ k) (h : blockSpan t k s d = .full j0 j1) :
    0 < k := by
  rcases Int.lt_or_eq_of_le hk with hpos | rfl
  · exact hpos
  · rw [blockSpan_zero] at h
    cases h

theorem aligned_windows_inside (h : aligned src dst rel = some (some rw)) :
    dst.fullWindow.contains rw.dst = true ∧ src.fullWindow.contains rw.src = true ∧
      0 < rw.dst.height ∧ 0 < rw.dst.width ∧ 0 < rw.src.height ∧ 0 < rw.src.width ∧
      (src.height < 2 ^ 63 → src.width < 2 ^ 63 →
        BlocksOf rw (roundedWord rel.resolution.1) (roundedWord rel.resolution.2)
          (roundedWord rel.origin.1) (roundedWord rel.origin.2)) := by
  obtain ⟨c0, c1, r0, r1, hkx, hky, hcols, hrows, hdst, hsrc⟩ := aligned_eq_some_some h
  have ⟨hc, hcw, hcs, hcsw, hcblocks⟩ :=
    axis_window (pos_of_full hkx hcols) (roundedWord_inWord _) hcols
  have ⟨hr, hrh, hrs, hrsh, hrblocks⟩ :=
    axis_window (pos_of_full hky hrows) (roundedWord_inWord _) hrows
  unfold BlocksOf
  rw [hdst, hsrc]
  refine ⟨?_, ?_, hrh, hcw, hrsh, hcsw, fun hh hw => ?_⟩
  · unfold Window.contains Window.rowEnd Window.colEnd GeoBox.fullWindow
    simp only [Bool.and_eq_true, decide_eq_true_eq]
    omega
  · unfold Window.contains Window.rowEnd Window.colEnd GeoBox.fullWindow
    simp only [Bool.and_eq_true, decide_eq_true_eq]
    omega
  · obtain ⟨hr0, hrlen⟩ := hrblocks hh
    obtain ⟨hc0, hclen⟩ := hcblocks hw
    exact ⟨hr0, hc0, hrlen, hclen⟩

/-- Aligned read windows are exact. For an offset that is a word and a positive
block size, while the source length minus the offset is below `2^63`, the span
of an axis is classified exactly. Every aligned read has both windows inside
their grids, and for a source whose shape is a word it reads the blocks of its
destination window. -/
theorem aligned_windows_exact (t k srcLen dstLen : Int) (src dst : GeoBox) (rel : Affine) (rw : ReadWindow) :
    (0 < k → InWord t → 0 ≤ srcLen → srcLen - t < 2 ^ 63 →
      (blockSpan t k srcLen dstLen = .empty ↔ ∀ j, 0 ≤ j → j < dstLen → ¬ Meets t k srcLen j) ∧
      (∀ j0 j1, blockSpan t k srcLen dstLen = .full j0 j1 ↔
        j0 < j1 ∧ (∀ j, (0 ≤ j ∧ j < dstLen ∧ Meets t k srcLen j) ↔ j0 ≤ j ∧ j < j1) ∧
          ∀ j, j0 ≤ j → j < j1 → Inside t k srcLen j) ∧
      (blockSpan t k srcLen dstLen = .straddling ↔
        ∃ j, (0 ≤ j ∧ j < dstLen ∧ Meets t k srcLen j) ∧ ¬ Inside t k srcLen j)) ∧
    (aligned src dst rel = some (some rw) →
      dst.fullWindow.contains rw.dst = true ∧ src.fullWindow.contains rw.src = true ∧
        (src.height < 2 ^ 63 → src.width < 2 ^ 63 →
          BlocksOf rw (roundedWord rel.resolution.1) (roundedWord rel.resolution.2)
            (roundedWord rel.origin.1) (roundedWord rel.origin.2))) := by
  refine ⟨fun hk ht hs hst => ?_, fun h => ?_⟩
  · have hw := noWrap_of_lt ht hs hst
    exact ⟨blockSpan_eq_empty_iff hk hw, fun _ _ => blockSpan_eq_full_iff hk hw,
      blockSpan_eq_straddling_iff hk hw⟩
  · obtain ⟨hdst, hsrc, -, -, -, -, hblocks⟩ := aligned_windows_inside h
    exact ⟨hdst, hsrc, hblocks⟩

/-- A source three pixels right of and two down from an 8 × 8 destination of the
same pixel size: the last five columns and six rows are copied from the
source's top-left corner. Blocks of two pixels starting three pixels before a
source of eight straddle its first edge. -/
theorem offset_source_copies_corner :
    blockSpan (-3) 2 8 4 = .straddling ∧
      (aligned ⟨.wgs84, Affine.new 1.0 0.0 3.0 0.0 (-1.0) (-2.0), (10, 10)⟩
          ⟨.wgs84, Affine.new 1.0 0.0 0.0 0.0 (-1.0) 0.0, (8, 8)⟩
          (Affine.translation (-3.0) (-2.0)) = some (some ⟨⟨0, 0, 6, 5⟩, ⟨2, 3, 6, 5⟩, .copy⟩) ∧
        (⟨0, 0, 8, 8⟩ : Window).contains ⟨2, 3, 6, 5⟩ = true ∧
        (⟨0, 0, 10, 10⟩ : Window).contains ⟨0, 0, 6, 5⟩ = true ∧
        BlocksOf ⟨⟨0, 0, 6, 5⟩, ⟨2, 3, 6, 5⟩, .copy⟩ 1 1 (-3) (-2)) := by
  have hexact := aligned_windows_exact (-3) 2 8 4 ⟨.wgs84, Affine.new 1.0 0.0 3.0 0.0 (-1.0) (-2.0), (10, 10)⟩
    ⟨.wgs84, Affine.new 1.0 0.0 0.0 0.0 (-1.0) 0.0, (8, 8)⟩ (Affine.translation (-3.0) (-2.0))
    ⟨⟨0, 0, 6, 5⟩, ⟨2, 3, 6, 5⟩, .copy⟩
  have hspan := ((hexact.1 (by decide) (by decide) (by decide) (by decide)).2.2).2
    ⟨1, ⟨by decide, by decide, by decide⟩, by decide⟩
  have haligned : aligned ⟨.wgs84, Affine.new 1.0 0.0 3.0 0.0 (-1.0) (-2.0), (10, 10)⟩
      ⟨.wgs84, Affine.new 1.0 0.0 0.0 0.0 (-1.0) 0.0, (8, 8)⟩
      (Affine.translation (-3.0) (-2.0)) = some (some ⟨⟨0, 0, 6, 5⟩, ⟨2, 3, 6, 5⟩, .copy⟩) := by
    decide
  have hwin := hexact.2 haligned
  have hblocks := hwin.2.2 (by decide) (by decide)
  have hres : roundedWord (Affine.translation (-3.0) (-2.0)).resolution.1 = 1 ∧
      roundedWord (Affine.translation (-3.0) (-2.0)).resolution.2 = 1 ∧
      roundedWord (Affine.translation (-3.0) (-2.0)).origin.1 = -3 ∧
      roundedWord (Affine.translation (-3.0) (-2.0)).origin.2 = -2 := by
    decide +kernel
  rw [hres.1, hres.2.1, hres.2.2.1, hres.2.2.2] at hblocks
  exact ⟨hspan, haligned, hwin.1, hwin.2.1, hblocks⟩

/-- Blocks of `2^62` pixels starting `2^62` pixels before a source `2^62` pixels
wide: the first block ends where the source begins and the second is the
source, so the one block that meets it lies inside it. But `srcLen - t` is
`2^63`, which wraps to `-2^63`; the span comes out straddling, and the read of
such a destination is resampled. -/
theorem overflowing_span_straddles :
    blockSpan (-(2 ^ 62)) (2 ^ 62) (2 ^ 62) 2 = .straddling ∧
      (∀ j, (0 ≤ j ∧ j < 2 ∧ Meets (-(2 ^ 62)) (2 ^ 62) (2 ^ 62) j) ↔ 1 ≤ j ∧ j < 2) ∧
      Inside (-(2 ^ 62)) (2 ^ 62) (2 ^ 62) 1 ∧
      computeReadWindow ⟨.wgs84, Affine.new 1.0 0.0 0.0 0.0 1.0 0.0, (1, 4611686018427387904)⟩
          ⟨.wgs84, Affine.new 4.611686018427388e18 0.0 (-4.611686018427388e18) 0.0 1.0 0.0, (1, 2)⟩ =
        some ⟨⟨0, 0, 1, 4611686018427387904⟩, ⟨0, 1, 1, 1⟩, .resample⟩ := by
  refine ⟨by decide, fun j => ?_, by decide, by decide +kernel⟩
  unfold Meets
  omega

end Geocube.ReadWindow
