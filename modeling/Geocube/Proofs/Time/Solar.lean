import Geocube.Proofs.Binary64.Product
import Geocube.Proofs.Binary64.Floor
import Geocube.Proofs.Load.Grouping

/-!
The local solar day, and grouping by it.

The solar day of an instant at a longitude is the date of the instant moved by
the longitude in hours, `lon · 24 / 360` rounded half away from zero. In doubles
that quotient is within a hair of `lon / 15` (`hours_quotient_lt`), so at a
finite longitude within `360 · M` degrees the hours are within `24 · M`
(`solarHours_abs_le`). Whole hours make a span (`Span.ofHours?_eq`), and a span
of at most `M` days moves a well-formed instant by at most `M` days
(`Instant.addToTime_carry`); so an instant at least `M` days from either end of
the calendar has a solar day at most `M` days from its own (`solarDay?_near`).
Grouping by solar day then reads every key and every sort key
(`solarDay_grouping_ok`).

It is not total on every instant and longitude: an extent centred at
`1.5·10^20` degrees saturates the hours at the largest signed 64-bit word, which
no span holds, and the last hour of the calendar moves past its end at a
longitude of 180 degrees (`far_scene_has_no_solar_day`).
-/

namespace Geocube

namespace Binary64

theorem value_twentyFour : value (24.0 : Float) = 24 := by decide +kernel

theorem twentyFour_isFinite : (24.0 : Float).isFinite = true := by decide +kernel

theorem value_threeSixty : value (360.0 : Float) = 360 := by decide +kernel

theorem threeSixty_isFinite : (360.0 : Float).isFinite = true := by decide +kernel

end Binary64

open Binary64

/-! ## Local solar hours -/

section Hours

variable {lon : Float} {M : Nat}

/-- A finite longitude within `360 · M` degrees times 24, in doubles: finite,
and within `8640 · M` and `2^-13`. -/
theorem scaled_longitude_le (hlon : lon.isFinite = true) (hM : M ≤ 2 ^ 27)
    (h : |value lon| ≤ 360 * M) :
    (lon * 24.0).isFinite = true ∧ |value (lon * 24.0)| ≤ 8640 * M + 1 / 8192 := by
  have h24 : value (24.0 : Float) ≠ 0 := by rw [value_twentyFour]; norm_num
  by_cases h0 : value lon = 0
  · obtain ⟨hfin, hv⟩ := mul_of_value_eq_zero hlon h0 twentyFour_isFinite h24
    exact ⟨hfin, by rw [hv, abs_zero]; positivity⟩
  have hM' : (M : ℚ) ≤ 134217728 := by exact_mod_cast hM
  have hexact : |value lon * value 24.0| ≤ 8640 * M := by
    rw [value_twentyFour, abs_mul, abs_of_pos (by norm_num : (0 : ℚ) < 24)]
    linarith
  obtain ⟨hfin, herr⟩ := mul_half_error hlon twentyFour_isFinite h0 h24 (N := 41) (by norm_num)
    (hexact.trans_lt (by norm_num; linarith))
  refine ⟨hfin, ?_⟩
  rw [show max (41 - 54 : Int) (-1075) = -13 by norm_num,
    show (2 : ℚ) ^ (-13 : Int) = 1 / 8192 by norm_num] at herr
  have := abs_sub_abs_le_abs_sub (value (lon * 24.0)) (value lon * value 24.0)
  linarith

/-- The hours of a finite longitude within `360 · M` degrees, before rounding:
finite, and less than `24 · M` and a half. -/
theorem hours_quotient_lt (hlon : lon.isFinite = true) (hM : M ≤ 2 ^ 27)
    (h : |value lon| ≤ 360 * M) :
    (lon * 24.0 / 360.0).isFinite = true ∧ |value (lon * 24.0 / 360.0)| < 24 * M + 1 / 2 := by
  obtain ⟨hpfin, hp⟩ := scaled_longitude_le hlon hM h
  have h360 : value (360.0 : Float) ≠ 0 := by rw [value_threeSixty]; norm_num
  by_cases hp0 : value (lon * 24.0) = 0
  · obtain ⟨hfin, hv⟩ := div_of_value_eq_zero hpfin hp0 threeSixty_isFinite h360
    exact ⟨hfin, by rw [hv, abs_zero]; positivity⟩
  have hM' : (M : ℚ) ≤ 134217728 := by exact_mod_cast hM
  -- the exact quotient is within `24 · M` and `1 / (8192 · 360)`
  have hexact : |value (lon * 24.0) / value 360.0| ≤ 24 * M + 1 / 2949120 := by
    rw [value_threeSixty, abs_div, abs_of_pos (by norm_num : (0 : ℚ) < 360), div_le_iff₀ (by norm_num)]
    linarith
  obtain ⟨hfin, herr⟩ := div_error hpfin threeSixty_isFinite hp0 h360 (N := 32) (by norm_num)
    (hexact.trans_lt (by norm_num; linarith))
  refine ⟨hfin, ?_⟩
  rw [show max (32 - 52 : Int) (-1073) = -20 by norm_num,
    show (2 : ℚ) ^ (-20 : Int) = 1 / 1048576 by norm_num] at herr
  have := abs_sub_abs_le_abs_sub (value (lon * 24.0 / 360.0)) (value (lon * 24.0) / value 360.0)
  linarith

/-- At a finite longitude within `360 · M` degrees the local solar time is at
most `24 · M` hours from UTC. -/
theorem solarHours_abs_le (hlon : lon.isFinite = true) (hM : M ≤ 2 ^ 27)
    (h : |value lon| ≤ 360 * M) : |solarHours lon| ≤ 24 * M := by
  obtain ⟨hqfin, hq⟩ := hours_quotient_lt hlon hM h
  obtain ⟨n, hw, hn⟩ := roundHalfAway_near hqfin
  -- the whole number rounded to is within a half of a quotient below `24 · M + 1/2`
  have hlt : |(n : ℚ)| < 24 * M + 1 := by
    have := abs_sub_abs_le_abs_sub (n : ℚ) (value (lon * 24.0 / 360.0))
    linarith
  have hnM : |n| ≤ 24 * M := by
    have : |n| < 24 * M + 1 := by exact_mod_cast hlt
    rw [abs_lt] at this
    rw [abs_le]
    omega
  have hpow : ((pow2 63 : Nat) : Int) = 2 ^ 63 := by rw [pow2_eq]; norm_num
  have hbounds := abs_le.1 hnM
  unfold solarHours
  rw [toIntClamped_of_isWhole hw (by omega) (by omega)]
  exact hnM

end Hours

/-! ## Moving an instant by whole hours -/

theorem Date.first_days : Date.first.days = -96465292 := by decide

theorem Date.last_days : Date.last.days = 95026236 := by decide

namespace Span

/-- Whole hours up to `2^41` make a span. -/
theorem ofHours?_eq {h : Int} (hh : |h| ≤ 2 ^ 41) : ofHours? h = some ⟨h * 3600, 0⟩ := by
  rw [abs_le] at hh
  unfold ofHours? ofSeconds? checked?
  rw [if_neg]
  simp only [Bool.or_eq_true, decide_eq_true_eq, beq_iff_eq, Bool.and_eq_true]
  unfold maxSecs minSecs
  omega

end Span

namespace Instant

/-- The fields of an instant as parsing and the arithmetic build them: a second
of the day below 86400, and nanoseconds below `2·10^9`. -/
def WellFormed (t : Instant) : Prop := t.secs < 86400 ∧ t.frac < 2000000000

instance (t : Instant) : Decidable t.WellFormed := inferInstanceAs (Decidable (_ ∧ _))

/-- Adding whole seconds, at most `M` days of them, to a time of day carries at
most `M` days either way, a leap second included. -/
theorem addToTime_carry {secs frac : Nat} (hs : secs < 86400) (hf : frac < 2000000000) {k : Int}
    {M : Nat} (hk : |k| ≤ 86400 * M) :
    -(M : Int) ≤ (addToTime secs frac ⟨k, 0⟩).2.2 ∧ (addToTime secs frac ⟨k, 0⟩).2.2 ≤ M := by
  rw [abs_le] at hk
  unfold addToTime Span.wholeSeconds Span.subsecNanos
  simp only [Bool.and_eq_true, Bool.or_eq_true, decide_eq_true_eq, Bool.not_eq_true',
    Bool.or_eq_false_iff, Bool.and_eq_false_iff, decide_eq_false_iff_not]
  unfold nanosPerSec
  -- each branch moves the second of the day by `k`, and by one more second at
  -- most when it steps out of a leap second
  split_ifs <;> dsimp only at * <;> omega

/-- A well-formed instant at least `M` days from either end of the calendar,
moved by whole seconds up to `M` days, lands at most `M` days away. -/
theorem add?_whole {t : Instant} (ht : t.WellFormed) {k : Int} {M : Nat} (hk : |k| ≤ 86400 * M)
    (hfirst : Date.first.days + M ≤ t.date.days) (hlast : t.date.days + M ≤ Date.last.days) :
    ∃ t', t.add? ⟨k, 0⟩ = some t' ∧ |t'.date.days - t.date.days| ≤ M := by
  obtain ⟨hlo, hhi⟩ := addToTime_carry ht.1 ht.2 hk
  unfold add? Date.addDays?
  generalize addToTime t.secs t.frac ⟨k, 0⟩ = r at hlo hhi ⊢
  obtain ⟨s, f, c⟩ := r
  dsimp only at hlo hhi ⊢
  rw [if_pos]
  · exact ⟨_, rfl, by rw [abs_le]; dsimp only; omega⟩
  · simp only [Date.inRange, Bool.and_eq_true, decide_eq_true_eq]
    omega

end Instant

/-- A well-formed instant at least `M` days from either end of the calendar has,
at a finite longitude within `360 · M` degrees, a solar day at most `M` days
from its own. -/
theorem solarDay?_near {t : Instant} (ht : t.WellFormed) {lon : Float} (hlon : lon.isFinite = true)
    {M : Nat} (h : |value lon| ≤ 360 * M) (hfirst : Date.first.days + M ≤ t.date.days)
    (hlast : t.date.days + M ≤ Date.last.days) :
    ∃ day, solarDay? t lon = some day ∧ |day.days - t.date.days| ≤ M := by
  -- the calendar has fewer than `2^28` days, so the margin `M` is below `2^27`
  have hM : M ≤ 2 ^ 27 := by
    rw [Date.first_days] at hfirst
    rw [Date.last_days] at hlast
    omega
  have hh := abs_le.1 (solarHours_abs_le hlon hM h)
  have hspan := Span.ofHours?_eq (h := solarHours lon) (by rw [abs_le]; omega)
  obtain ⟨t', ht', hdays⟩ := Instant.add?_whole ht (k := solarHours lon * 3600) (M := M)
    (by rw [abs_le]; omega) hfirst hlast
  refine ⟨t'.date, ?_, hdays⟩
  rw [solarDay?, hspan, Option.bind_eq_bind, Option.bind_some, ht', Option.map_some]

/-! ## Grouping by solar day -/

/-- Grouping by solar day reads every key when each dataset with a centre time
has a well-formed one at least `M` days from either end of the calendar and a
finite centre longitude within `360 · M` degrees; `M = 1` covers every longitude
on the globe. -/
theorem solarDay_grouping_ok (ds : List Dataset) (M : Nat)
    (h : ∀ d ∈ ds, ∀ t, d.centerTime = some t → t.WellFormed ∧ d.solarLongitude.isFinite = true ∧
      |value d.solarLongitude| ≤ 360 * M ∧ Date.first.days + M ≤ t.date.days ∧
      t.date.days + M ≤ Date.last.days) :
    ∃ gs, groupDatasets ds GroupBy.solarDay = .ok gs := by
  -- the sort key is the centre time, which never fails
  refine GroupBy.groupDatasets_isOk (fun d hd => ?_) (fun d _ => ⟨_, rfl⟩)
  show ∃ o, KeyRule.solarDay.keyOf d = .ok o
  dsimp only [KeyRule.keyOf]
  split
  · exact ⟨none, rfl⟩
  · rename_i t hc
    obtain ⟨hwf, hfin, hlon, hfirst, hlast⟩ := h d hd t hc
    obtain ⟨day, hday, -⟩ := solarDay?_near hwf hfin hlon hfirst hlast
    exact ⟨some (.date day), by rw [hday]⟩

/-- A metadata type like the scenes' one that also reads a `geometry`. -/
def footprintType : MetadataType :=
  { SearchPlan.spanType with
    dataset := { SearchPlan.spanType.dataset with geometry := ⟨[["geometry"]]⟩ } }

/-- A scene of the first of January 2020 whose footprint runs from `lo` to `hi`
degrees east, between the equator and one degree north. -/
def footprintScene (lo hi : Float) : Dataset :=
  ⟨⟨3⟩, { SearchPlan.spanProduct with metadataType := footprintType },
    .obj [("created", .str "2020-01-01T00:00:00Z"), ("end", .str "2020-01-01T00:00:00Z"),
      ("geometry", .obj [("type", .str "Polygon"), ("coordinates", .arr [.arr [
        .arr [.float lo, .float 0.0], .arr [.float hi, .float 0.0], .arr [.float hi, .float 1.0],
        .arr [.float lo, .float 1.0], .arr [.float lo, .float 0.0]]])]),
      ("start", .str "2020-01-01T00:00:00Z")], [], false, []⟩

/-- A scene without an extent and a scene centred at 172.5 degrees east, half a
day ahead of UTC, are grouped by solar day. -/
theorem scenes_group_by_solar_day :
    (∀ d ∈ [SearchPlan.januaryScene, footprintScene 170.0 175.0], ∀ t, d.centerTime = some t →
      t.WellFormed ∧ d.solarLongitude.isFinite = true ∧ |value d.solarLongitude| ≤ 360 * 1 ∧
      Date.first.days + 1 ≤ t.date.days ∧ t.date.days + 1 ≤ Date.last.days) ∧
    ∃ gs, groupDatasets [SearchPlan.januaryScene, footprintScene 170.0 175.0] GroupBy.solarDay = .ok gs := by
  refine (fun hyp => ⟨hyp, solarDay_grouping_ok _ 1 hyp⟩) ?_
  intro d hd t ht
  simp only [List.mem_cons, List.not_mem_nil, or_false] at hd
  -- each scene's centre time is read off its document; the rest is arithmetic
  rcases hd with rfl | rfl
  · rw [show SearchPlan.januaryScene.centerTime = some ⟨⟨18263⟩, 0, 0⟩ from rfl,
      Option.some.injEq] at ht
    subst ht
    decide +kernel
  · rw [show (footprintScene 170.0 175.0).centerTime = some ⟨⟨18262⟩, 0, 0⟩ by decide +kernel,
      Option.some.injEq] at ht
    subst ht
    decide +kernel

/-- Grouping by solar day fails on a finite but far centre longitude, and in the
last hour of the calendar at 180 degrees east. -/
theorem far_scene_has_no_solar_day :
    (groupDatasets [footprintScene 1e20 2e20] GroupBy.solarDay).toBool = false ∧
      solarDay? ⟨Date.last, 82800, 0⟩ 180.0 = none := by
  decide +kernel

end Geocube
