import Geocube.Raster.Fuse
import Geocube.Proofs.Binary64.Order

/-!
Fuse laws.

A fuser merges planes pixel by pixel, so fusing a sequence of planes is, at each
pixel, a left fold of `Fuser.pick` over the values that pixel takes
(`fuseAll_eq_some`). Read that way, each built-in fuser has a rule
(`Fuser.Fuses`): `copyFirst` keeps the first observation and `copyLast` the
last, `max` an observation that no observation is above and `min` one that no
observation is below; where there is no observation the pixel keeps the nodata
value it started with. A value is an observation when it is neither the nodata
value nor NaN, and a NaN nodata value marks only NaN.

`max` and `min` share one update, `keepBetter`: its invariant (`Unbeaten`) needs
only that the comparison is irreflexive and transitive, which `<` on doubles is
whatever the values, NaN included.

Main statement, `fuse_laws`: starting from a plane filled with the nodata value,
every fuser follows its rule at every pixel and leaves nodata where no source
has an observation; `max` and `min` give the same plane for every order of the
sources, pixels compared as doubles; and where at most one source has an
observation at each pixel, all four fusers give one and the same plane for
every order.
-/

namespace Geocube

namespace Plane

variable {α β γ : Type}

/-- Row `row`, column `col` of a `h × w` block sits inside the block's cells. -/
theorem index_lt {h w row col : Nat} (hr : row < h) (hc : col < w) : row * w + col < h * w := by
  have hrows : (row + 1) * w ≤ h * w := Nat.mul_le_mul_right w hr
  rw [Nat.succ_mul] at hrows
  omega

theorem get?_isSome {p : Plane α} {row col : Nat} (hr : row < p.height) (hc : col < p.width) :
    (p.get? row col).isSome := by
  have hidx : row * p.width + col < p.cells.size := p.size_eq ▸ index_lt hr hc
  simp [get?, hr, hc, hidx]

/-- Two planes of one shape that agree at every pixel are equal. -/
theorem ext_get? {p q : Plane α} (hh : p.height = q.height) (hw : p.width = q.width)
    (hget : ∀ row < p.height, ∀ col < p.width, p.get? row col = q.get? row col) : p = q := by
  obtain ⟨h, w, cs, hcs⟩ := p
  obtain ⟨h', w', ds, hds⟩ := q
  dsimp only at hh hw hget
  subst hh hw
  have hsize : cs.size = ds.size := hcs.trans hds.symm
  congr 1
  refine Array.ext hsize fun i hi hi' => ?_
  -- cell `i` is pixel `(i / w, i % w)`
  have hw0 : 0 < w := Nat.pos_of_ne_zero fun hw => by simp [hcs, hw] at hi
  have hrow : i / w < h := Nat.div_lt_of_lt_mul (by rw [Nat.mul_comm, ← hcs]; exact hi)
  have hcol : i % w < w := Nat.mod_lt i hw0
  have hpix := hget (i / w) hrow (i % w) hcol
  simp only [get?, hrow, hcol, decide_true, Bool.and_self, if_true, Nat.div_add_mod'] at hpix
  rw [Array.getElem?_eq_getElem hi, Array.getElem?_eq_getElem hi'] at hpix
  exact Option.some.inj hpix

theorem zipWith?_eq_some {f : α → β → γ} {p : Plane α} {q : Plane β} (hh : p.height = q.height)
    (hw : p.width = q.width) : ∃ r, p.zipWith? f q = some r :=
  ⟨_, dif_pos ⟨hh, hw⟩⟩

section ZipWith

variable {f : α → β → γ} {p : Plane α} {q : Plane β} {r : Plane γ}

theorem shape_of_zipWith? (h : p.zipWith? f q = some r) :
    p.height = q.height ∧ p.width = q.width ∧ r.height = p.height ∧ r.width = p.width := by
  unfold zipWith? at h
  split at h
  · rename_i hdim
    cases h
    exact ⟨hdim.1, hdim.2, rfl, rfl⟩
  · cases h

theorem get?_zipWith? (h : p.zipWith? f q = some r) (row col : Nat) :
    r.get? row col = match p.get? row col, q.get? row col with
      | some a, some b => some (f a b)
      | _, _ => none := by
  unfold zipWith? at h
  split at h
  · rename_i hdim
    cases h
    simp only [get?, hdim.1, hdim.2]
    split
    · rw [Array.getElem?_zipWith]
      rfl
    · rfl
  · cases h

end ZipWith

end Plane

namespace Raster

variable {row col : Nat}

theorem get?_eq_some_get {r : Raster} (hr : row < r.height) (hc : col < r.width) :
    r.get? row col = some (r.get row col) := by
  obtain ⟨a, ha⟩ := Option.isSome_iff_exists.1 (Plane.get?_isSome hr hc)
  rw [get, ha, Option.getD_some]

theorem get_zipWith? {f : Float → Float → Float} {p q r : Raster} (h : p.zipWith? f q = some r)
    (hr : row < p.height) (hc : col < p.width) :
    r.get row col = f (p.get row col) (q.get row col) := by
  obtain ⟨hh, hw, -, -⟩ := Plane.shape_of_zipWith? h
  rw [get, Plane.get?_zipWith? h, get?_eq_some_get hr hc, get?_eq_some_get (hh ▸ hr) (hw ▸ hc)]
  rfl

/-- Two rasters of one shape that agree at every pixel are equal. -/
theorem ext_get {p q : Raster} (hh : p.height = q.height) (hw : p.width = q.width)
    (hget : ∀ row < p.height, ∀ col < p.width, p.get row col = q.get row col) : p = q :=
  Plane.ext_get? hh hw fun row hr col hc => by
    rw [get?_eq_some_get hr hc, get?_eq_some_get (hh ▸ hr) (hw ▸ hc), hget row hr col hc]

theorem get_filled {h w : Nat} {v : Float} (hr : row < h) (hc : col < w) :
    (filled h w v).get row col = v :=
  get_ofFn hr hc

end Raster

section Short

variable {α : Type} {l : List α}

/-- A list of at most one element is the only list it is a permutation of. -/
theorem eq_of_perm_of_length_le_one {l' : List α} (hperm : l'.Perm l) (hl : l.length ≤ 1) :
    l' = l := by
  rcases l with _ | ⟨a, _ | ⟨b, l⟩⟩
  · exact hperm.eq_nil
  · exact List.perm_singleton.1 hperm
  · simp at hl

theorem getLast?_eq_head?_of_length_le_one (hl : l.length ≤ 1) : l.getLast? = l.head? := by
  rcases l with _ | ⟨a, _ | ⟨b, l⟩⟩
  · rfl
  · rfl
  · simp at hl

end Short

/-! ## Observations -/

section Observations

variable {nodata v s : Float} {vs : List Float}

/-- A nodata value marks itself missing, NaN included. -/
theorem isNodata_self (nodata : Float) : isNodata nodata nodata = true := by
  unfold isNodata
  cases hn : nodata.isNaN
  · simp [Binary64.beq_self_of_not_isNaN hn]
  · simp

theorem isNaN_eq_false_of_valid (h : isNodata v nodata = false) : v.isNaN = false := by
  unfold isNodata at h
  split at h
  · exact h
  · exact (Bool.or_eq_false_iff.1 h).2

/-- The values of a sequence that count as observations under a nodata value,
in their order. -/
def observed (nodata : Float) (vs : List Float) : List Float :=
  vs.filter fun v => !isNodata v nodata

@[simp] theorem mem_observed : v ∈ observed nodata vs ↔ v ∈ vs ∧ isNodata v nodata = false := by
  simp [observed]

theorem observed_cons_of_valid (hs : isNodata s nodata = false) :
    observed nodata (s :: vs) = s :: observed nodata vs := by
  simp [observed, hs]

theorem observed_cons_of_invalid (hs : isNodata s nodata = true) :
    observed nodata (s :: vs) = observed nodata vs := by
  simp [observed, hs]

theorem observed_append (vs ws : List Float) :
    observed nodata (vs ++ ws) = observed nodata vs ++ observed nodata ws :=
  List.filter_append ..

theorem observed_eq_nil_iff : observed nodata vs = [] ↔ ∀ v ∈ vs, isNodata v nodata = true := by
  simp [observed, List.filter_eq_nil_iff]

theorem observed_perm {vs' : List Float} (h : vs'.Perm vs) :
    (observed nodata vs').Perm (observed nodata vs) :=
  h.filter _

end Observations

/-! ## The rule of `max` and `min` -/

/-- `x` is a value of `ws` that no value of `ws` beats, or `d` when `ws` is empty. -/
def Unbeaten (beats : Float → Float → Bool) (d : Float) (ws : List Float) (x : Float) : Prop :=
  (ws = [] ∧ x = d) ∨ (x ∈ ws ∧ ∀ v ∈ ws, beats v x = false)

-- membership is decided through equality of words, since `==` on doubles is not
-- lawful
instance {beats : Float → Float → Bool} {d x : Float} {ws : List Float} :
    Decidable (Unbeaten beats d ws x) :=
  decidable_of_iff ((ws = [] ∧ x = d) ∨ ((∃ v ∈ ws, v = x) ∧ ∀ v ∈ ws, beats v x = false))
    (by simp [Unbeaten])

/-- The update `max` and `min` share: an observation replaces the pixel when the
pixel holds none or the observation beats it. -/
def keepBetter (beats : Float → Float → Bool) (nodata d s : Float) : Float :=
  if !isNodata s nodata && (isNodata d nodata || beats s d) then s else d

namespace Fuser

theorem pick_max (nodata : Float) : max.pick nodata = keepBetter (fun v x => decide (x < v)) nodata :=
  rfl

theorem pick_min (nodata : Float) : min.pick nodata = keepBetter (fun v x => decide (v < x)) nodata :=
  rfl

end Fuser

section KeepBetter

variable (beats : Float → Float → Bool) {nodata d x : Float} {ws : List Float}

theorem Unbeaten.eq_head (h : Unbeaten beats d ws x) (hws : ws.length ≤ 1) :
    x = ws.head?.getD d := by
  rcases h with ⟨rfl, rfl⟩ | ⟨hx, -⟩
  · rfl
  · rcases ws with _ | ⟨a, _ | ⟨b, ws⟩⟩
    · cases hx
    · exact List.mem_singleton.1 hx
    · simp at hws

variable {beats}

/-- Two unbeaten values of one set of values that are not NaN compare equal, when
values neither of which beats the other do. -/
theorem Unbeaten.beq_of_perm
    (hcmp : ∀ a b, a.isNaN = false → b.isNaN = false → beats a b = false → beats b a = false →
      (a == b) = true)
    {ws' : List Float} {x' : Float} (h : Unbeaten beats d ws x) (h' : Unbeaten beats d ws' x')
    (hperm : ws'.Perm ws) (hnan : ∀ w ∈ ws, w.isNaN = false) :
    (x == x') = true ∨ (x = d ∧ x' = d) := by
  rcases h with ⟨rfl, rfl⟩ | ⟨hx, hbest⟩
  · rcases h' with ⟨-, rfl⟩ | ⟨hx', -⟩
    · exact Or.inr ⟨rfl, rfl⟩
    · rw [hperm.eq_nil] at hx'
      cases hx'
  · rcases h' with ⟨rfl, -⟩ | ⟨hx', hbest'⟩
    · rw [hperm.symm.eq_nil] at hx
      cases hx
    · have hxws : x' ∈ ws := hperm.subset hx'
      exact Or.inl (hcmp x x' (hnan x hx) (hnan x' hxws) (hbest' x (hperm.symm.subset hx))
        (hbest x' hxws))

variable (hirr : ∀ v, beats v v = false)
  (htrans : ∀ a b c, beats b a = true → beats c b = true → beats c a = true)
include hirr htrans

/-- One merge keeps the pixel unbeaten among the observations so far. -/
theorem Unbeaten.step_keepBetter (hd : Unbeaten beats nodata ws d)
    (hws : ∀ w ∈ ws, isNodata w nodata = false) (s : Float) :
    Unbeaten beats nodata (ws ++ observed nodata [s]) (keepBetter beats nodata d s) := by
  cases hs : isNodata s nodata
  case true =>
    simpa [observed, Geocube.keepBetter, hs] using hd
  case false =>
    rw [show observed nodata [s] = [s] by simp [observed, hs]]
    rcases hd with ⟨rfl, rfl⟩ | ⟨hmem, hbest⟩
    · -- the pixel still holds nodata: the first observation replaces it
      right
      simp [Geocube.keepBetter, hs, isNodata_self, hirr]
    have hd : isNodata d nodata = false := hws d hmem
    by_cases hb : beats s d = true
    · have hk : Geocube.keepBetter beats nodata d s = s := by simp [Geocube.keepBetter, hs, hb]
      rw [hk]
      refine Or.inr ⟨List.mem_append_right _ (List.mem_singleton_self s), fun v hv => ?_⟩
      rcases List.mem_append.1 hv with hv | hv
      · -- a value beating `s` would beat `d`
        cases hvs : beats v s
        · rfl
        · exact absurd (htrans d s v hb hvs) (by simp [hbest v hv])
      · rw [List.mem_singleton.1 hv]
        exact hirr s
    · have hk : Geocube.keepBetter beats nodata d s = d := by simp [Geocube.keepBetter, hd, hb]
      rw [hk]
      refine Or.inr ⟨List.mem_append_left _ hmem, fun v hv => ?_⟩
      rcases List.mem_append.1 hv with hv | hv
      · exact hbest v hv
      · rw [List.mem_singleton.1 hv]
        simpa using hb

/-- Merging a whole sequence keeps the pixel unbeaten among all observations. -/
theorem Unbeaten.foldl_keepBetter (vs : List Float) (hd : Unbeaten beats nodata ws d)
    (hws : ∀ w ∈ ws, isNodata w nodata = false) :
    Unbeaten beats nodata (ws ++ observed nodata vs) (vs.foldl (keepBetter beats nodata) d) := by
  -- induction on the values merged; the observations merged so far carry the invariant
  induction vs generalizing ws d with
  | nil => simpa [observed] using hd
  | cons s vs ih =>
    have hws' : ∀ w ∈ ws ++ observed nodata [s], isNodata w nodata = false := by
      intro w hw
      rcases List.mem_append.1 hw with hw | hw
      · exact hws w hw
      · exact (mem_observed.1 hw).2
    have h := ih (hd.step_keepBetter hirr htrans hws s) hws'
    rwa [List.append_assoc, ← observed_append, List.singleton_append] at h

variable (beats) in
/-- Merging a whole sequence into a pixel that holds nodata leaves it unbeaten
among the sequence's observations. -/
theorem unbeaten_foldl_keepBetter (vs : List Float) :
    Unbeaten beats nodata (observed nodata vs) (vs.foldl (keepBetter beats nodata) nodata) := by
  have h : Unbeaten beats nodata ([] ++ observed nodata vs) (vs.foldl (keepBetter beats nodata) nodata) :=
    Unbeaten.foldl_keepBetter hirr htrans vs (Or.inl ⟨rfl, rfl⟩) fun _ hw => nomatch hw
  rwa [List.nil_append] at h

end KeepBetter

/-! ## The rule of each fuser -/

namespace Fuser

/-- What a fuser leaves at a pixel that starts as nodata and is merged with the
values `vs`, in that order. -/
def Fuses : Fuser → Float → List Float → Float → Prop
  | .copyFirst, nodata, vs, x => x = (observed nodata vs).head?.getD nodata
  | .copyLast, nodata, vs, x => x = (observed nodata vs).getLast?.getD nodata
  | .max, nodata, vs, x => Unbeaten (fun v x => decide (x < v)) nodata (observed nodata vs) x
  | .min, nodata, vs, x => Unbeaten (fun v x => decide (v < x)) nodata (observed nodata vs) x

instance {f : Fuser} {nodata x : Float} {vs : List Float} : Decidable (f.Fuses nodata vs x) := by
  cases f <;> unfold Fuses <;> infer_instance

section Rules

variable {nodata d : Float}

theorem foldl_pick_copyFirst_of_valid (hd : isNodata d nodata = false) (vs : List Float) :
    vs.foldl (copyFirst.pick nodata) d = d := by
  induction vs with
  | nil => rfl
  | cons s vs ih =>
    have hpick : copyFirst.pick nodata d s = d := by simp [pick, hd]
    rw [List.foldl_cons, hpick, ih]

theorem foldl_pick_copyFirst (hd : isNodata d nodata = true) (vs : List Float) :
    vs.foldl (copyFirst.pick nodata) d = (observed nodata vs).head?.getD d := by
  induction vs with
  | nil => rfl
  | cons s vs ih =>
    rw [List.foldl_cons]
    cases hs : isNodata s nodata
    · -- the first observation is kept from here on
      have hpick : copyFirst.pick nodata d s = s := by simp [pick, hd, hs]
      rw [hpick, foldl_pick_copyFirst_of_valid hs, observed_cons_of_valid hs]
      rfl
    · have hpick : copyFirst.pick nodata d s = d := by simp [pick, hs]
      rw [hpick, ih, observed_cons_of_invalid hs]

theorem foldl_pick_copyLast (d : Float) (vs : List Float) :
    vs.foldl (copyLast.pick nodata) d = (observed nodata vs).getLast?.getD d := by
  induction vs generalizing d with
  | nil => rfl
  | cons s vs ih =>
    rw [List.foldl_cons, ih]
    cases hs : isNodata s nodata
    · have hpick : copyLast.pick nodata d s = s := by simp [pick, hs]
      rw [hpick, observed_cons_of_valid hs, List.getLast?_cons, Option.getD_some]
    · have hpick : copyLast.pick nodata d s = d := by simp [pick, hs]
      rw [hpick, observed_cons_of_invalid hs]

theorem decide_lt_self (v : Float) : decide (v < v) = false :=
  decide_eq_false (Binary64.not_lt_self v)

theorem decide_lt_trans (a b c : Float) (hab : decide (a < b) = true) (hbc : decide (b < c) = true) :
    decide (a < c) = true :=
  decide_eq_true (Binary64.lt_of_lt_of_lt (of_decide_eq_true hab) (of_decide_eq_true hbc))

/-- Every fuser follows its rule, whatever the values merged. -/
theorem fuses_foldl (f : Fuser) (nodata : Float) (vs : List Float) :
    f.Fuses nodata vs (vs.foldl (f.pick nodata) nodata) := by
  cases f
  case copyFirst => exact foldl_pick_copyFirst (isNodata_self nodata) vs
  case copyLast => exact foldl_pick_copyLast nodata vs
  case max =>
    rw [pick_max]
    exact unbeaten_foldl_keepBetter _ decide_lt_self (fun a b c hab hbc => decide_lt_trans a b c hab hbc) vs
  case min =>
    rw [pick_min]
    exact unbeaten_foldl_keepBetter _ decide_lt_self (fun a b c hab hbc => decide_lt_trans c b a hbc hab) vs

/-- Nodata and NaN values are passed over: `min` keeps the least observation. -/
example : min.Fuses (-999.0) [2.0, -999.0, 0.0 / 0.0, 1.0, 3.0] 1.0 := by decide

end Rules

section Consequences

variable {f : Fuser} {nodata x : Float} {vs : List Float}

/-- With at most one observation every fuser leaves that observation, or nodata. -/
theorem Fuses.eq_head (h : f.Fuses nodata vs x) (hlen : (observed nodata vs).length ≤ 1) :
    x = (observed nodata vs).head?.getD nodata := by
  cases f
  case copyFirst => exact h
  case copyLast => rw [h, getLast?_eq_head?_of_length_le_one hlen]
  case max => exact Unbeaten.eq_head (fun v x => decide (x < v)) h hlen
  case min => exact Unbeaten.eq_head (fun v x => decide (v < x)) h hlen

theorem Fuses.eq_nodata (h : f.Fuses nodata vs x) (hnil : observed nodata vs = []) : x = nodata := by
  have hx := h.eq_head (by simp [hnil])
  rw [hnil] at hx
  exact hx

/-- `max` and `min` leave values that compare equal for every order of the values
merged, or nodata for every order. -/
theorem Fuses.beq_of_perm (hf : f = .max ∨ f = .min) {vs' : List Float} {x' : Float}
    (h : f.Fuses nodata vs x) (h' : f.Fuses nodata vs' x') (hperm : vs'.Perm vs) :
    (x == x') = true ∨ (x = nodata ∧ x' = nodata) := by
  have hnan : ∀ w ∈ observed nodata vs, w.isNaN = false :=
    fun w hw => isNaN_eq_false_of_valid (mem_observed.1 hw).2
  rcases hf with rfl | rfl
  · have hcmp : ∀ a b : Float, a.isNaN = false → b.isNaN = false → decide (b < a) = false →
        decide (a < b) = false → (a == b) = true := fun a b ha hb hba hab =>
      Binary64.beq_of_not_lt_of_not_lt ha hb (of_decide_eq_false hab) (of_decide_eq_false hba)
    exact Unbeaten.beq_of_perm hcmp h h' (observed_perm hperm) hnan
  · have hcmp : ∀ a b : Float, a.isNaN = false → b.isNaN = false → decide (a < b) = false →
        decide (b < a) = false → (a == b) = true := fun a b ha hb hab hba =>
      Binary64.beq_of_not_lt_of_not_lt ha hb (of_decide_eq_false hab) (of_decide_eq_false hba)
    exact Unbeaten.beq_of_perm hcmp h h' (observed_perm hperm) hnan

end Consequences

/-! ## Fusing planes -/

/-- Fusing equally shaped planes succeeds, keeps the shape, and leaves at each pixel
the fold of `pick` over the values the sources have there. -/
theorem fuseAll_eq_some (f : Fuser) (nodata : Float) {h w : Nat} (dst : Raster)
    (srcs : List Raster) (hdh : dst.height = h) (hdw : dst.width = w)
    (hshape : ∀ s ∈ srcs, s.height = h ∧ s.width = w) :
    ∃ out, f.fuseAll nodata dst srcs = some out ∧ out.height = h ∧ out.width = w ∧
      ∀ row < h, ∀ col < w,
        out.get row col = (srcs.map (·.get row col)).foldl (f.pick nodata) (dst.get row col) := by
  -- induction on the sources, the plane fused so far generalized
  induction srcs generalizing dst with
  | nil => exact ⟨dst, rfl, hdh, hdw, fun _ _ _ _ => rfl⟩
  | cons s srcs ih =>
    obtain ⟨hsh, hsw⟩ := hshape s List.mem_cons_self
    obtain ⟨r, hr⟩ : ∃ r, f.apply dst s nodata = some r :=
      Plane.zipWith?_eq_some (hdh.trans hsh.symm) (hdw.trans hsw.symm)
    obtain ⟨-, -, hrh, hrw⟩ := Plane.shape_of_zipWith? hr
    obtain ⟨out, hout, hh, hw, hget⟩ := ih r (hrh.trans hdh) (hrw.trans hdw)
      fun t ht => hshape t (List.mem_cons_of_mem s ht)
    refine ⟨out, ?_, hh, hw, fun row hrow col hcol => ?_⟩
    · show (f.apply dst s nodata >>= fun out => f.fuseAll nodata out srcs) = some out
      rw [hr]
      exact hout
    · rw [hget row hrow col hcol, List.map_cons, List.foldl_cons,
        Raster.get_zipWith? hr (hdh ▸ hrow) (hdw ▸ hcol)]

/-- Fusing into a plane filled with nodata follows the fuser's rule at every pixel. -/
theorem fuseAll_filled (f : Fuser) (nodata : Float) {h w : Nat} {srcs : List Raster}
    (hshape : ∀ s ∈ srcs, s.height = h ∧ s.width = w) :
    ∃ out, f.fuseAll nodata (Raster.filled h w nodata) srcs = some out ∧
      out.height = h ∧ out.width = w ∧
      ∀ row < h, ∀ col < w, f.Fuses nodata (srcs.map (·.get row col)) (out.get row col) := by
  obtain ⟨out, hout, hh, hw, hget⟩ := fuseAll_eq_some f nodata (Raster.filled h w nodata) srcs rfl rfl hshape
  refine ⟨out, hout, hh, hw, fun row hrow col hcol => ?_⟩
  rw [hget row hrow col hcol, Raster.get_filled hrow hcol]
  exact fuses_foldl f nodata _

theorem fuse_laws (nodata : Float) (h w : Nat) (srcs : List Raster)
    (hshape : ∀ s ∈ srcs, s.height = h ∧ s.width = w) :
    (∀ f : Fuser, ∃ out, f.fuseAll nodata (Raster.filled h w nodata) srcs = some out ∧
      out.height = h ∧ out.width = w ∧
      ∀ row < h, ∀ col < w, f.Fuses nodata (srcs.map (·.get row col)) (out.get row col)) ∧
    (∀ (f : Fuser) out, f.fuseAll nodata (Raster.filled h w nodata) srcs = some out →
      ∀ row < h, ∀ col < w, (∀ s ∈ srcs, isNodata (s.get row col) nodata = true) →
        out.get row col = nodata) ∧
    (∀ f : Fuser, f = .max ∨ f = .min → ∀ srcs' : List Raster, srcs'.Perm srcs → ∀ out out',
      f.fuseAll nodata (Raster.filled h w nodata) srcs = some out →
      f.fuseAll nodata (Raster.filled h w nodata) srcs' = some out' →
      ∀ row < h, ∀ col < w, (out.get row col == out'.get row col) = true ∨
        (out.get row col = nodata ∧ out'.get row col = nodata)) ∧
    ((∀ row < h, ∀ col < w, (observed nodata (srcs.map (·.get row col))).length ≤ 1) →
      ∀ (f f' : Fuser) (srcs' : List Raster), srcs'.Perm srcs →
        f.fuseAll nodata (Raster.filled h w nodata) srcs =
          f'.fuseAll nodata (Raster.filled h w nodata) srcs') := by
  have hshape' : ∀ srcs' : List Raster, srcs'.Perm srcs →
      ∀ s ∈ srcs', s.height = h ∧ s.width = w :=
    fun srcs' hperm s hs => hshape s (hperm.subset hs)
  refine ⟨fun f => fuseAll_filled f nodata hshape, ?_, ?_, ?_⟩
  · -- a pixel with no observation in any source
    intro f out hout row hrow col hcol hmiss
    obtain ⟨o, ho, -, -, hfuses⟩ := fuseAll_filled f nodata hshape
    cases hout.symm.trans ho
    refine (hfuses row hrow col hcol).eq_nodata (observed_eq_nil_iff.2 fun v hv => ?_)
    obtain ⟨s, hs, rfl⟩ := List.mem_map.1 hv
    exact hmiss s hs
  · -- `max` and `min` in two orders
    intro f hf srcs' hperm out out' hout hout' row hrow col hcol
    obtain ⟨o, ho, -, -, hfuses⟩ := fuseAll_filled f nodata hshape
    obtain ⟨o', ho', -, -, hfuses'⟩ := fuseAll_filled f nodata (hshape' srcs' hperm)
    cases hout.symm.trans ho
    cases hout'.symm.trans ho'
    exact (hfuses row hrow col hcol).beq_of_perm hf (hfuses' row hrow col hcol) (hperm.map _)
  · -- at most one observation per pixel: every fuser leaves it, in every order
    intro hone f f' srcs' hperm
    obtain ⟨o, ho, hh, hw, hfuses⟩ := fuseAll_filled f nodata hshape
    obtain ⟨o', ho', hh', hw', hfuses'⟩ := fuseAll_filled f' nodata (hshape' srcs' hperm)
    rw [ho, ho', Raster.ext_get (hh.trans hh'.symm) (hw.trans hw'.symm) fun row hrow col hcol => ?_]
    rw [hh] at hrow
    rw [hw] at hcol
    have hvs : observed nodata (srcs'.map (·.get row col)) = observed nodata (srcs.map (·.get row col)) :=
      eq_of_perm_of_length_le_one (observed_perm (hperm.map _)) (hone row hrow col hcol)
    have hlen' := hone row hrow col hcol
    rw [← hvs] at hlen'
    rw [(hfuses row hrow col hcol).eq_head (hone row hrow col hcol),
      (hfuses' row hrow col hcol).eq_head hlen', hvs]

/-- Two planes that never both hold an observation at one pixel fuse to the same
plane under `copyFirst` in one order and `min` in the other. -/
theorem disjoint_planes_commute :
    (∀ s ∈ [(⟨2, 3, #[1.0, 1.0, -999.0, -999.0, -999.0, -999.0], rfl⟩ : Raster),
        ⟨2, 3, #[-999.0, -999.0, -999.0, -999.0, 2.0, 2.0], rfl⟩], s.height = 2 ∧ s.width = 3) ∧
    Fuser.copyFirst.fuseAll (-999.0) (Raster.filled 2 3 (-999.0))
        [⟨2, 3, #[1.0, 1.0, -999.0, -999.0, -999.0, -999.0], rfl⟩,
          ⟨2, 3, #[-999.0, -999.0, -999.0, -999.0, 2.0, 2.0], rfl⟩] =
      Fuser.min.fuseAll (-999.0) (Raster.filled 2 3 (-999.0))
        [⟨2, 3, #[-999.0, -999.0, -999.0, -999.0, 2.0, 2.0], rfl⟩,
          ⟨2, 3, #[1.0, 1.0, -999.0, -999.0, -999.0, -999.0], rfl⟩] :=
  ⟨by decide, (fuse_laws (-999.0) 2 3 _ (by decide)).2.2.2 (by decide) .copyFirst .min _
    (List.Perm.swap _ _ [])⟩

end Fuser

end Geocube
