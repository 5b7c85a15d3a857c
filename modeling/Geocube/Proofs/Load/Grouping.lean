import Geocube.Load.Grouping
import Geocube.Proofs.Binary64.Bits
import Geocube.Proofs.Except
import Geocube.Proofs.Catalog.Prefilter
import Mathlib.Data.List.Nodup
import Mathlib.Data.Prod.Lex
import Mathlib.Data.String.Basic

/-!
Grouping laws.

The order of group keys is the lexicographic order of a tuple, `GroupKey.place`:
the kind's rank, then the key's day, second and nanosecond, its text, and the
place of its number in the total order of doubles. So `GroupKey.cmp` is a lawful
total order (`Std.TransCmp`, `Std.LawfulEqCmp`), numbers included whatever their
bits, and the fuse order `GroupBy.order` is the order of `fusePlace` in the same
way.

`groupDatasets` reads every key (`GroupBy.keyed`), collects the distinct keys in
ascending order (`keysOf`), and gives each key the datasets that carry it
(`membersOf`), put in fuse order by `sortGroup`. Main statement,
`groupDatasets_partitions_in_order`: besides the laws of the order, a successful
grouping holds each keyed dataset exactly once, in the group of its own key, with
keys strictly ascending and datasets in fuse order; and for datasets of distinct
ids, every order of the input gives the same groups.
-/

namespace Geocube

/-! ## The order of keys -/

/-- Distinct words have distinct places in the total order of doubles. -/
theorem totalOrderKey_injective : Function.Injective totalOrderKey := by
  intro x y h
  apply Binary64.toBits_injective
  apply UInt64.toNat_inj.1
  dsimp only [totalOrderKey] at h
  -- nonnegative places for a clear sign bit, negative ones for a set sign bit
  split at h <;> split at h <;> omega

theorem Instant.cmp_eq_then (a b : Instant) : Instant.cmp a b =
    (compare a.date.days b.date.days).then ((compare a.secs b.secs).then (compare a.frac b.frac)) := by
  unfold Instant.cmp
  cases compare a.date.days b.date.days <;> cases compare a.secs b.secs <;> rfl

/-- Pairs whose first parts differ compare as their first parts. -/
theorem compare_toLex_of_ne {α β : Type} [LinearOrder α] [Ord β] {i j : α} (h : i ≠ j) (x y : β) :
    compare (toLex (i, x)) (toLex (j, y)) = compare i j := by
  rw [Prod.Lex.compare_def]
  simp only [compareLex, compareOn, ofLex_toLex]
  cases hij : compare i j
  · rfl
  · exact absurd (compare_eq_iff_eq.1 hij) h
  · rfl

namespace GroupKey

/-- Where a key stands in the order of keys: its kind, then its value. -/
def place : GroupKey → ℕ ×ₗ ℤ ×ₗ ℕ ×ₗ ℕ ×ₗ String ×ₗ ℤ
  | .time t => toLex (0, toLex (t.date.days, toLex (t.secs, toLex (t.frac, toLex ("", 0)))))
  | .date d => toLex (1, toLex (d.days, toLex (0, toLex (0, toLex ("", 0)))))
  | .text s => toLex (2, toLex (0, toLex (0, toLex (0, toLex (s, 0)))))
  | .number x => toLex (3, toLex (0, toLex (0, toLex (0, toLex ("", totalOrderKey x)))))

theorem cmp_eq_compare_place (a b : GroupKey) : a.cmp b = compare a.place b.place := by
  cases a <;> cases b
  case time.time | date.date | text.text | number.number =>
    simp [cmp, place, Prod.Lex.compare_def, compareLex, compareOn, Instant.cmp_eq_then]
  -- keys of two kinds compare by kind
  all_goals exact (compare_toLex_of_ne (by simp [rank]) _ _).symm

theorem place_injective : Function.Injective place := by
  intro a b h
  cases a <;> cases b <;> simp [place] at h
  case time.time t u =>
    rcases t with ⟨⟨d⟩, s, f⟩
    rcases u with ⟨⟨d'⟩, s', f'⟩
    obtain ⟨rfl, rfl, rfl⟩ := h
    rfl
  case date.date d d' =>
    rcases d with ⟨d⟩
    rcases d' with ⟨d'⟩
    subst h
    rfl
  case text.text => rw [h]
  case number.number => rw [totalOrderKey_injective h]

instance : Std.TransCmp GroupKey.cmp := by
  rw [show GroupKey.cmp = compareOn place from funext fun a => funext (cmp_eq_compare_place a)]
  infer_instance

instance : Std.LawfulEqCmp GroupKey.cmp where
  compare_self := Std.ReflCmp.compare_self
  eq_of_compare h := place_injective (compare_eq_iff_eq.1 ((cmp_eq_compare_place _ _).symm.trans h))

theorem cmp_beq_eq_iff {a b : GroupKey} : (a.cmp b == .eq) = true ↔ a = b :=
  Std.LawfulEqCmp.compare_beq_iff_eq

end GroupKey

/-- Where an optional key stands: a missing key before every key. -/
def optPlace : Option GroupKey → ℕ ×ₗ (ℕ ×ₗ ℤ ×ₗ ℕ ×ₗ ℕ ×ₗ String ×ₗ ℤ)
  | none => toLex (0, toLex (0, toLex (0, toLex (0, toLex (0, toLex ("", 0))))))
  | some k => toLex (1, k.place)

theorem compareKeys_eq_compare (a b : Option GroupKey) :
    compareKeys a b = compare (optPlace a) (optPlace b) := by
  cases a <;> cases b
  case some.some a b =>
    simp [compareKeys, optPlace, Prod.Lex.compare_def, compareLex, compareOn,
      GroupKey.cmp_eq_compare_place]
  case none.none => exact (compare_eq_iff_eq.2 (rfl : optPlace none = optPlace none)).symm
  case none.some => exact (compare_toLex_of_ne (show (0 : ℕ) ≠ 1 by decide) _ _).symm
  case some.none => exact (compare_toLex_of_ne (show (1 : ℕ) ≠ 0 by decide) _ _).symm

/-- Where a dataset with its sort key stands in fuse order: by sort key, then by id. -/
def fusePlace (p : Option GroupKey × Dataset) : (ℕ ×ₗ (ℕ ×ₗ ℤ ×ₗ ℕ ×ₗ ℕ ×ₗ String ×ₗ ℤ)) ×ₗ ℕ :=
  toLex (optPlace p.1, p.2.id.value)

theorem order_eq_compare (a b : Option GroupKey × Dataset) :
    GroupBy.order a b = compare (fusePlace a) (fusePlace b) := by
  rw [GroupBy.order, compareKeys_eq_compare, fusePlace, fusePlace, Prod.Lex.compare_def]
  simp only [compareLex, compareOn]
  cases compare (optPlace a.1) (optPlace b.1) <;> rfl

theorem order_ne_gt_iff {a b : Option GroupKey × Dataset} :
    GroupBy.order a b ≠ .gt ↔ fusePlace a ≤ fusePlace b := by
  rw [order_eq_compare, Ne, compare_gt_iff_gt, not_lt]

/-- Merge sort by fuse order gives a list in fuse order. -/
theorem pairwise_mergeSort_order (ps : List (Option GroupKey × Dataset)) :
    (ps.mergeSort fun a b => GroupBy.order a b != .gt).Pairwise fun a b => GroupBy.order a b ≠ .gt := by
  have hle : ∀ a b, (GroupBy.order a b != .gt) = true ↔ fusePlace a ≤ fusePlace b := by
    intro a b
    rw [bne_iff_ne, order_ne_gt_iff]
  refine (List.pairwise_mergeSort (fun a b c hab hbc => ?_) (fun a b => ?_) ps).imp fun h => ?_
  · rw [hle] at hab hbc ⊢
    exact le_trans hab hbc
  · rcases le_total (fusePlace a) (fusePlace b) with h | h
    · simp [(hle a b).2 h]
    · simp [(hle b a).2 h]
  · exact bne_iff_ne.1 h

/-! ## Distinct keys in ascending order -/

section Keys

variable {k x : GroupKey} {l : List GroupKey}

theorem mem_insertKey : x ∈ insertKey k l ↔ x = k ∨ x ∈ l := by
  induction l with
  | nil => simp [insertKey]
  | cons k' l ih =>
    simp only [insertKey]
    split
    · simp
    · -- an equal key is the same key: nothing is inserted
      rename_i heq
      rw [Std.LawfulEqCmp.eq_of_compare heq]
      simp
    · simp only [List.mem_cons, ih]
      tauto

theorem pairwise_insertKey (h : l.Pairwise (·.cmp · = .lt)) :
    (insertKey k l).Pairwise (·.cmp · = .lt) := by
  induction l with
  | nil => simp [insertKey]
  | cons k' l ih =>
    rw [List.pairwise_cons] at h
    simp only [insertKey]
    split
    · rename_i hlt
      -- `k` is below `k'`, hence below everything after it
      refine List.Pairwise.cons (fun y hy => ?_) (List.Pairwise.cons h.1 h.2)
      rcases List.mem_cons.1 hy with rfl | hy
      · exact hlt
      · exact Std.TransCmp.lt_trans hlt (h.1 y hy)
    · exact List.Pairwise.cons h.1 h.2
    · rename_i hgt
      refine List.Pairwise.cons (fun y hy => ?_) (ih h.2)
      rcases mem_insertKey.1 hy with rfl | hy
      · exact Std.OrientedCmp.lt_of_gt hgt
      · exact h.1 y hy

/-- The distinct keys of keyed datasets in ascending order, as `groupDatasets`
collects them. -/
def keysOf (keyed : List (GroupKey × Dataset)) : List GroupKey :=
  keyed.foldl (fun acc kd => insertKey kd.1 acc) []

theorem mem_foldl_insertKey (keyed : List (GroupKey × Dataset)) (acc : List GroupKey) :
    x ∈ keyed.foldl (fun acc kd => insertKey kd.1 acc) acc ↔ x ∈ acc ∨ ∃ d, (x, d) ∈ keyed := by
  induction keyed generalizing acc with
  | nil => simp
  | cons kd keyed ih =>
    obtain ⟨k, d⟩ := kd
    rw [List.foldl_cons, ih, mem_insertKey]
    simp only [List.mem_cons, Prod.mk.injEq]
    constructor
    · rintro ((rfl | hx) | ⟨d', hd'⟩)
      · exact Or.inr ⟨d, Or.inl ⟨rfl, rfl⟩⟩
      · exact Or.inl hx
      · exact Or.inr ⟨d', Or.inr hd'⟩
    · rintro (hx | ⟨d', ⟨rfl, rfl⟩ | hd'⟩)
      · exact Or.inl (Or.inr hx)
      · exact Or.inl (Or.inl rfl)
      · exact Or.inr ⟨d', hd'⟩

theorem pairwise_foldl_insertKey (keyed : List (GroupKey × Dataset)) {acc : List GroupKey}
    (h : acc.Pairwise (·.cmp · = .lt)) :
    (keyed.foldl (fun acc kd => insertKey kd.1 acc) acc).Pairwise (·.cmp · = .lt) := by
  induction keyed generalizing acc with
  | nil => exact h
  | cons kd keyed ih => exact ih (pairwise_insertKey h)

theorem mem_keysOf {keyed : List (GroupKey × Dataset)} : x ∈ keysOf keyed ↔ ∃ d, (x, d) ∈ keyed := by
  simp [keysOf, mem_foldl_insertKey]

theorem pairwise_keysOf (keyed : List (GroupKey × Dataset)) :
    (keysOf keyed).Pairwise (·.cmp · = .lt) :=
  pairwise_foldl_insertKey keyed List.Pairwise.nil

theorem nodup_of_pairwise_lt (h : l.Pairwise (·.cmp · = .lt)) : l.Nodup :=
  h.imp fun hab heq => by
    subst heq
    simp [Std.ReflCmp.compare_self] at hab

/-- Two strictly ascending lists of the same keys are one list. -/
theorem eq_of_pairwise_lt {l₁ l₂ : List GroupKey} (h₁ : l₁.Pairwise (·.cmp · = .lt))
    (h₂ : l₂.Pairwise (·.cmp · = .lt)) (hmem : ∀ k, k ∈ l₁ ↔ k ∈ l₂) : l₁ = l₂ := by
  refine List.Perm.eq_of_pairwise (fun a b _ _ hab hba => ?_) h₁ h₂
    ((List.perm_ext_iff_of_nodup (nodup_of_pairwise_lt h₁) (nodup_of_pairwise_lt h₂)).2 hmem)
  exact nomatch hba.symm.trans (Std.OrientedCmp.gt_of_lt hab)

theorem keysOf_eq_of_perm {keyed keyed' : List (GroupKey × Dataset)} (h : keyed'.Perm keyed) :
    keysOf keyed' = keysOf keyed :=
  eq_of_pairwise_lt (pairwise_keysOf keyed') (pairwise_keysOf keyed) fun k => by
    simp only [mem_keysOf, h.mem_iff]

end Keys

/-! ## The datasets of one key -/

section Members

variable {k : GroupKey} {d : Dataset} {keyed keyed' : List (GroupKey × Dataset)}

/-- The datasets that carry key `k`, in their order, as `groupDatasets` collects
them. -/
def membersOf (keyed : List (GroupKey × Dataset)) (k : GroupKey) : List Dataset :=
  (keyed.filter fun kd => k.cmp kd.1 == .eq).map (·.2)

theorem mem_membersOf : d ∈ membersOf keyed k ↔ (k, d) ∈ keyed := by
  simp only [membersOf, List.mem_map, List.mem_filter, GroupKey.cmp_beq_eq_iff]
  constructor
  · rintro ⟨⟨k', d'⟩, ⟨hmem, rfl⟩, rfl⟩
    exact hmem
  · intro h
    exact ⟨(k, d), ⟨h, rfl⟩, rfl⟩

theorem membersOf_perm (h : keyed'.Perm keyed) : (membersOf keyed' k).Perm (membersOf keyed k) :=
  (h.filter _).map _

theorem membersOf_sublist : (membersOf keyed k).Sublist (keyed.map (·.2)) :=
  List.filter_sublist.map _

/-- Taking the datasets of each key in turn, over distinct keys that cover every
keyed dataset, lists every keyed dataset once. -/
theorem flatMap_membersOf_perm : ∀ {keys : List GroupKey} {keyed : List (GroupKey × Dataset)},
    keys.Nodup → (∀ kd ∈ keyed, kd.1 ∈ keys) →
      (keys.flatMap (membersOf keyed)).Perm (keyed.map (·.2))
  | [], keyed, _, hcov => by
    have hnil : keyed = [] := List.eq_nil_iff_forall_not_mem.2 fun kd hkd => by
      simpa using hcov kd hkd
    simp [hnil]
  | k :: keys, keyed, hnd, hcov => by
    -- the datasets of `k` first, then the others grouped by the remaining keys
    rw [List.nodup_cons] at hnd
    have hrest : keys.flatMap (membersOf keyed) =
        keys.flatMap (membersOf (keyed.filter fun kd => !(k.cmp kd.1 == .eq))) := by
      refine List.flatMap_congr fun k' hk' => ?_
      have hne : k' ≠ k := fun h => hnd.1 (h ▸ hk')
      simp only [membersOf, List.filter_filter]
      congr 1
      refine List.filter_congr fun kd _ => ?_
      by_cases hkd : k' = kd.1
      · have hk : (k.cmp kd.1 == .eq) = false := by
          rw [Bool.eq_false_iff, ne_eq, GroupKey.cmp_beq_eq_iff]
          exact fun h => hne (hkd.trans h.symm)
        rw [hk, GroupKey.cmp_beq_eq_iff.2 hkd]
        rfl
      · rw [Bool.eq_false_iff.2 (mt GroupKey.cmp_beq_eq_iff.1 hkd), Bool.false_and]
    have hcov' : ∀ kd ∈ keyed.filter (fun kd => !(k.cmp kd.1 == .eq)), kd.1 ∈ keys := by
      intro kd hkd
      rw [List.mem_filter, Bool.not_eq_true', Bool.eq_false_iff, ne_eq, GroupKey.cmp_beq_eq_iff] at hkd
      rcases List.mem_cons.1 (hcov kd hkd.1) with h | h
      · exact absurd h.symm hkd.2
      · exact h
    rw [List.flatMap_cons, hrest]
    refine ((flatMap_membersOf_perm hnd.2 hcov').append_left _).trans ?_
    rw [membersOf, ← List.map_append]
    exact (List.filter_append_perm _ _).map _

end Members

/-! ## Fuse order within a group -/

namespace GroupBy

section Sorting

variable {g : GroupBy} {ms ms' out : List Dataset}

theorem sortGroup_cons_cons (a b : Dataset) (rest : List Dataset) :
    g.sortGroup (a :: b :: rest) = do
      let keyed ← (a :: b :: rest).mapM fun d => return ((← g.sortKey d), d)
      return (keyed.mergeSort fun p q => order p q != .gt).map (·.2) :=
  rfl

/-- A group of at most one dataset is left as it is; a longer one is the
datasets of its keyed pairs in fuse order. -/
theorem sortGroup_eq_ok (h : g.sortGroup ms = .ok out) :
    (ms.length ≤ 1 ∧ out = ms) ∨
      ∃ ps : List (Option GroupKey × Dataset), ps.map (·.2) = ms ∧
        (∀ p ∈ ps, g.sortKey p.2 = .ok p.1) ∧
        out = (ps.mergeSort fun p q => order p q != .gt).map (·.2) := by
  rcases ms with _ | ⟨a, _ | ⟨b, rest⟩⟩
  · cases h
    exact .inl ⟨by simp, rfl⟩
  · cases h
    exact .inl ⟨by simp, rfl⟩
  · rw [sortGroup_cons_cons] at h
    obtain ⟨ps, hps, hout⟩ := Except.bind_eq_ok.1 h
    rw [Except.pure_eq_ok] at hout
    obtain ⟨hms, hkey⟩ := Except.mapM_pair_eq_ok_iff.1 hps
    exact .inr ⟨ps, hms, hkey, hout.symm⟩

/-- Sorting a group keeps its datasets. -/
theorem sortGroup_perm (h : g.sortGroup ms = .ok out) : out.Perm ms := by
  rcases sortGroup_eq_ok h with ⟨-, rfl⟩ | ⟨ps, rfl, -, rfl⟩
  · exact .refl _
  · exact (List.mergeSort_perm _ _).map _

/-- A sorted group is in fuse order: by sort key, then by id. -/
theorem sortGroup_sorted (h : g.sortGroup ms = .ok out) :
    out.Pairwise fun a b => ∀ ka kb, g.sortKey a = .ok ka → g.sortKey b = .ok kb →
      order (ka, a) (kb, b) ≠ .gt := by
  rcases sortGroup_eq_ok h with ⟨hlen, hout⟩ | ⟨ps, -, hkey, rfl⟩
  · rw [hout]
    rcases ms with _ | ⟨a, _ | ⟨b, rest⟩⟩
    · exact .nil
    · exact List.pairwise_singleton _ _
    · simp at hlen
  · rw [List.pairwise_map]
    refine (pairwise_mergeSort_order ps).imp_of_mem fun hp hq hpq ka kb ha hb => ?_
    -- each pair carries its dataset's sort key
    have hpa := (hkey _ ((List.mergeSort_perm _ _).subset hp)).symm.trans ha
    have hqb := (hkey _ ((List.mergeSort_perm _ _).subset hq)).symm.trans hb
    cases hpa
    cases hqb
    exact hpq

/-- Datasets of distinct ids are sorted into one order whatever order they come in. -/
theorem sortGroup_eq_of_perm (hperm : ms'.Perm ms) (hid : (ms.map (·.id)).Nodup)
    (h : g.sortGroup ms = .ok out) : g.sortGroup ms' = .ok out := by
  rcases ms with _ | ⟨a, _ | ⟨b, rest⟩⟩
  · rw [hperm.eq_nil]
    exact h
  · rw [List.perm_singleton.1 hperm]
    exact h
  · obtain ⟨a', b', rest', rfl⟩ : ∃ a' b' rest', ms' = a' :: b' :: rest' := by
      match ms', hperm.length_eq with
      | a' :: b' :: rest', _ => exact ⟨a', b', rest', rfl⟩
    rw [sortGroup_cons_cons] at h ⊢
    obtain ⟨ps, hps, hout⟩ := Except.bind_eq_ok.1 h
    obtain ⟨ps', hps', hperm'⟩ := Except.mapM_perm hperm hps
    refine Except.bind_eq_ok.2 ⟨ps', hps', ?_⟩
    rw [Except.pure_eq_ok] at hout ⊢
    rw [← hout]
    congr 1
    -- both sorted lists are in fuse order, and fuse order ties only equal pairs
    have hkey := Except.mapM_pair_eq_ok_iff.1 hps
    have hsame : ∀ p ∈ ps', ∀ q ∈ ps, fusePlace p = fusePlace q → p = q := by
      intro p hp q hq hpq
      have hp' := hperm'.subset hp
      have hmem : ∀ r ∈ ps, r.2 ∈ a :: b :: rest := fun r hr => hkey.1 ▸ List.mem_map_of_mem hr
      have hid' : p.2.id = q.2.id := by
        simp only [fusePlace, toLex_inj, Prod.mk.injEq] at hpq
        exact congrArg Uuid.mk hpq.2
      have hd : p.2 = q.2 := List.inj_on_of_nodup_map hid (hmem p hp') (hmem q hq) hid'
      have hk : p.1 = q.1 := by
        have := (hkey.2 p hp').symm.trans (hd ▸ hkey.2 q hq)
        exact Except.ok.inj this
      exact Prod.ext hk hd
    refine List.Perm.eq_of_pairwise (fun p q hp hq hpq hqp => ?_) (pairwise_mergeSort_order ps')
      (pairwise_mergeSort_order ps)
      (((List.mergeSort_perm _ _).trans hperm').trans (List.mergeSort_perm _ _).symm)
    exact hsame p ((List.mergeSort_perm _ _).subset hp) q ((List.mergeSort_perm _ _).subset hq)
      (le_antisymm (order_ne_gt_iff.1 hpq) (order_ne_gt_iff.1 hqp))

/-- Sorting a group fails only on a dataset whose sort key cannot be read. -/
theorem sortGroup_isOk (h : ∀ d ∈ ms, ∃ o, g.sortKey d = .ok o) : ∃ out, g.sortGroup ms = .ok out := by
  rcases ms with _ | ⟨a, _ | ⟨b, rest⟩⟩
  · exact ⟨[], rfl⟩
  · exact ⟨[a], rfl⟩
  · have hpair : ∀ d ∈ a :: b :: rest, ∃ p, (do return ((← g.sortKey d), d) :
        LoadResult (Option GroupKey × Dataset)) = .ok p := by
      intro d hd
      obtain ⟨o, ho⟩ := h d hd
      exact ⟨(o, d), by rw [ho]; rfl⟩
    obtain ⟨ps, hps⟩ := Except.mapM_isOk hpair
    exact ⟨_, by rw [sortGroup_cons_cons, hps]; rfl⟩

end Sorting

/-! ## Grouping -/

section Keyed

variable {g : GroupBy} {ds ds' : List Dataset} {k : GroupKey} {d : Dataset}

/-- The datasets with their keys, in their order, when every key could be read;
datasets without a key are left out. -/
def keyed (g : GroupBy) (ds : List Dataset) : List (GroupKey × Dataset) :=
  ds.filterMap fun d => ((g.keyOf d).toOption.join).map (·, d)

theorem mem_keyed : (k, d) ∈ g.keyed ds ↔ d ∈ ds ∧ g.keyOf d = .ok (some k) := by
  simp only [keyed, List.mem_filterMap, Option.map_eq_some_iff, Prod.mk.injEq,
    ← Except.toOption_join_eq_some]
  constructor
  · rintro ⟨d', hd', k', hk', rfl, rfl⟩
    exact ⟨hd', hk'⟩
  · rintro ⟨hd, hk⟩
    exact ⟨d, hd, k, hk, rfl, rfl⟩

theorem keyed_map_snd (g : GroupBy) (ds : List Dataset) :
    (g.keyed ds).map (·.2) = ds.filter fun d => ((g.keyOf d).toOption.join).isSome := by
  induction ds with
  | nil => rfl
  | cons d ds ih =>
    cases hk : (g.keyOf d).toOption.join
    · simp [keyed, hk] at ih ⊢
      exact ih
    · simp [keyed, hk] at ih ⊢
      exact ih

theorem keyed_perm (h : ds'.Perm ds) : (g.keyed ds').Perm (g.keyed ds) :=
  h.filterMap _

end Keyed

/-- A successful grouping, read step by step: every key is read, and each of the
ascending distinct keys gets its datasets in fuse order. -/
theorem groupDatasets_eq_ok_iff {g : GroupBy} {ds : List Dataset} {gs : List Group} :
    groupDatasets ds g = .ok gs ↔ (∀ d ∈ ds, ∃ o, g.keyOf d = .ok o) ∧
      List.Forall₂ (fun k gr => gr.key = k ∧ g.sortGroup (membersOf (g.keyed ds) k) = .ok gr.datasets)
        (keysOf (g.keyed ds)) gs := by
  have hstep : ∀ d, (∃ o, (g.keyOf d >>= fun o => pure (o.map fun k => (k, d)) :
      LoadResult (Option (GroupKey × Dataset))) = .ok o) ↔ ∃ o, g.keyOf d = .ok o := by
    intro d
    cases g.keyOf d <;> simp
  have hval : ∀ d, (g.keyOf d >>= fun o => pure (o.map fun k => (k, d)) :
      LoadResult (Option (GroupKey × Dataset))).toOption.join = ((g.keyOf d).toOption.join).map (·, d) := by
    intro d
    cases g.keyOf d <;> rfl
  have hgroup : ∀ k ms (gr : Group), (g.sortGroup ms >>= fun xs => pure (⟨k, xs⟩ : Group) :
      LoadResult Group) = .ok gr ↔ gr.key = k ∧ g.sortGroup ms = .ok gr.datasets := by
    intro k ms gr
    obtain ⟨k', xs⟩ := gr
    simp only [Except.bind_eq_ok, Except.pure_eq_ok, Group.mk.injEq]
    constructor
    · rintro ⟨ys, hys, rfl, rfl⟩
      exact ⟨rfl, hys⟩
    · rintro ⟨rfl, hxs⟩
      exact ⟨xs, hxs, rfl, rfl⟩
  unfold groupDatasets
  rw [Except.bind_eq_ok]
  simp only [Except.filterMapM_eq_ok_iff, hstep, hval, Except.mapM_eq_ok_iff, hgroup]
  constructor
  · rintro ⟨keyed, ⟨hok, rfl⟩, hgs⟩
    exact ⟨hok, hgs⟩
  · rintro ⟨hok, hgs⟩
    exact ⟨_, ⟨hok, rfl⟩, hgs⟩

/-- Grouping fails only on a dataset whose key, or sort key, cannot be read. -/
theorem groupDatasets_isOk {g : GroupBy} {ds : List Dataset} (hkey : ∀ d ∈ ds, ∃ o, g.keyOf d = .ok o)
    (hsort : ∀ d ∈ ds, ∃ o, g.sortKey d = .ok o) : ∃ gs, groupDatasets ds g = .ok gs := by
  -- the members of each key are datasets of the list, so each group sorts
  have hgroup : ∀ k, ∃ out, g.sortGroup (membersOf (g.keyed ds) k) = .ok out := fun k =>
    sortGroup_isOk fun d hd => hsort d (mem_keyed.1 (mem_membersOf.1 hd)).1
  choose out hout using hgroup
  refine ⟨(keysOf (g.keyed ds)).map fun k => ⟨k, out k⟩, groupDatasets_eq_ok_iff.2 ⟨hkey, ?_⟩⟩
  rw [List.forall₂_map_right_iff, List.forall₂_same]
  exact fun k _ => ⟨rfl, hout k⟩

end GroupBy

/-! ## The laws of grouping -/

section Laws

variable {keys : List GroupKey} {gs : List Group} {R : GroupKey → Group → Prop}

theorem map_key_of_forall₂ {P : GroupKey → Group → Prop}
    (h : List.Forall₂ (fun k gr => gr.key = k ∧ P k gr) keys gs) : gs.map (·.key) = keys := by
  induction h with
  | nil => rfl
  | cons hkg _ ih => rw [List.map_cons, hkg.1, ih]

theorem exists_of_mem_of_forall₂ (h : List.Forall₂ R keys gs) {gr : Group} (hgr : gr ∈ gs) :
    ∃ k ∈ keys, R k gr := by
  induction h with
  | nil => cases hgr
  | cons hkg _ ih =>
    rcases List.mem_cons.1 hgr with rfl | hgr
    · exact ⟨_, List.mem_cons_self, hkg⟩
    · obtain ⟨k, hk, hR⟩ := ih hgr
      exact ⟨k, List.mem_cons_of_mem _ hk, hR⟩

theorem flatMap_perm_of_forall₂ {f : GroupKey → List Dataset}
    (h : List.Forall₂ (fun k gr => gr.datasets.Perm (f k)) keys gs) :
    (gs.flatMap (·.datasets)).Perm (keys.flatMap f) := by
  induction h with
  | nil => exact .refl _
  | cons hkg _ ih => exact hkg.append ih

theorem groupDatasets_partitions_in_order :
    Std.TransCmp GroupKey.cmp ∧ Std.LawfulEqCmp GroupKey.cmp ∧
    ∀ (g : GroupBy) (ds : List Dataset) (gs : List Group), groupDatasets ds g = .ok gs →
      (gs.flatMap (·.datasets)).Perm (ds.filter fun d => ((g.keyOf d).toOption.join).isSome) ∧
      (∀ gr ∈ gs, ∀ d ∈ gr.datasets, g.keyOf d = .ok (some gr.key)) ∧
      gs.Pairwise (fun a b => a.key.cmp b.key = .lt) ∧
      (∀ gr ∈ gs, gr.datasets.Pairwise fun a b => ∀ ka kb, g.sortKey a = .ok ka →
        g.sortKey b = .ok kb → GroupBy.order (ka, a) (kb, b) ≠ .gt) ∧
      ((ds.map (·.id)).Nodup → ∀ ds' : List Dataset, ds'.Perm ds → groupDatasets ds' g = .ok gs) := by
  refine ⟨inferInstance, inferInstance, fun g ds gs h => ?_⟩
  obtain ⟨hok, hgs⟩ := GroupBy.groupDatasets_eq_ok_iff.1 h
  refine ⟨?_, ?_, ?_, ?_, ?_⟩
  · -- every keyed dataset once: the groups list the datasets of each key in turn
    have hsorted : List.Forall₂ (fun k gr => gr.datasets.Perm (membersOf (g.keyed ds) k))
        (keysOf (g.keyed ds)) gs :=
      hgs.imp fun k gr h => GroupBy.sortGroup_perm h.2
    rw [← GroupBy.keyed_map_snd]
    refine (flatMap_perm_of_forall₂ hsorted).trans ?_
    exact flatMap_membersOf_perm (nodup_of_pairwise_lt (pairwise_keysOf _))
      fun kd hkd => mem_keysOf.2 ⟨kd.2, hkd⟩
  · intro gr hgr d hd
    obtain ⟨k, -, rfl, hsort⟩ := exists_of_mem_of_forall₂ hgs hgr
    exact (GroupBy.mem_keyed.1 (mem_membersOf.1 ((GroupBy.sortGroup_perm hsort).subset hd))).2
  · have hkeys := pairwise_keysOf (g.keyed ds)
    rw [← map_key_of_forall₂ hgs, List.pairwise_map] at hkeys
    exact hkeys
  · intro gr hgr
    obtain ⟨k, -, -, hsort⟩ := exists_of_mem_of_forall₂ hgs hgr
    exact GroupBy.sortGroup_sorted hsort
  · -- a permutation of the input keys the same datasets, so it has the same keys and groups
    intro hid ds' hperm
    have hkeyed : (g.keyed ds').Perm (g.keyed ds) := GroupBy.keyed_perm hperm
    refine GroupBy.groupDatasets_eq_ok_iff.2 ⟨fun d hd => hok d (hperm.subset hd), ?_⟩
    rw [keysOf_eq_of_perm hkeyed]
    refine hgs.imp fun k gr hkg => ⟨hkg.1, ?_⟩
    have hsub : (membersOf (g.keyed ds) k).Sublist ds := by
      refine membersOf_sublist.trans ?_
      rw [GroupBy.keyed_map_snd]
      exact List.filter_sublist
    exact GroupBy.sortGroup_eq_of_perm (membersOf_perm hkeyed) (hid.sublist (hsub.map _)) hkg.2

/-- A scene acquired from the third to the fifth of January 2020. -/
def laterScene : Dataset :=
  { SearchPlan.januaryScene with
    id := ⟨2⟩
    metadata := .obj [("created", .str "2020-01-03T00:00:00Z"), ("end", .str "2020-01-05T00:00:00Z"),
      ("start", .str "2020-01-03T00:00:00Z")] }

/-- Two scenes centred on different days make two groups in time order, whichever
comes first. -/
theorem scenes_group_by_centre_time :
    groupDatasets [laterScene, SearchPlan.januaryScene] GroupBy.time =
        .ok [⟨.time ⟨⟨18263⟩, 0, 0⟩, [SearchPlan.januaryScene]⟩, ⟨.time ⟨⟨18265⟩, 0, 0⟩, [laterScene]⟩] ∧
      groupDatasets [SearchPlan.januaryScene, laterScene] GroupBy.time =
        .ok [⟨.time ⟨⟨18263⟩, 0, 0⟩, [SearchPlan.januaryScene]⟩, ⟨.time ⟨⟨18265⟩, 0, 0⟩, [laterScene]⟩] :=
  have h : groupDatasets [laterScene, SearchPlan.januaryScene] GroupBy.time =
      .ok [⟨.time ⟨⟨18263⟩, 0, 0⟩, [SearchPlan.januaryScene]⟩, ⟨.time ⟨⟨18265⟩, 0, 0⟩, [laterScene]⟩] :=
    rfl
  ⟨h, (groupDatasets_partitions_in_order.2.2 _ _ _ h).2.2.2.2 (by decide) _ (List.Perm.swap _ _ [])⟩

end Laws

end Geocube
