import Geocube.Proofs.Document.Same

/-!
Differences of documents are exact.

`diff` walks two mappings key by key and reports any other pair of values that
differ as one change. Read through `atPath?`, which follows a key path through
mappings only, the changes sit exactly at the paths `ChangedAt` describes: the
mappings on the way hold the path's keys on both sides, and at its end either
the two values differ without both being mappings, or one side lacks the last
key (`mem_diff_iff`). Each change carries the two values found at its path.

Main statement, `diff_exact`: between two documents of the data format, `diff`
finds no change exactly when they are equal; each change carries the values at
its path, and these differ without both being mappings; no change's path is a
prefix of another's; a path at which the documents differ lies under a change,
unless both values there are mappings, and then a change lies strictly below
it; and comparing the other way round gives the same changes with their sides
swapped. No change lies at or above a path where both documents hold mappings
(`not_mappingsAt_of_changedAt`), so two mappings that differ only inside an
entry have no change at their own path (`nested_change_below_root`).
-/

namespace Geocube
namespace Document

@[simp] theorem beq_eq_same (x y : Document) : (x == y) = same x y := rfl

/-- The value at the end of a key path, following mappings only; `none` where a
key is missing or a value on the way is not a mapping. -/
def atPath? : Document → List String → Option Document
  | d, [] => some d
  | .obj fs, k :: p => (fs.lookup k).bind (atPath? · p)
  | _, _ :: _ => none

@[simp] theorem atPath?_nil (d : Document) : d.atPath? [] = some d := by
  cases d <;> rfl

@[simp] theorem atPath?_obj_cons (fs : List (String × Document)) (k : String) (p : List String) :
    (Document.obj fs).atPath? (k :: p) = (fs.lookup k).bind (atPath? · p) := rfl

theorem atPath?_cons_of_not_obj {d : Document} (h : d.isObj = false) (k : String)
    (p : List String) : d.atPath? (k :: p) = none := by
  cases d <;> simp_all [atPath?, isObj]

namespace Change

/-- The change read the other way round. -/
def swap (c : Change) : Change := ⟨c.path, c.after, c.before⟩

@[simp] theorem swap_swap (c : Change) : c.swap.swap = c := rfl

end Change

/-- `diff x y` reports a change at `p`: the mappings on the way hold the keys of
`p` on both sides, and at its end the values differ without both being
mappings, or the last key is held on one side only. -/
def ChangedAt : Document → Document → List String → Prop
  | .obj xs, .obj ys, k :: p =>
    match xs.lookup k, ys.lookup k with
    | some x, some y => ChangedAt x y p
    | some _, none | none, some _ => p = []
    | none, none => False
  | .obj _, .obj _, [] => False
  | x, y, [] => same x y = false
  | _, _, _ :: _ => False

/-- Both documents hold a mapping at `p`. -/
def MappingsAt (x y : Document) (p : List String) : Prop :=
  ∃ xs ys, x.atPath? p = some (.obj xs) ∧ y.atPath? p = some (.obj ys)

section Changes

variable {xs ys : List (String × Document)} {k : String} {p : List String} {x y : Document}
  {c : Change}

theorem changedAt_cons_some_some (hx : xs.lookup k = some x) (hy : ys.lookup k = some y) :
    ChangedAt (.obj xs) (.obj ys) (k :: p) ↔ ChangedAt x y p := by
  rw [ChangedAt, hx, hy]

theorem changedAt_cons_some_none (hx : xs.lookup k = some x) (hy : ys.lookup k = none) :
    ChangedAt (.obj xs) (.obj ys) (k :: p) ↔ p = [] := by
  rw [ChangedAt, hx, hy]

theorem changedAt_cons_none_some (hx : xs.lookup k = none) (hy : ys.lookup k = some y) :
    ChangedAt (.obj xs) (.obj ys) (k :: p) ↔ p = [] := by
  rw [ChangedAt, hx, hy]

theorem changedAt_nil_of_not_obj (h : ¬(x.isObj ∧ y.isObj)) :
    ChangedAt x y [] ↔ same x y = false := by
  cases x <;> cases y <;> simp_all [ChangedAt, isObj]

theorem not_obj_pair_of (h : ∀ xs ys, x = .obj xs → y = .obj ys → False) :
    ¬(x.isObj ∧ y.isObj) := by
  cases x <;> cases y <;> simp_all [isObj]

theorem changedAt_symm : ChangedAt x y p → ChangedAt y x p := by
  fun_induction ChangedAt x y p with
  | case1 xs ys k p x y hy hx ih =>
    rw [changedAt_cons_some_some hy hx]
    exact ih
  | case2 xs ys k p x hy hx =>
    rw [changedAt_cons_none_some hy hx]
    exact id
  | case3 xs ys k p y hy hx =>
    rw [changedAt_cons_some_none hy hx]
    exact id
  | case4 | case5 | case7 => exact False.elim
  | case6 x y hobj =>
    have hnot : ¬(y.isObj ∧ x.isObj) := by
      rw [and_comm]
      exact not_obj_pair_of hobj
    rw [changedAt_nil_of_not_obj hnot]
    intro h
    cases hs : same y x
    · rfl
    · rw [same_symm hs] at h
      cases h

theorem changedAt_comm : ChangedAt x y p ↔ ChangedAt y x p := ⟨changedAt_symm, changedAt_symm⟩

theorem sameFields_lookup (hs : sameFields xs ys = true) (k : String) :
    (xs.lookup k = none ∧ ys.lookup k = none) ∨
      ∃ x y, xs.lookup k = some x ∧ ys.lookup k = some y ∧ same x y = true := by
  induction xs generalizing ys with
  | nil =>
    cases ys with
    | nil => exact .inl ⟨rfl, rfl⟩
    | cons e ys => simp [sameFields] at hs
  | cons e xs ih =>
    obtain ⟨k', x'⟩ := e
    cases ys with
    | nil => simp [sameFields] at hs
    | cons e' ys =>
      obtain ⟨k'', y'⟩ := e'
      simp only [sameFields, Bool.and_eq_true, beq_iff_eq] at hs
      obtain ⟨⟨rfl, hxy⟩, hrest⟩ := hs
      by_cases hk : k = k'
      · subst hk
        exact .inr ⟨x', y', by simp, by simp, hxy⟩
      · rw [List.lookup_cons, List.lookup_cons, beq_false_of_ne hk]
        exact ih hrest

theorem not_changedAt_of_same (hs : same x y = true) : ¬ ChangedAt x y p := by
  fun_induction ChangedAt x y p with
  | case1 xs ys k p x y hy hx ih =>
    rcases sameFields_lookup (k := k) hs with ⟨hxn, -⟩ | ⟨x', y', hx', hy', hxy⟩
    · rw [hx] at hxn
      cases hxn
    · rw [hx] at hx'
      rw [hy] at hy'
      cases hx'
      cases hy'
      exact ih hxy
  | case2 xs ys k p x hy hx =>
    rcases sameFields_lookup (k := k) hs with ⟨hxn, -⟩ | ⟨x', y', -, hy', -⟩
    · rw [hx] at hxn
      cases hxn
    · rw [hy] at hy'
      cases hy'
  | case3 xs ys k p y hy hx =>
    rcases sameFields_lookup (k := k) hs with ⟨-, hyn⟩ | ⟨x', y', hx', -, -⟩
    · rw [hy] at hyn
      cases hyn
    · rw [hx] at hx'
      cases hx'
  | case4 | case5 | case7 => exact id
  | case6 x y hobj => simp [hs]

/-- At a reported path the two values differ. -/
theorem atPath?_beq_of_changedAt : ChangedAt x y p → (x.atPath? p == y.atPath? p) = false := by
  fun_induction ChangedAt x y p with
  | case1 xs ys k p x y hy hx ih =>
    rw [atPath?_obj_cons, atPath?_obj_cons, hx, hy]
    exact ih
  | case2 xs ys k p x hy hx =>
    rintro rfl
    simp [hx, hy]
  | case3 xs ys k p y hy hx =>
    rintro rfl
    simp [hx, hy]
  | case4 | case5 | case7 => exact False.elim
  | case6 x y hobj =>
    intro h
    simpa using h

/-- At a reported path, and below it, the two documents never both hold a
mapping: the walk through two mappings reports nothing at their own path. -/
theorem not_mappingsAt_of_changedAt {q : List String} (h : ChangedAt x y p) (hpq : p <+: q) :
    ¬ MappingsAt x y q := by
  rintro ⟨xs', ys', hx', hy'⟩
  fun_induction ChangedAt x y p generalizing q with
  | case1 xs ys k p x y hy hx ih =>
    obtain ⟨q', rfl, hpq'⟩ : ∃ q', q = k :: q' ∧ p <+: q' := by
      obtain ⟨r, rfl⟩ := hpq
      exact ⟨p ++ r, rfl, List.prefix_append p r⟩
    rw [atPath?_obj_cons, hx] at hx'
    rw [atPath?_obj_cons, hy] at hy'
    exact ih h hpq' hx' hy'
  | case2 xs ys k p x hy hx =>
    obtain ⟨r, rfl⟩ := hpq
    simp [hy] at hy'
  | case3 xs ys k p y hy hx =>
    obtain ⟨r, rfl⟩ := hpq
    simp [hx] at hx'
  | case4 | case5 | case7 => exact h.elim
  | case6 x y hobj =>
    cases q with
    | nil =>
      simp only [atPath?_nil, Option.some.injEq] at hx' hy'
      exact hobj xs' ys' hx' hy'
    | cons k q =>
      -- one side is no mapping, and a path through it leads nowhere
      rcases Bool.eq_false_or_eq_true x.isObj with hxo | hxo
      · rcases Bool.eq_false_or_eq_true y.isObj with hyo | hyo
        · exact not_obj_pair_of hobj ⟨hxo, hyo⟩
        · rw [atPath?_cons_of_not_obj hyo] at hy'
          cases hy'
      · rw [atPath?_cons_of_not_obj hxo] at hx'
        cases hx'

/-- Every reported path carries a change of the two values found there. -/
theorem mem_diff_of_changedAt : ChangedAt x y p → ⟨p, x.atPath? p, y.atPath? p⟩ ∈ diff x y := by
  fun_induction ChangedAt x y p with
  | case1 xs ys k p x y hy hx ih =>
    intro h
    rw [atPath?_obj_cons, atPath?_obj_cons, hx, hy, diff_obj]
    exact List.mem_append_left _ (within_mem_diffFields (mem_of_lookup_eq_some hx) hy (ih h))
  | case2 xs ys k p x hy hx =>
    rintro rfl
    rw [atPath?_obj_cons, atPath?_obj_cons, hx, hy, diff_obj]
    exact List.mem_append_left _ (removal_mem_diffFields (mem_of_lookup_eq_some hx) hy)
  | case3 xs ys k p y hy hx =>
    rintro rfl
    rw [atPath?_obj_cons, atPath?_obj_cons, hx, hy, diff_obj]
    refine List.mem_append_right _ (List.mem_map.2 ⟨(k, y), ?_, rfl⟩)
    simp [mem_of_lookup_eq_some hy, hx]
  | case4 | case5 | case7 => exact False.elim
  | case6 x y hobj =>
    intro h
    rw [diff_of_not_obj (not_obj_pair_of hobj), h]
    simp


/-- `c` is the change from `x` to `y` at a reported path: it carries the two
values found there. -/
def IsChange (x y : Document) (c : Change) : Prop :=
  ChangedAt x y c.path ∧ c.before = x.atPath? c.path ∧ c.after = y.atPath? c.path

/-- Between documents of the data format, every change `diff` reports sits at a
reported path and carries the values found there. The entries of one mapping are
walked against a mapping `xs0` that holds them, so that a key's lookup finds the
entry being walked. -/
theorem isChange_of_mem_diff :
    x.isNormal = true → y.isNormal = true → ∀ c ∈ diff x y, IsChange x y c := by
  refine diff.induct (fun x y => x.isNormal = true → y.isNormal = true → ∀ c ∈ diff x y, IsChange x y c)
    (fun ys xs => ∀ xs0 : List (String × Document), (xs0.map (·.1)).Nodup →
      fieldsNormal xs0 = true → (∀ e ∈ xs, e ∈ xs0) → (Document.obj ys).isNormal = true →
      ∀ c ∈ diffFields ys xs, IsChange (.obj xs0) (.obj ys) c) ?_ ?_ ?_ ?_ ?_ x y
  · intro xs ys ih hx hy c hc
    obtain ⟨hxs, hxn⟩ := isNormal_obj.1 hx
    obtain ⟨hys, -⟩ := isNormal_obj.1 hy
    rw [diff_obj, List.mem_append] at hc
    rcases hc with hc | hc
    · exact ih xs hxs.nodup hxn (fun e he => he) hy c hc
    · -- a key only the new mapping holds
      obtain ⟨⟨k, y⟩, hmem, rfl⟩ := List.mem_map.1 hc
      obtain ⟨hmem, hnone⟩ := List.mem_filter.1 hmem
      have hxk : xs.lookup k = none := by simpa using hnone
      have hyk : ys.lookup k = some y := lookup_eq_some_of_mem hys.nodup hmem
      exact ⟨(changedAt_cons_none_some hxk hyk).2 rfl, by simp [hxk], by simp [hyk]⟩
  · intro x y hobj hsame _ _ c hc
    rw [diff_of_not_obj (not_obj_pair_of hobj), if_pos hsame] at hc
    cases hc
  · intro x y hobj hsame _ _ c hc
    rw [diff_of_not_obj (not_obj_pair_of hobj), if_neg hsame, List.mem_singleton] at hc
    subst hc
    exact ⟨(changedAt_nil_of_not_obj (not_obj_pair_of hobj)).2 (by simpa using hsame), rfl, rfl⟩
  · intro ys _ _ _ _ _ c hc
    cases hc
  · intro ys k x xs ihx ih xs0 hnd hfn hsub hy c hc
    have hk0 : xs0.lookup k = some x := lookup_eq_some_of_mem hnd (hsub _ List.mem_cons_self)
    have hxn : x.isNormal = true := isNormal_of_mem_fields hfn (hsub _ List.mem_cons_self)
    rw [diffFields, List.mem_append] at hc
    rcases hc with hc | hc
    · cases hyk : ys.lookup k with
      | none =>
        rw [hyk] at hc
        dsimp only at hc
        rw [List.mem_singleton] at hc
        subst hc
        exact ⟨(changedAt_cons_some_none hk0 hyk).2 rfl, by simp [hk0], by simp [hyk]⟩
      | some y =>
        rw [hyk] at hc
        dsimp only at hc
        obtain ⟨c', hc', rfl⟩ := List.mem_map.1 hc
        have hyn : y.isNormal = true :=
          isNormal_of_mem_fields (isNormal_obj.1 hy).2 (mem_of_lookup_eq_some hyk)
        obtain ⟨hch, hbefore, hafter⟩ := ihx y hxn hyn c' hc'
        exact ⟨(changedAt_cons_some_some hk0 hyk).2 hch, by simp [Change.within, hk0, hbefore],
          by simp [Change.within, hyk, hafter]⟩
    · exact ih xs0 hnd hfn (fun e he => hsub e (List.mem_cons_of_mem _ he)) hy c hc

theorem mem_diff_iff (hx : x.isNormal = true) (hy : y.isNormal = true) :
    c ∈ diff x y ↔ IsChange x y c := by
  refine ⟨isChange_of_mem_diff hx hy c, ?_⟩
  rintro ⟨hch, hbefore, hafter⟩
  obtain ⟨p, before, after⟩ := c
  simp only at hbefore hafter
  subst hbefore hafter
  exact mem_diff_of_changedAt hch


/-! ## No change lies under another -/

/-- Neither path is a prefix of the other. -/
def Apart (p q : List String) : Prop := ¬ p <+: q ∧ ¬ q <+: p

theorem apart_cons_cons {p q : List String} : Apart (k :: p) (k :: q) ↔ Apart p q := by
  simp only [Apart, List.prefix_cons_inj]

theorem apart_of_head_ne {k' : String} {p q : List String} (h : k ≠ k') :
    Apart (k :: p) (k' :: q) := by
  simp only [Apart, List.cons_prefix_cons]
  exact ⟨fun hp => h hp.1, fun hp => h hp.1.symm⟩

theorem Apart.ne {p q : List String} (h : Apart p q) : p ≠ q := by
  rintro rfl
  exact h.1 (List.prefix_refl p)

/-- A change of two mappings' entries lies under the key of an old entry. -/
theorem mem_diffFields_path (hc : c ∈ diffFields ys xs) :
    ∃ k ∈ xs.map (·.1), ∃ q, c.path = k :: q := by
  induction xs with
  | nil => cases hc
  | cons e xs ih =>
    obtain ⟨k, x⟩ := e
    rw [diffFields, List.mem_append] at hc
    rcases hc with hc | hc
    · refine ⟨k, List.mem_cons_self, ?_⟩
      cases hyk : ys.lookup k with
      | none =>
        rw [hyk] at hc
        dsimp only at hc
        rw [List.mem_singleton] at hc
        exact ⟨[], by rw [hc]⟩
      | some y =>
        rw [hyk] at hc
        dsimp only at hc
        obtain ⟨c', -, rfl⟩ := List.mem_map.1 hc
        exact ⟨c'.path, rfl⟩
    · obtain ⟨k', hk', q, hq⟩ := ih hc
      exact ⟨k', List.mem_cons_of_mem _ hk', q, hq⟩

/-- The changes of two documents of the data format lie at paths none of which
is a prefix of another. -/
theorem diff_pairwise_apart :
    x.isNormal = true → y.isNormal = true →
      (diff x y).Pairwise (fun c d => Apart c.path d.path) := by
  refine diff.induct
    (fun x y => x.isNormal = true → y.isNormal = true →
      (diff x y).Pairwise (fun c d => Apart c.path d.path))
    (fun ys xs => (xs.map (·.1)).Pairwise (· < ·) → fieldsNormal xs = true →
      (Document.obj ys).isNormal = true →
      (diffFields ys xs).Pairwise (fun c d => Apart c.path d.path)) ?_ ?_ ?_ ?_ ?_ x y
  · intro xs ys ih hx hy
    obtain ⟨hxs, hxn⟩ := isNormal_obj.1 hx
    obtain ⟨hys, -⟩ := isNormal_obj.1 hy
    rw [diff_obj, List.pairwise_append, List.pairwise_map]
    refine ⟨ih hxs hxn hy, ?_, ?_⟩
    · -- the added keys are distinct keys of the new mapping
      have hsorted : ((ys.filter fun e => (xs.lookup e.1).isNone).map (·.1)).Pairwise (· < ·) :=
        hys.sublist (List.Sublist.map _ List.filter_sublist)
      rw [List.pairwise_map] at hsorted
      exact hsorted.imp fun hlt => apart_of_head_ne (ne_of_lt hlt)
    · intro c hc d hd
      obtain ⟨k, hk, q, hq⟩ := mem_diffFields_path hc
      obtain ⟨⟨k', y⟩, hmem, rfl⟩ := List.mem_map.1 hd
      have hnone : xs.lookup k' = none := by simpa using (List.mem_filter.1 hmem).2
      have hne : k ≠ k' := by
        rintro rfl
        rw [← lookup_isSome_iff_mem_keys, hnone] at hk
        cases hk
      rw [hq]
      exact apart_of_head_ne hne
  · intro x y hobj hsame _ _
    rw [diff_of_not_obj (not_obj_pair_of hobj), if_pos hsame]
    exact List.Pairwise.nil
  · intro x y hobj hsame _ _
    rw [diff_of_not_obj (not_obj_pair_of hobj), if_neg hsame]
    exact List.pairwise_singleton _ _
  · intro ys _ _ _
    exact List.Pairwise.nil
  · intro ys k x xs ihx ih hsorted hfn hy
    simp only [List.map_cons, List.pairwise_cons] at hsorted
    simp only [fieldsNormal, Bool.and_eq_true] at hfn
    rw [diffFields, List.pairwise_append]
    refine ⟨?_, ih hsorted.2 hfn.2 hy, ?_⟩
    · cases hyk : ys.lookup k with
      | none => exact List.pairwise_singleton _ _
      | some y =>
        have hyn : y.isNormal = true :=
          isNormal_of_mem_fields (isNormal_obj.1 hy).2 (mem_of_lookup_eq_some hyk)
        dsimp only
        rw [List.pairwise_map]
        exact (ihx y hfn.1 hyn).imp fun h => apart_cons_cons.2 h
    · -- the first key is smaller than every later key
      intro c hc d hd
      obtain ⟨k', hk', q', hq'⟩ := mem_diffFields_path hd
      have hne : k ≠ k' := ne_of_lt (hsorted.1 k' hk')
      have hc1 : c ∈ diffFields ys [(k, x)] := by
        rw [diffFields, diffFields, List.append_nil]
        exact hc
      obtain ⟨k0, hk0, q, hq⟩ := mem_diffFields_path hc1
      simp only [List.map_cons, List.map_nil, List.mem_singleton] at hk0
      subst hk0
      rw [hq, hq']
      exact apart_of_head_ne hne


/-! ## Every difference lies at or over a change -/

theorem isObj_eq_of_same (h : same x y = true) : x.isObj = y.isObj := by
  cases x <;> cases y <;> simp_all [same, isObj]

/-- A path at which two documents of the data format differ lies under a
reported path, or, where both values there are mappings, over one. -/
theorem exists_changedAt (hx : x.isNormal = true) (hy : y.isNormal = true)
    (hp : (x.atPath? p == y.atPath? p) = false) :
    (∃ q, ChangedAt x y q ∧ q <+: p) ∨
      ((∃ xs ys, x.atPath? p = some (.obj xs) ∧ y.atPath? p = some (.obj ys)) ∧
        ∃ q, ChangedAt x y q ∧ p <+: q) := by
  induction p generalizing x y with
  | nil =>
    have hs : same x y = false := by simpa using hp
    by_cases hobj : x.isObj ∧ y.isObj
    · -- two differing mappings: `diff` reports something, and all of it lies below
      right
      obtain ⟨xs, rfl⟩ : ∃ xs, x = .obj xs := by cases x <;> simp_all [isObj]
      obtain ⟨ys, rfl⟩ : ∃ ys, y = .obj ys := by cases y <;> simp_all [isObj]
      have hne : diff (.obj xs) (.obj ys) ≠ [] := fun h => by
        rw [same_of_diff_eq_nil hx hy h] at hs
        cases hs
      obtain ⟨c, hc⟩ := List.exists_mem_of_ne_nil _ hne
      exact ⟨⟨xs, ys, rfl, rfl⟩, c.path, (isChange_of_mem_diff hx hy c hc).1, List.nil_prefix⟩
    · exact .inl ⟨[], (changedAt_nil_of_not_obj hobj).2 hs, List.prefix_refl _⟩
  | cons k p ih =>
    by_cases hobj : x.isObj ∧ y.isObj
    · obtain ⟨xs, rfl⟩ : ∃ xs, x = .obj xs := by cases x <;> simp_all [isObj]
      obtain ⟨ys, rfl⟩ : ∃ ys, y = .obj ys := by cases y <;> simp_all [isObj]
      have hpre : [k] <+: k :: p := (List.prefix_cons_inj _).2 List.nil_prefix
      cases hxk : xs.lookup k with
      | none =>
        cases hyk : ys.lookup k with
        | none => simp [hxk, hyk] at hp
        | some y => exact .inl ⟨[k], (changedAt_cons_none_some hxk hyk).2 rfl, hpre⟩
      | some x =>
        cases hyk : ys.lookup k with
        | none => exact .inl ⟨[k], (changedAt_cons_some_none hxk hyk).2 rfl, hpre⟩
        | some y =>
          have hp' : (x.atPath? p == y.atPath? p) = false := by simpa [hxk, hyk] using hp
          have hxn := isNormal_of_mem_fields (isNormal_obj.1 hx).2 (mem_of_lookup_eq_some hxk)
          have hyn := isNormal_of_mem_fields (isNormal_obj.1 hy).2 (mem_of_lookup_eq_some hyk)
          rcases ih hxn hyn hp' with ⟨q, hq, hqp⟩ | ⟨⟨xs', ys', hx', hy'⟩, q, hq, hpq⟩
          · exact .inl ⟨k :: q, (changedAt_cons_some_some hxk hyk).2 hq,
              (List.prefix_cons_inj _).2 hqp⟩
          · exact .inr ⟨⟨xs', ys', by simp [hxk, hx'], by simp [hyk, hy']⟩, k :: q,
              (changedAt_cons_some_some hxk hyk).2 hq, (List.prefix_cons_inj _).2 hpq⟩
    · -- one side is no mapping, so nothing lies below it: the change is the whole
      have hs : same x y = false := by
        cases hs : same x y
        · rfl
        · have hx' : x.isObj = false := by
            have := isObj_eq_of_same hs
            cases hxo : x.isObj <;> simp_all
          have hy' : y.isObj = false := by rw [← isObj_eq_of_same hs, hx']
          rw [atPath?_cons_of_not_obj hx', atPath?_cons_of_not_obj hy'] at hp
          cases hp
      exact .inl ⟨[], (changedAt_nil_of_not_obj hobj).2 hs, List.nil_prefix⟩

/-! ## Equality, the other order, and the main statement -/

theorem diff_eq_nil_iff (hx : x.isNormal = true) (hy : y.isNormal = true) :
    diff x y = [] ↔ same x y = true :=
  ⟨same_of_diff_eq_nil hx hy, fun hs => List.eq_nil_iff_forall_not_mem.2 fun c hc =>
    not_changedAt_of_same hs (isChange_of_mem_diff hx hy c hc).1⟩

theorem isChange_swap_iff : IsChange y x c ↔ IsChange x y c.swap := by
  simp only [IsChange, Change.swap, changedAt_comm (x := y)]
  constructor <;> rintro ⟨h, h1, h2⟩ <;> exact ⟨h, h2, h1⟩

theorem diff_nodup (hx : x.isNormal = true) (hy : y.isNormal = true) :
    (diff x y).Nodup :=
  (diff_pairwise_apart hx hy).imp fun h he => h.ne (congrArg Change.path he)

/-- Compared the other way round, two documents of the data format have the same
changes with their sides swapped. -/
theorem diff_perm_swap (hx : x.isNormal = true) (hy : y.isNormal = true) :
    (diff y x).Perm ((diff x y).map Change.swap) := by
  have hinj : Function.Injective Change.swap := fun a b h => by
    rw [← Change.swap_swap a, h, Change.swap_swap]
  refine (List.perm_ext_iff_of_nodup (diff_nodup hy hx) ((diff_nodup hx hy).map hinj)).2 fun c => ?_
  rw [mem_diff_iff hy hx, isChange_swap_iff, ← mem_diff_iff hx hy, List.mem_map]
  exact ⟨fun h => ⟨c.swap, h, Change.swap_swap c⟩, fun ⟨d, hd, he⟩ => by rwa [← he, Change.swap_swap]⟩

/-- `diff` is exact between documents of the data format: it finds no change
exactly when they are equal; each change carries the values at its path, and
these differ without both being mappings; no change lies under another; every
path at which the documents differ lies under a change, unless both values there
are mappings, and then a change lies strictly below it; and compared the other
way round they have the same changes, sides swapped. -/
theorem diff_exact {old new : Document} (hold : old.isNormal = true) (hnew : new.isNormal = true) :
    (diff old new = [] ↔ same old new = true) ∧
    (∀ c ∈ diff old new, c.before = old.atPath? c.path ∧ c.after = new.atPath? c.path ∧
      (c.before == c.after) = false ∧ ¬ MappingsAt old new c.path) ∧
    (diff old new).Pairwise (fun c d => ¬ c.path <+: d.path ∧ ¬ d.path <+: c.path) ∧
    (∀ p, (old.atPath? p == new.atPath? p) = false →
      (MappingsAt old new p → ∃ c ∈ diff old new, p <+: c.path ∧ c.path ≠ p) ∧
      (¬ MappingsAt old new p → ∃ c ∈ diff old new, c.path <+: p)) ∧
    (diff new old).Perm ((diff old new).map Change.swap) := by
  refine ⟨diff_eq_nil_iff hold hnew, fun c hc => ?_, diff_pairwise_apart hold hnew, fun p hp => ?_,
    diff_perm_swap hold hnew⟩
  · obtain ⟨hch, hbefore, hafter⟩ := isChange_of_mem_diff hold hnew c hc
    refine ⟨hbefore, hafter, ?_, not_mappingsAt_of_changedAt hch (List.prefix_refl _)⟩
    rw [hbefore, hafter]
    exact atPath?_beq_of_changedAt hch
  · refine ⟨fun hmaps => ?_, fun hmaps => ?_⟩
    · -- a change at or above two mappings would leave no mapping below it
      rcases exists_changedAt hold hnew hp with ⟨q, hq, hqp⟩ | ⟨-, q, hq, hpq⟩
      · exact absurd hmaps (not_mappingsAt_of_changedAt hq hqp)
      · refine ⟨_, mem_diff_of_changedAt hq, hpq, ?_⟩
        rintro rfl
        exact not_mappingsAt_of_changedAt hq (List.prefix_refl _) hmaps
    · rcases exists_changedAt hold hnew hp with ⟨q, hq, hqp⟩ | ⟨hobj, -⟩
      · exact ⟨_, mem_diff_of_changedAt hq, hqp⟩
      · exact absurd hobj hmaps

/-- The nested revision of the format's own test: a changed entry in a mapping,
a longer list and a new key. Compared the other way round it has the same three
changes, sides swapped. -/
theorem nested_revision_changes_swap :
    (Document.obj [("a", .obj [("b", .int 1), ("c", .int 2)]), ("d", .arr [.int 1, .int 2])]).isNormal
        = true ∧
      (Document.obj [("a", .obj [("b", .int 1), ("c", .int 3)]), ("d", .arr [.int 1, .int 2, .int 3]),
        ("e", .bool true)]).isNormal = true ∧
      (diff (.obj [("a", .obj [("b", .int 1), ("c", .int 3)]), ("d", .arr [.int 1, .int 2, .int 3]),
          ("e", .bool true)])
        (.obj [("a", .obj [("b", .int 1), ("c", .int 2)]), ("d", .arr [.int 1, .int 2])])).Perm
      ((diff (.obj [("a", .obj [("b", .int 1), ("c", .int 2)]), ("d", .arr [.int 1, .int 2])])
        (.obj [("a", .obj [("b", .int 1), ("c", .int 3)]), ("d", .arr [.int 1, .int 2, .int 3]),
          ("e", .bool true)])).map Change.swap) :=
  ⟨by decide, by decide, (diff_exact (by decide) (by decide)).2.2.2.2⟩

/-- Two mappings that differ in one entry differ at their own path, yet no
change lies at or above it: the one change is the entry's. -/
theorem nested_change_below_root :
    ((Document.obj [("a", .int 1)]).atPath? [] == (Document.obj [("a", .int 2)]).atPath? []) = false ∧
      ∀ c ∈ diff (.obj [("a", .int 1)]) (.obj [("a", .int 2)]), ¬ c.path <+: [] := by
  decide

end Changes

end Document
end Geocube
