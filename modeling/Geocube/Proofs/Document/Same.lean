import Geocube.Document.Changes
import Mathlib

/-
Equality of documents, and what an empty difference says about two documents.

`Document.same` is the data format's equality: doubles compare as IEEE numbers,
so a document holding NaN is not equal to itself, and `0.0` equals `-0.0`. It
is therefore no equivalence, but it is symmetric and transitive, because IEEE
equality is: two doubles compare equal exactly when they stand for the same
number, the two zeros being one number and NaN standing for none
(`Binary64.beq_iff_eqKey`).

The mappings of the data format hold each key once, in increasing key order.
The type of documents does not enforce it; `Document.isNormal` says it of a
document and everything inside it. On normal documents `diff` is exact: it
finds no change only between equal documents (`same_of_diff_eq_nil`). The
changes under one key of two mappings are the changes of the two values there,
one key down, or the key's addition or removal (`DiffAll.atKey`,
`DiffAll.addition`, `DiffAll.removal`); a check that accepts a difference
change by change therefore tells, key by key, what may differ.
-/

namespace Geocube

namespace Binary64

open Float.Model

/-- The number an unpacked double stands for under IEEE equality: the two zeros
are one number, and NaN stands for none. -/
def eqKey : UnpackedFloat → Option UnpackedFloat
  | .notANumber => none
  | .zero _ => some (.zero .positive)
  | a => some a

theorem sign_compare_self (s : UnpackedFloat.Sign) : compare s s = .eq := by
  cases s <;> rfl

/-- Two unpacked doubles compare equal exactly when they stand for the same
number. -/
theorem compare_eq_some_eq_iff (a b : UnpackedFloat) :
    a.compare b = some .eq ↔ eqKey a = eqKey b ∧ (eqKey a).isSome := by
  -- every pair of shapes, with their signs: the comparison is a table
  rcases a with (s | _ | s | ⟨s, m, e, hm⟩) <;> rcases b with (t | _ | t | ⟨t, n, f, hn⟩) <;>
    (try cases s) <;> (try cases t) <;>
    simp [UnpackedFloat.compare, eqKey, sign_compare_self, Ordering.then_eq_eq,
      Ordering.swap_eq_eq, and_comm]

theorem beq_iff_eqKey (a b : Float) :
    (a == b) = true ↔
      eqKey a.toModel.unpack = eqKey b.toModel.unpack ∧ (eqKey a.toModel.unpack).isSome := by
  show (a.toModel.unpack.compare b.toModel.unpack == some .eq) = true ↔ _
  rw [beq_iff_eq, compare_eq_some_eq_iff]

theorem beq_symm {a b : Float} (h : (a == b) = true) : (b == a) = true := by
  rw [beq_iff_eqKey] at h ⊢
  exact ⟨h.1.symm, h.1 ▸ h.2⟩

theorem beq_trans {a b c : Float} (hab : (a == b) = true) (hbc : (b == c) = true) :
    (a == c) = true := by
  rw [beq_iff_eqKey] at hab hbc ⊢
  exact ⟨hab.1.trans hbc.1, hab.2⟩

/-- Doubles that compare equal compare alike with every double. -/
theorem beq_congr_right {a b : Float} (x : Float) (hab : (a == b) = true) :
    (x == a) = (x == b) :=
  Bool.eq_iff_iff.2 ⟨fun h => beq_trans h hab, fun h => beq_trans h (beq_symm hab)⟩

end Binary64

namespace Document

/-! ## Equality is symmetric and transitive -/

theorem sameItems_length : ∀ {xs ys : List Document}, sameItems xs ys = true →
    xs.length = ys.length
  | [], [], _ => rfl
  | _ :: _, _ :: _, h => by
    simp only [sameItems, Bool.and_eq_true] at h
    simp [sameItems_length h.2]
  | [], _ :: _, h | _ :: _, [], h => by simp [sameItems] at h

theorem sameItems_iff_forall₂ : ∀ {xs ys : List Document},
    sameItems xs ys = true ↔ List.Forall₂ (fun x y => same x y = true) xs ys
  | [], [] => by simp [sameItems]
  | x :: xs, y :: ys => by simp [sameItems, sameItems_iff_forall₂]
  | [], _ :: _ | _ :: _, [] => by simp [sameItems]

theorem sameFields_iff_forall₂ : ∀ {xs ys : List (String × Document)},
    sameFields xs ys = true ↔
      List.Forall₂ (fun p q => p.1 = q.1 ∧ same p.2 q.2 = true) xs ys
  | [], [] => by simp [sameFields]
  | (_, _) :: xs, (_, _) :: ys => by simp [sameFields, sameFields_iff_forall₂, and_assoc]
  | [], _ :: _ | _ :: _, [] => by simp [sameFields]

theorem same_str_left {s : String} {y : Document} (h : same (.str s) y = true) :
    y = .str s := by
  cases y <;> simp_all [same]

theorem same_int_left {i : Int} {y : Document} (h : same (.int i) y = true) : y = .int i := by
  cases y <;> simp_all [same]

theorem same_null_left {y : Document} (h : same .null y = true) : y = .null := by
  cases y <;> simp_all [same]

theorem same_bool_left {b : Bool} {y : Document} (h : same (.bool b) y = true) : y = .bool b := by
  cases y <;> simp_all [same]

theorem same_float_left {a : Float} {y : Document} (h : same (.float a) y = true) :
    ∃ b, y = .float b ∧ (a == b) = true := by
  cases y <;> simp_all [same]

theorem same_arr_left {xs : List Document} {y : Document} (h : same (.arr xs) y = true) :
    ∃ ys, y = .arr ys ∧ sameItems xs ys = true := by
  cases y <;> simp_all [same]

theorem same_obj_left {xs : List (String × Document)} {y : Document}
    (h : same (.obj xs) y = true) : ∃ ys, y = .obj ys ∧ sameFields xs ys = true := by
  cases y <;> simp_all [same]

mutual

theorem same_symm : ∀ {x y : Document}, same x y = true → same y x = true
  | .null, _, h => by
    obtain rfl := same_null_left h
    exact h
  | .bool _, _, h => by
    obtain rfl := same_bool_left h
    exact h
  | .int _, _, h => by
    obtain rfl := same_int_left h
    exact h
  | .str _, _, h => by
    obtain rfl := same_str_left h
    exact h
  | .float _, _, h => by
    obtain ⟨_, rfl, h⟩ := same_float_left h
    exact Binary64.beq_symm h
  | .arr _, _, h => by
    obtain ⟨_, rfl, h⟩ := same_arr_left h
    exact sameItems_symm h
  | .obj _, _, h => by
    obtain ⟨_, rfl, h⟩ := same_obj_left h
    exact sameFields_symm h

theorem sameItems_symm : ∀ {xs ys : List Document}, sameItems xs ys = true → sameItems ys xs = true
  | [], [], _ => rfl
  | _ :: _, _ :: _, h => by
    simp only [sameItems, Bool.and_eq_true] at h ⊢
    exact ⟨same_symm h.1, sameItems_symm h.2⟩
  | [], _ :: _, h | _ :: _, [], h => by simp [sameItems] at h

theorem sameFields_symm :
    ∀ {xs ys : List (String × Document)}, sameFields xs ys = true → sameFields ys xs = true
  | [], [], _ => rfl
  | (_, _) :: _, (_, _) :: _, h => by
    simp only [sameFields, Bool.and_eq_true, beq_iff_eq] at h ⊢
    exact ⟨⟨h.1.1.symm, same_symm h.1.2⟩, sameFields_symm h.2⟩
  | [], _ :: _, h | _ :: _, [], h => by simp [sameFields] at h

end

mutual

theorem same_trans : ∀ {x y z : Document}, same x y = true → same y z = true → same x z = true
  | .null, _, _, h1, h2 => by
    obtain rfl := same_null_left h1
    obtain rfl := same_null_left h2
    exact h1
  | .bool _, _, _, h1, h2 => by
    obtain rfl := same_bool_left h1
    obtain rfl := same_bool_left h2
    exact h1
  | .int _, _, _, h1, h2 => by
    obtain rfl := same_int_left h1
    obtain rfl := same_int_left h2
    exact h1
  | .str _, _, _, h1, h2 => by
    obtain rfl := same_str_left h1
    obtain rfl := same_str_left h2
    exact h1
  | .float _, _, _, h1, h2 => by
    obtain ⟨_, rfl, h1⟩ := same_float_left h1
    obtain ⟨_, rfl, h2⟩ := same_float_left h2
    exact Binary64.beq_trans h1 h2
  | .arr _, _, _, h1, h2 => by
    obtain ⟨_, rfl, h1⟩ := same_arr_left h1
    obtain ⟨_, rfl, h2⟩ := same_arr_left h2
    exact sameItems_trans h1 h2
  | .obj _, _, _, h1, h2 => by
    obtain ⟨_, rfl, h1⟩ := same_obj_left h1
    obtain ⟨_, rfl, h2⟩ := same_obj_left h2
    exact sameFields_trans h1 h2

theorem sameItems_trans : ∀ {xs ys zs : List Document},
    sameItems xs ys = true → sameItems ys zs = true → sameItems xs zs = true
  | [], [], [], _, _ => rfl
  | _ :: _, _ :: _, _ :: _, h1, h2 => by
    simp only [sameItems, Bool.and_eq_true] at h1 h2 ⊢
    exact ⟨same_trans h1.1 h2.1, sameItems_trans h1.2 h2.2⟩
  | [], _ :: _, _, h1, _ | _ :: _, [], _, h1, _ => by simp [sameItems] at h1
  | _, [], _ :: _, _, h2 | _, _ :: _, [], _, h2 => by simp [sameItems] at h2

theorem sameFields_trans : ∀ {xs ys zs : List (String × Document)},
    sameFields xs ys = true → sameFields ys zs = true → sameFields xs zs = true
  | [], [], [], _, _ => rfl
  | (_, _) :: _, (_, _) :: _, (_, _) :: _, h1, h2 => by
    simp only [sameFields, Bool.and_eq_true, beq_iff_eq] at h1 h2 ⊢
    exact ⟨⟨h1.1.1.trans h2.1.1, same_trans h1.1.2 h2.1.2⟩, sameFields_trans h1.2 h2.2⟩
  | [], _ :: _, _, h1, _ | _ :: _, [], _, h1, _ => by simp [sameFields] at h1
  | _, [], _ :: _, _, h2 | _, _ :: _, [], _, h2 => by simp [sameFields] at h2

end

/-- Equal documents are equal to the same documents. -/
theorem same_congr_left {t t' : Document} (d : Document) (h : same t t' = true) :
    same t d = same t' d :=
  Bool.eq_iff_iff.2 ⟨fun htd => same_trans (same_symm h) htd, fun htd => same_trans h htd⟩

/-! ## Templates -/

mutual

/-- Equal templates ask a document for the same things. -/
theorem contains_congr (d : Document) : ∀ {t t' : Document}, same t t' = true →
    contains d t = contains d t'
  | .obj _, _, h => by
    obtain ⟨_, rfl, h⟩ := same_obj_left h
    cases d <;> simp only [contains]
    exact containsFields_congr _ h
  | .arr _, _, h => by
    obtain ⟨_, rfl, h⟩ := same_arr_left h
    cases d <;> simp only [contains]
    rw [sameItems_length h, containsItems_congr _ h]
  | .float a, _, h => by
    obtain ⟨b, rfl, hab⟩ := same_float_left h
    have ha : (Document.float a).asF64? = some a := rfl
    have hb : (Document.float b).asF64? = some b := rfl
    cases hd : d.asF64? <;>
      simp [contains, sameNumber, ha, hb, hd, same_congr_left d h, Binary64.beq_congr_right _ hab]
  | .null, t', h | .bool _, t', h | .int _, t', h | .str _, t', h => by
    cases t' <;> simp_all [same]

theorem containsFields_congr (fs : List (String × Document)) :
    ∀ {ts ts' : List (String × Document)}, sameFields ts ts' = true →
      containsFields fs ts = containsFields fs ts'
  | [], [], _ => rfl
  | (k, _) :: _, (k', _) :: _, h => by
    simp only [sameFields, Bool.and_eq_true, beq_iff_eq] at h
    obtain ⟨⟨rfl, hv⟩, hrest⟩ := h
    simp only [containsFields]
    rw [containsFields_congr fs hrest]
    cases fs.lookup k <;> simp only [contains_congr _ hv]
  | [], _ :: _, h | _ :: _, [], h => by simp [sameFields] at h

theorem containsItems_congr : ∀ (xs : List Document) {ts ts' : List Document},
    sameItems ts ts' = true → containsItems xs ts = containsItems xs ts'
  | [], [], [], _ | [], _ :: _, _ :: _, _ => rfl
  | _ :: _, [], [], _ => rfl
  | x :: xs, _ :: _, _ :: _, h => by
    simp only [sameItems, Bool.and_eq_true] at h
    simp only [containsItems]
    rw [contains_congr x h.1, containsItems_congr xs h.2]
  | _, [], _ :: _, h | _, _ :: _, [], h => by simp [sameItems] at h

end

/-! ## Normal documents -/

mutual

/-- Whether every mapping in a document holds its keys in strictly increasing
order, as the mappings of the data format do. -/
def isNormal : Document → Bool
  | .arr xs => itemsNormal xs
  | .obj fs => decide ((fs.map (·.1)).Pairwise (· < ·)) && fieldsNormal fs
  | _ => true

def itemsNormal : List Document → Bool
  | [] => true
  | x :: xs => isNormal x && itemsNormal xs

def fieldsNormal : List (String × Document) → Bool
  | [] => true
  | (_, x) :: xs => isNormal x && fieldsNormal xs

end

theorem isNormal_obj {fs : List (String × Document)} :
    (Document.obj fs).isNormal = true ↔
      (fs.map (·.1)).Pairwise (· < ·) ∧ fieldsNormal fs = true := by
  simp [isNormal]

theorem isNormal_of_mem_fields {fs : List (String × Document)} {k : String} {x : Document}
    (hfs : fieldsNormal fs = true) (hmem : (k, x) ∈ fs) : x.isNormal = true := by
  induction fs with
  | nil => cases hmem
  | cons e fs ih =>
    obtain ⟨k', x'⟩ := e
    simp only [fieldsNormal, Bool.and_eq_true] at hfs
    rcases List.mem_cons.1 hmem with h | h
    · cases h
      exact hfs.1
    · exact ih hfs.2 h

/-! ## Keys of entry lists -/

theorem mem_of_lookup_eq_some {fs : List (String × Document)} {k : String} {x : Document}
    (h : fs.lookup k = some x) : (k, x) ∈ fs := by
  obtain ⟨l₁, l₂, rfl, -⟩ := List.lookup_eq_some_iff.1 h
  simp

theorem lookup_eq_some_of_mem {fs : List (String × Document)} {k : String} {x : Document}
    (hnd : (fs.map (·.1)).Nodup) (h : (k, x) ∈ fs) : fs.lookup k = some x := by
  induction fs with
  | nil => cases h
  | cons e fs ih =>
    obtain ⟨k', x'⟩ := e
    simp only [List.map_cons, List.nodup_cons, List.mem_map] at hnd
    rcases List.mem_cons.1 h with he | he
    · cases he
      simp
    · have hne : k ≠ k' := fun hk => hnd.1 ⟨(k, x), he, hk⟩
      rw [List.lookup_cons, beq_false_of_ne hne]
      exact ih hnd.2 he

theorem lookup_isSome_iff_mem_keys {fs : List (String × Document)} {k : String} :
    (fs.lookup k).isSome ↔ k ∈ fs.map (·.1) := by
  simp only [List.lookup_isSome_iff, beq_iff_eq, List.mem_map]
  exact ⟨fun ⟨p, hp, he⟩ => ⟨p, hp, he.symm⟩, fun ⟨p, hp, he⟩ => ⟨p, hp, he.symm⟩⟩

/-! ## Changes under one key -/

/-- The changes of two documents that are not both mappings: none if they are
equal, else one change of the whole. -/
theorem diff_of_not_obj {x y : Document} (h : ¬(x.isObj ∧ y.isObj)) :
    diff x y = if same x y then [] else [⟨[], some x, some y⟩] := by
  cases x <;> cases y <;> simp_all [diff, isObj]

theorem diff_obj (xs ys : List (String × Document)) :
    diff (.obj xs) (.obj ys) =
      diffFields ys xs ++
        (ys.filter (fun (k, _) => (xs.lookup k).isNone)).map (fun (k, y) => ⟨[k], none, some y⟩) := by
  simp [diff]

theorem within_mem_diffFields {ys xs : List (String × Document)} {k : String} {x y : Document}
    {c : Change} (hx : (k, x) ∈ xs) (hy : ys.lookup k = some y) (hc : c ∈ diff x y) :
    c.within k ∈ diffFields ys xs := by
  induction xs with
  | nil => cases hx
  | cons e xs ih =>
    obtain ⟨k', x'⟩ := e
    rw [diffFields, List.mem_append]
    rcases List.mem_cons.1 hx with he | he
    · cases he
      left
      rw [hy]
      exact List.mem_map_of_mem hc
    · exact .inr (ih he)

theorem removal_mem_diffFields {ys xs : List (String × Document)} {k : String} {x : Document}
    (hx : (k, x) ∈ xs) (hy : ys.lookup k = none) : ⟨[k], some x, none⟩ ∈ diffFields ys xs := by
  induction xs with
  | nil => cases hx
  | cons e xs ih =>
    obtain ⟨k', x'⟩ := e
    rw [diffFields, List.mem_append]
    rcases List.mem_cons.1 hx with he | he
    · cases he
      left
      rw [hy]
      exact List.mem_singleton_self _
    · exact .inr (ih he)

/-- Every change from `x` to `y` satisfies `P`. -/
def DiffAll (P : Change → Prop) (x y : Document) : Prop := ∀ c ∈ diff x y, P c

section DiffAll

variable {P : Change → Prop} {xs ys : List (String × Document)} {k : String} {x y : Document}

/-- Under a key both mappings hold, the changes are those of the two values,
one key down. -/
theorem DiffAll.atKey (h : DiffAll P (.obj xs) (.obj ys)) (hx : xs.lookup k = some x)
    (hy : ys.lookup k = some y) : DiffAll (fun c => P (c.within k)) x y := by
  intro c hc
  apply h
  rw [diff_obj]
  exact List.mem_append_left _ (within_mem_diffFields (mem_of_lookup_eq_some hx) hy hc)

/-- A key only the old mapping holds is one removal. -/
theorem DiffAll.removal (h : DiffAll P (.obj xs) (.obj ys)) (hx : xs.lookup k = some x)
    (hy : ys.lookup k = none) : P ⟨[k], some x, none⟩ := by
  apply h
  rw [diff_obj]
  exact List.mem_append_left _ (removal_mem_diffFields (mem_of_lookup_eq_some hx) hy)

/-- A key only the new mapping holds is one addition. -/
theorem DiffAll.addition (h : DiffAll P (.obj xs) (.obj ys)) (hx : xs.lookup k = none)
    (hy : ys.lookup k = some y) : P ⟨[k], none, some y⟩ := by
  apply h
  rw [diff_obj]
  refine List.mem_append_right _ (List.mem_map.2 ⟨(k, y), ?_, rfl⟩)
  simp [mem_of_lookup_eq_some hy, hx]

/-- Two documents that are not both mappings, and whose change as a whole is
refused, are equal. -/
theorem DiffAll.same_of_root (h : DiffAll P x y) (hobj : ¬(x.isObj ∧ y.isObj))
    (hroot : ¬P ⟨[], some x, some y⟩) : same x y = true := by
  rw [DiffAll, diff_of_not_obj hobj] at h
  by_contra hs
  simp only [hs, if_false, List.mem_singleton, forall_eq] at h
  exact hroot h

end DiffAll

/-! ## No change means equal -/

theorem diff_eq_nil_of_diffAll {x y : Document} (h : DiffAll (fun _ => False) x y) :
    diff x y = [] :=
  List.eq_nil_iff_forall_not_mem.2 h

mutual

/-- Between normal documents, `diff` finds no change only when they are equal. -/
theorem same_of_diff_eq_nil : ∀ {x y : Document},
    x.isNormal = true → y.isNormal = true → diff x y = [] → same x y = true
  | .obj xs, .obj ys, hx, hy, h => by
    rw [isNormal_obj] at hx hy
    have hall : DiffAll (fun _ => False) (.obj xs) (.obj ys) := by
      intro c hc
      rw [h] at hc
      cases hc
    -- every key of one mapping is a key of the other, so the sorted key lists agree
    have hkeys : xs.map (·.1) = ys.map (·.1) := by
      refine hx.1.eq_of_mem_iff hy.1 fun k => ?_
      rw [← lookup_isSome_iff_mem_keys, ← lookup_isSome_iff_mem_keys]
      cases hxk : xs.lookup k <;> cases hyk : ys.lookup k
      · simp
      · exact (hall.addition hxk hyk).elim
      · exact (hall.removal hxk hyk).elim
      · simp
    exact sameFields_of_diff_eq_nil hkeys (List.Pairwise.nodup hx.1) hx.2 hy.2 fun k x hmem => by
      have hyk : (ys.lookup k).isSome := by
        rw [lookup_isSome_iff_mem_keys, ← hkeys]
        exact List.mem_map_of_mem (f := (·.1)) hmem
      obtain ⟨y, hyk⟩ := Option.isSome_iff_exists.1 hyk
      exact ⟨y, hyk, diff_eq_nil_of_diffAll
        (hall.atKey (lookup_eq_some_of_mem (List.Pairwise.nodup hx.1) hmem) hyk)⟩
  | .null, _, _, _, h | .bool _, _, _, _, h | .int _, _, _, _, h | .float _, _, _, _, h
  | .str _, _, _, _, h | .arr _, _, _, _, h => by
    rw [diff_of_not_obj (by simp [isObj])] at h
    by_contra hs
    simp [hs] at h
  | .obj _, .null, _, _, h | .obj _, .bool _, _, _, h | .obj _, .int _, _, _, h
  | .obj _, .float _, _, _, h | .obj _, .str _, _, _, h | .obj _, .arr _, _, _, h => by
    rw [diff_of_not_obj (by simp [isObj])] at h
    by_contra hs
    simp [hs] at h

theorem sameFields_of_diff_eq_nil : ∀ {xs ys : List (String × Document)},
    xs.map (·.1) = ys.map (·.1) → (xs.map (·.1)).Nodup →
    fieldsNormal xs = true → fieldsNormal ys = true →
    (∀ k x, (k, x) ∈ xs → ∃ y, ys.lookup k = some y ∧ diff x y = []) →
    sameFields xs ys = true
  | [], [], _, _, _, _, _ => rfl
  | (k, x) :: xs, (k', y) :: ys, hkeys, hnd, hnx, hny, h => by
    simp only [List.map_cons, List.cons.injEq] at hkeys
    obtain ⟨rfl, hkeys⟩ := hkeys
    simp only [List.map_cons, List.nodup_cons, List.mem_map] at hnd
    simp only [fieldsNormal, Bool.and_eq_true] at hnx hny
    obtain ⟨y', hy', hxy⟩ := h k x List.mem_cons_self
    simp only [List.lookup_cons_self, Option.some.injEq] at hy'
    subst hy'
    simp only [sameFields, beq_self_eq_true, Bool.true_and, Bool.and_eq_true]
    refine ⟨same_of_diff_eq_nil hnx.1 hny.1 hxy,
      sameFields_of_diff_eq_nil hkeys hnd.2 hnx.2 hny.2 fun k₂ x₂ hmem => ?_⟩
    -- a later key differs from the first one, so its lookup skips the head
    have hne : k₂ ≠ k := fun he => hnd.1 ⟨(k₂, x₂), hmem, he⟩
    obtain ⟨y₂, hy₂, hd⟩ := h k₂ x₂ (List.mem_cons_of_mem _ hmem)
    refine ⟨y₂, ?_, hd⟩
    rwa [List.lookup_cons, beq_false_of_ne hne] at hy₂
  | [], _ :: _, hkeys, _, _, _, _ | _ :: _, [], hkeys, _, _, _, _ => by simp at hkeys

end

/-! ## Revisions -/

/-- `y` is a revision of `x`, both documents of the data format, in which every
change satisfies `P`. -/
structure Revised (P : Change → Prop) (x y : Document) : Prop where
  changes : DiffAll P x y
  normal : x.isNormal = true
  normal' : y.isNormal = true

section Revised

variable {P : Change → Prop} {xs ys : List (String × Document)} {k : String} {x y : Document}

/-- One key down, a revision of two mappings is a revision of the values. -/
theorem Revised.atKey (h : Revised P (.obj xs) (.obj ys)) (hx : xs.lookup k = some x)
    (hy : ys.lookup k = some y) : Revised (fun c => P (c.within k)) x y :=
  ⟨h.changes.atKey hx hy,
    isNormal_of_mem_fields (isNormal_obj.1 h.normal).2 (mem_of_lookup_eq_some hx),
    isNormal_of_mem_fields (isNormal_obj.1 h.normal').2 (mem_of_lookup_eq_some hy)⟩

/-- A revision that allows no change is no change. -/
theorem Revised.same_of_frozen (h : Revised P x y) (hP : ∀ c, ¬P c) : same x y = true :=
  same_of_diff_eq_nil h.normal h.normal' (List.eq_nil_iff_forall_not_mem.2 fun c hc =>
    hP c (h.changes c hc))

/-- The entries of a key under which no change is allowed are the same in both
mappings. -/
theorem Revised.lookup_of_frozen (h : Revised P (.obj xs) (.obj ys))
    (hk : ∀ c : Change, ¬P (c.within k)) :
    (xs.lookup k = none ∧ ys.lookup k = none) ∨
      ∃ x y, xs.lookup k = some x ∧ ys.lookup k = some y ∧ same x y = true := by
  cases hx : xs.lookup k with
  | none =>
    cases hy : ys.lookup k with
    | none => exact .inl ⟨rfl, rfl⟩
    | some y => exact (hk ⟨[], none, some y⟩ (h.changes.addition hx hy)).elim
  | some x =>
    cases hy : ys.lookup k with
    | none => exact (hk ⟨[], some x, none⟩ (h.changes.removal hx hy)).elim
    | some y => exact .inr ⟨x, y, rfl, rfl, (h.atKey hx hy).same_of_frozen hk⟩

theorem lookup_filter_keys {K : List String} (hk : k ∈ K) :
    (xs.filter fun e => K.contains e.1).lookup k = xs.lookup k := by
  induction xs with
  | nil => rfl
  | cons e xs ih =>
    obtain ⟨k', x'⟩ := e
    by_cases he : k = k'
    · subst he
      simp [hk]
    · rw [List.filter_cons]
      split
      · rw [List.lookup_cons, List.lookup_cons, beq_false_of_ne he]
        exact ih
      · rw [List.lookup_cons, beq_false_of_ne he]
        exact ih

/-- The entries of keys under which no change is allowed are the same in both
mappings, entry by entry. -/
theorem Revised.sameFields_filter (h : Revised P (.obj xs) (.obj ys)) {K : List String}
    (hK : ∀ m ∈ K, ∀ c : Change, ¬P (c.within m)) :
    sameFields (xs.filter fun e => K.contains e.1) (ys.filter fun e => K.contains e.1) = true := by
  obtain ⟨hxs, hxn⟩ := isNormal_obj.1 h.normal
  obtain ⟨hys, hyn⟩ := isNormal_obj.1 h.normal'
  have hsorted : ∀ {zs : List (String × Document)}, (zs.map (·.1)).Pairwise (· < ·) →
      ((zs.filter fun e => K.contains e.1).map (·.1)).Pairwise (· < ·) := fun hz =>
    hz.sublist (List.Sublist.map _ List.filter_sublist)
  have hnormal : ∀ {zs : List (String × Document)}, fieldsNormal zs = true →
      fieldsNormal (zs.filter fun e => K.contains e.1) = true := by
    intro zs hz
    induction zs with
    | nil => rfl
    | cons e zs ih =>
      obtain ⟨k', z⟩ := e
      simp only [fieldsNormal, Bool.and_eq_true] at hz
      rw [List.filter_cons]
      split
      · simp only [fieldsNormal, hz.1, ih hz.2, Bool.and_self]
      · exact ih hz.2
  -- a key of either filtered list is a key of `K` present in both mappings
  have hmem : ∀ m, m ∈ (xs.filter fun e => K.contains e.1).map (·.1) ↔
      m ∈ (ys.filter fun e => K.contains e.1).map (·.1) := by
    intro m
    by_cases hm : m ∈ K
    · rw [← lookup_isSome_iff_mem_keys, ← lookup_isSome_iff_mem_keys, lookup_filter_keys hm,
        lookup_filter_keys hm]
      rcases h.lookup_of_frozen (hK m hm) with ⟨hx, hy⟩ | ⟨x, y, hx, hy, -⟩ <;> simp [hx, hy]
    · simp [hm]
  refine sameFields_of_diff_eq_nil ((hsorted hxs).eq_of_mem_iff (hsorted hys) hmem)
    (hsorted hxs).nodup (hnormal hxn) (hnormal hyn) fun m x hmx => ?_
  have hm : m ∈ K := by simpa using (List.mem_filter.1 hmx).2
  have hx : xs.lookup m = some x := by
    rw [← lookup_filter_keys hm]
    exact lookup_eq_some_of_mem (hsorted hxs).nodup hmx
  rcases h.lookup_of_frozen (hK m hm) with ⟨hx', -⟩ | ⟨x', y, hx', hy, -⟩
  · rw [hx] at hx'
    cases hx'
  · rw [hx] at hx'
    cases hx'
    refine ⟨y, by rw [lookup_filter_keys hm, hy], ?_⟩
    exact List.eq_nil_iff_forall_not_mem.2 fun c hc => hK m hm c ((h.atKey hx hy).changes c hc)

/-- Two entry lists with the same keys in the same order are related entry by
entry by any relation that holds between entries under one key. -/
theorem forall₂_of_keys_eq {β γ : Type} {R : String → β → γ → Prop} :
    ∀ {l : List (String × β)} {l' : List (String × γ)}, l.map (·.1) = l'.map (·.1) →
      (∀ k b c, (k, b) ∈ l → (k, c) ∈ l' → R k b c) →
      List.Forall₂ (fun e e' => e.1 = e'.1 ∧ R e.1 e.2 e'.2) l l'
  | [], [], _, _ => .nil
  | (k, b) :: l, (k', c) :: l', hkeys, hR => by
    simp only [List.map_cons, List.cons.injEq] at hkeys
    obtain ⟨rfl, hkeys⟩ := hkeys
    refine .cons ⟨rfl, hR k b c List.mem_cons_self List.mem_cons_self⟩ ?_
    exact forall₂_of_keys_eq hkeys fun k b c hb hc =>
      hR k b c (List.mem_cons_of_mem _ hb) (List.mem_cons_of_mem _ hc)

/-- Where a revision removes no key, the new mapping's entries under the old
keys come in the old order, and each revises the old entry under its key. -/
theorem Revised.kept (h : Revised P (.obj xs) (.obj ys))
    (hrem : ∀ k x, ¬P ⟨[k], some x, none⟩) :
    List.Forall₂ (fun e e' => e.1 = e'.1 ∧ Revised (fun c => P (c.within e.1)) e.2 e'.2) xs
      (ys.filter fun e => (xs.map (·.1)).contains e.1) := by
  obtain ⟨hxs, -⟩ := isNormal_obj.1 h.normal
  obtain ⟨hys, -⟩ := isNormal_obj.1 h.normal'
  have hsorted : ((ys.filter fun e => (xs.map (·.1)).contains e.1).map (·.1)).Pairwise (· < ·) :=
    hys.sublist (List.Sublist.map _ List.filter_sublist)
  -- no old key is removed, so the new keys among the old ones are the old keys
  have hkeys : (ys.filter fun e => (xs.map (·.1)).contains e.1).map (·.1) = xs.map (·.1) := by
    refine hsorted.eq_of_mem_iff hxs fun m => ⟨fun hm => ?_, fun hm => ?_⟩
    · obtain ⟨e, he, rfl⟩ := List.mem_map.1 hm
      simpa using (List.mem_filter.1 he).2
    · obtain ⟨x, hx⟩ := Option.isSome_iff_exists.1 (lookup_isSome_iff_mem_keys.2 hm)
      cases hy : ys.lookup m with
      | none => exact (hrem m x (h.changes.removal hx hy)).elim
      | some y =>
        exact List.mem_map.2 ⟨(m, y), List.mem_filter.2 ⟨mem_of_lookup_eq_some hy, by simpa using hm⟩,
          rfl⟩
  refine forall₂_of_keys_eq (R := fun k x y => Revised (fun c => P (c.within k)) x y) hkeys.symm
    fun k x y hx hy => h.atKey ?_ ?_
  · exact lookup_eq_some_of_mem hxs.nodup hx
  · exact lookup_eq_some_of_mem hys.nodup (List.mem_filter.1 hy).1

end Revised

end Document
end Geocube
