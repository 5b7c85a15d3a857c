import Geocube.Proofs.Document.Pairs

/-!
Writing at a path.

`Document.write` walks a document and changes it as it goes: a `null` on the
way becomes an empty mapping, a missing key gets an empty mapping, and a value
that is neither stops the walk. The changes made before a stop stay. Three
facts make the write behave as if it were all or nothing:

* from an empty mapping, which is all the walk ever creates, it cannot stop
  (`write_empty_ok`), so a walk that stops has created nothing;
* an entry the walk enters and leaves as it was is set back to itself, which in
  a mapping with increasing keys changes nothing (`setField_of_lookup`);
* so a failed write leaves a normal document as it was (`write_unchanged_of_fail`).

A write that goes through reads back under its own path (`walk?_write_self`),
and a path that is neither a prefix of the written one nor extends it reads the
same before and after (`walk?_write_apart`). Main statement:
`write_atomic_reads_back`.
-/

namespace Geocube
namespace Document

/-! ## One step of the walk -/

theorem orEmpty_eq_obj {d : Document} {fs : List (String × Document)} (h : d.orEmpty = .obj fs) :
    (d = .null ∧ fs = []) ∨ d = .obj fs := by
  cases d <;> simp_all [orEmpty, Document.empty]

/-- A value the walk cannot enter is left as it is. -/
theorem orEmpty_eq_self {d : Document} (h : ∀ fs, d.orEmpty ≠ .obj fs) : d.orEmpty = d := by
  cases d with
  | null => exact absurd rfl (h [])
  | _ => rfl

/-- Reading below a value the walk turns into a mapping reads the mapping. -/
theorem walk?_orEmpty_cons {d : Document} {fs : List (String × Document)}
    (h : d.orEmpty = .obj fs) (k : String) (q : List String) :
    d.walk? (k :: q) = (Document.obj fs).walk? (k :: q) := by
  rcases orEmpty_eq_obj h with ⟨rfl, rfl⟩ | rfl <;> rfl

@[simp] theorem walk?_obj_cons (fs : List (String × Document)) (k : String) (q : List String) :
    (Document.obj fs).walk? (k :: q) = (fs.lookup k).bind fun c => c.walk? q := rfl

@[simp] theorem write_nil (d v : Document) : d.write [] v = (v, true) := rfl

/-- The entry the walk enters under a key of a normal mapping is normal. -/
theorem isNormal_entry {d : Document} {fs : List (String × Document)} (hd : d.isNormal = true)
    (h : d.orEmpty = .obj fs) (k : String) : ((fs.lookup k).getD empty).isNormal = true := by
  cases hk : fs.lookup k with
  | none => rfl
  | some c =>
    rcases orEmpty_eq_obj h with ⟨-, rfl⟩ | rfl
    · cases hk
    · exact isNormal_of_mem_fields (isNormal_obj.1 hd).2 (mem_of_lookup_eq_some hk)

/-! ## Writes that fail -/

/-- A write into an empty mapping always goes through: every key it meets is
missing, so it only ever enters new empty mappings. -/
theorem write_empty_ok (v : Document) : ∀ ks : List String, (empty.write ks v).2 = true
  | [] => rfl
  | [_] => rfl
  | _ :: k' :: rest => write_empty_ok v (k' :: rest)

/-- Setting an entry of a mapping with increasing keys to the value it holds
changes nothing. -/
theorem setField_of_lookup {k : String} {c : Document} :
    ∀ {fs : List (String × Document)}, (keys fs).Pairwise (· < ·) → fs.lookup k = some c →
      setField k c fs = fs
  | [], _, h => by cases h
  | (k', c') :: fs, hs, h => by
    simp only [keys, List.map_cons, List.pairwise_cons] at hs
    by_cases hk : k = k'
    · subst hk
      have hc : c' = c := by simpa using h
      simp [setField, hc]
    · have hrest : fs.lookup k = some c := by simpa [List.lookup_cons, beq_false_of_ne hk] using h
      -- `k` sits further on, so it is above `k'`
      have hlt : k' < k := hs.1 k (lookup_isSome_iff_mem_keys.1 (by simp [hrest]))
      rw [setField, if_neg (String.lt_asymm hlt), if_neg (by simpa using hk),
        setField_of_lookup hs.2 hrest]

/-- A write that fails leaves a normal document as it was. -/
theorem write_unchanged_of_fail {d v : Document} {ks : List String} (hd : d.isNormal = true)
    (h : (d.write ks v).2 = false) : (d.write ks v).1 = d := by
  fun_induction write d ks v with
  | case1 => cases h
  | case2 => cases h
  | case3 d k v hobj => exact orEmpty_eq_self fun fs => hobj fs
  | case4 d k k' rest v fs hfs c ok hchild ih =>
    subst h
    have hc : c = (fs.lookup k).getD empty := by
      rw [← ih (isNormal_entry hd hfs k) (by rw [hchild]), hchild]
    cases hk : fs.lookup k with
    | none =>
      -- a missing entry would have been created empty, and the write would have gone through
      have hok := write_empty_ok v (k' :: rest)
      rw [hk, Option.getD_none] at hchild
      rw [hchild] at hok
      cases hok
    | some c₀ =>
      rcases orEmpty_eq_obj hfs with ⟨-, rfl⟩ | rfl
      · cases hk
      · rw [hc, hk, Option.getD_some, setField_of_lookup (isNormal_obj.1 hd).1 hk]
  | case5 d k k' rest v hobj => exact orEmpty_eq_self fun fs => hobj fs

/-! ## Writes that go through -/

/-- A write that goes through puts the value under its path. -/
theorem walk?_write_self {d v : Document} {ks : List String} (h : (d.write ks v).2 = true) :
    (d.write ks v).1.walk? ks = some v := by
  fun_induction write d ks v with
  | case1 => rfl
  | case2 d k v fs => simp [walk?, child?, lookup_setField_self]
  | case3 => cases h
  | case4 d k k' rest v fs hfs c ok hchild ih =>
    simp only at h ⊢
    rw [hchild] at ih
    simpa [lookup_setField_self] using ih h
  | case5 => cases h

/-- A write that goes through leaves every path apart from its own as it was:
one that is neither a prefix of the written path nor extends it leaves the
written path at some key, where the walk changed nothing. -/
theorem walk?_write_apart {d v : Document} {ks q : List String} (h : (d.write ks v).2 = true)
    (hq : ¬q <+: ks) (hks : ¬ks <+: q) : (d.write ks v).1.walk? q = d.walk? q := by
  fun_induction write d ks v generalizing q with
  | case1 => exact absurd q.nil_prefix hks
  | case2 d k v fs hfs =>
    match q with
    | [] => exact absurd (List.nil_prefix) hq
    | k₂ :: q =>
      have hne : k₂ ≠ k := fun he => hks (by simp [he])
      simp [walk?_orEmpty_cons hfs, lookup_setField_of_ne hne]
  | case3 => cases h
  | case4 d k k' rest v fs hfs c ok hchild ih =>
    simp only at h ⊢
    match q with
    | [] => exact absurd (List.nil_prefix) hq
    | k₂ :: q =>
      rw [walk?_orEmpty_cons hfs]
      by_cases hne : k₂ = k
      · subst hne
        simp only [List.cons_prefix_cons, true_and] at hq hks
        rw [hchild] at ih
        rw [walk?_obj_cons, lookup_setField_self, Option.bind_some, ih h hq hks, walk?_obj_cons]
        cases hk : fs.lookup k₂ with
        | some c₀ => rfl
        | none =>
          -- the entry was created empty; below it only the written path exists
          match q with
          | [] => exact absurd (by simp) hq
          | _ :: _ => rfl
      · simp [lookup_setField_of_ne hne]
  | case5 => cases h

theorem find?_eq_of_walk? {d d' : Document} {q : Path} (h : d.walk? q.keys = d'.walk? q.keys) :
    d.find? q = d'.find? q := by
  simp only [find?, h]

/-- Writing a value at a path is all or nothing and agrees with reading. A
write into a normal document (every mapping holding its keys once, in order,
as the data format keeps them) that fails leaves it as it was. A write that
goes through reads back under its path, as nothing when the value is `null`,
and every path that is neither a prefix of the written one nor extends it reads
as before. The empty path replaces the whole document. -/
theorem write_atomic_reads_back (d v : Document) (p : Path) (hd : d.isNormal = true) :
    ((d.write p.keys v).2 = false → (d.write p.keys v).1 = d) ∧
    ((d.write p.keys v).2 = true →
      (d.write p.keys v).1.find? p = (if v.isNull then none else some v) ∧
      ∀ q : Path, ¬q.keys <+: p.keys → ¬p.keys <+: q.keys →
        (d.write p.keys v).1.find? q = d.find? q) ∧
    d.write [] v = (v, true) := by
  refine ⟨write_unchanged_of_fail hd, fun h => ⟨?_, fun q hq hp => ?_⟩, rfl⟩
  · have hself := walk?_write_self h
    cases v <;> simp [find?, hself, isNull]
  · exact find?_eq_of_walk? (walk?_write_apart h hq hp)

/-- A write stopped by a number part-way down a path leaves the document as it
was, although the walk's first step entered an existing mapping. -/
theorem blocked_write_keeps_document :
    (Document.obj [("a", .obj [("b", .int 1)])]).isNormal = true ∧
    ((Document.obj [("a", .obj [("b", .int 1)])]).write ["a", "b", "c"] (.int 2)).2 = false ∧
    ((Document.obj [("a", .obj [("b", .int 1)])]).write ["a", "b", "c"] (.int 2)).1 =
      .obj [("a", .obj [("b", .int 1)])] :=
  have hd : (Document.obj [("a", .obj [("b", .int 1)])]).isNormal = true := by decide
  have hfail : ((Document.obj [("a", .obj [("b", .int 1)])]).write ["a", "b", "c"] (.int 2)).2 =
      false := by decide
  ⟨hd, hfail, (write_atomic_reads_back _ (.int 2) ⟨["a", "b", "c"]⟩ hd).1 hfail⟩

end Document
end Geocube
