import Geocube.Proofs.Document.Same

/-!
Mappings built from pairs.

`Document.setField` inserts an entry into a list kept in key order, replacing
the entry of the same key, and `Document.ofPairs` builds a mapping by setting
its pairs one after another. So the keys of a mapping built from pairs are
strictly increasing, whatever the pairs (`sorted_sortFields`); under each key
it holds the last pair of that key (`lookup_sortFields`); and pairs already in
strictly increasing key order are kept as they are (`sortFields_of_sorted`).
-/

namespace Geocube
namespace Document

/-- Keys of an entry list, in order. -/
abbrev keys (fs : List (String × Document)) : List String := fs.map (·.1)

/-! ## Setting one entry -/

theorem lookup_setField_self (k : String) (v : Document) (fs : List (String × Document)) :
    (setField k v fs).lookup k = some v := by
  induction fs with
  | nil => simp [setField]
  | cons e fs ih =>
    obtain ⟨k', v'⟩ := e
    simp only [setField]
    split_ifs with h₁ h₂
    · simp
    · simp
    · simp only [beq_iff_eq] at h₂
      simp [List.lookup_cons, beq_false_of_ne h₂, ih]

theorem lookup_setField_of_ne {k k' : String} (h : k' ≠ k) (v : Document)
    (fs : List (String × Document)) : (setField k v fs).lookup k' = fs.lookup k' := by
  induction fs with
  | nil => simp [setField, h]
  | cons e fs ih =>
    obtain ⟨k₁, v₁⟩ := e
    simp only [setField]
    split_ifs with h₁ h₂
    · simp [List.lookup_cons, beq_false_of_ne h]
    · simp only [beq_iff_eq] at h₂
      subst h₂
      simp [List.lookup_cons, beq_false_of_ne h]
    · simp [List.lookup_cons, ih]

/-- Setting an entry adds at most its own key. -/
theorem mem_keys_setField {k x : String} {v : Document} {fs : List (String × Document)}
    (h : x ∈ keys (setField k v fs)) : x = k ∨ x ∈ keys fs := by
  induction fs with
  | nil => simpa [setField] using h
  | cons e fs ih =>
    obtain ⟨k', v'⟩ := e
    simp only [setField] at h
    split_ifs at h with h₁ h₂
    · simpa using h
    · simp only [keys, List.map_cons, List.mem_cons] at h ⊢
      rcases h with h | h
      · exact .inl h
      · exact .inr (.inr h)
    · simp only [keys, List.map_cons, List.mem_cons] at h ⊢
      rcases h with h | h
      · exact .inr (.inl h)
      · rcases ih h with h' | h'
        · exact .inl h'
        · exact .inr (.inr h')

/-- Setting an entry keeps the keys strictly increasing. -/
theorem sorted_setField {k : String} {v : Document} {fs : List (String × Document)}
    (h : (keys fs).Pairwise (· < ·)) : (keys (setField k v fs)).Pairwise (· < ·) := by
  induction fs with
  | nil => simp [setField]
  | cons e fs ih =>
    obtain ⟨k', v'⟩ := e
    simp only [keys, List.map_cons, List.pairwise_cons] at h
    simp only [setField]
    split_ifs with h₁ h₂
    · -- the new key goes in front of a larger one
      simp only [keys, List.map_cons, List.pairwise_cons, List.mem_cons]
      refine ⟨?_, h.1, h.2⟩
      rintro x (rfl | hx)
      · exact h₁
      · exact String.lt_trans h₁ (h.1 x hx)
    · -- the entry of the same key is replaced
      simp only [beq_iff_eq] at h₂
      subst h₂
      simpa [keys] using h
    · -- the new key belongs further on
      have hlt : k' < k := by
        rcases String.le_total k k' with hle | hle
        · exact absurd (String.le_antisymm hle (String.not_lt.1 h₁)) (by simpa using h₂)
        · exact lt_of_le_of_ne hle fun he => h₂ (by simp [he])
      simp only [keys, List.map_cons, List.pairwise_cons]
      refine ⟨fun x hx => ?_, ih h.2⟩
      rcases mem_keys_setField hx with rfl | hx
      · exact hlt
      · exact h.1 x hx

/-! ## Mappings from pairs -/

theorem sorted_foldl_setField (kvs : List (String × Document)) :
    ∀ {acc : List (String × Document)}, (keys acc).Pairwise (· < ·) →
      (keys (kvs.foldl (fun acc (k, v) => setField k v acc) acc)).Pairwise (· < ·) := by
  induction kvs with
  | nil => exact id
  | cons e kvs ih => exact fun h => ih (sorted_setField h)

/-- A mapping built from pairs holds its keys in strictly increasing order. -/
theorem sorted_sortFields (kvs : List (String × Document)) :
    (keys (sortFields kvs)).Pairwise (· < ·) :=
  sorted_foldl_setField kvs List.Pairwise.nil

theorem nodup_sortFields (kvs : List (String × Document)) : (keys (sortFields kvs)).Nodup :=
  (sorted_sortFields kvs).imp fun h => String.ne_of_lt h

theorem lookup_foldl_setField (k : String) (kvs : List (String × Document)) :
    ∀ acc : List (String × Document),
      (kvs.foldl (fun acc (k, v) => setField k v acc) acc).lookup k =
        (kvs.reverse.lookup k).or (acc.lookup k) := by
  induction kvs with
  | nil => simp
  | cons e kvs ih =>
    obtain ⟨k', v'⟩ := e
    intro acc
    rw [List.foldl_cons, ih, List.reverse_cons, List.lookup_append, Option.or_assoc]
    by_cases hk : k = k'
    · subst hk
      simp [lookup_setField_self]
    · rw [lookup_setField_of_ne hk]
      simp [List.lookup_cons, beq_false_of_ne hk]

/-- Under each key, a mapping built from pairs holds the last pair of that key. -/
@[simp] theorem lookup_sortFields (kvs : List (String × Document)) (k : String) :
    (sortFields kvs).lookup k = kvs.reverse.lookup k := by
  rw [sortFields, lookup_foldl_setField]
  simp

/-- An entry whose key is above every key of a list goes at its end. -/
theorem setField_of_lt {k : String} {v : Document} :
    ∀ {fs : List (String × Document)}, (∀ x ∈ keys fs, x < k) → setField k v fs = fs ++ [(k, v)]
  | [], _ => rfl
  | (k', v') :: fs, h => by
    have hlt : k' < k := h k' List.mem_cons_self
    rw [setField, if_neg (String.lt_asymm hlt), if_neg (by simpa using (String.ne_of_lt hlt).symm),
      setField_of_lt fun x hx => h x (List.mem_cons_of_mem k' hx)]
    rfl

/-- Pairs already in strictly increasing key order make the mapping as they are. -/
theorem sortFields_of_sorted {kvs : List (String × Document)} (h : (keys kvs).Pairwise (· < ·)) :
    sortFields kvs = kvs := by
  -- set one pair at a time onto the pairs before it, which are all below it
  suffices key : ∀ pre, (keys (pre ++ kvs)).Pairwise (· < ·) →
      kvs.foldl (fun acc (k, v) => setField k v acc) pre = pre ++ kvs from
    key [] (by simpa using h)
  clear h
  induction kvs with
  | nil => simp
  | cons e kvs ih =>
    obtain ⟨k, v⟩ := e
    intro pre hs
    have hlt : ∀ x ∈ keys pre, x < k := by
      simp only [keys, List.map_append, List.pairwise_append] at hs
      exact fun x hx => hs.2.2 x hx k List.mem_cons_self
    rw [List.foldl_cons]
    dsimp only
    rw [setField_of_lt hlt, ih (pre ++ [(k, v)]) (by simpa using hs)]
    simp

end Document
end Geocube
