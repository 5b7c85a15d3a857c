import Geocube.Catalog.Search
import Geocube.Proofs.Binary64.Order
import Geocube.Proofs.Time.Order
import Mathlib.Data.String.Basic

/-!
# The order of search results

`SearchPlan.finish` orders the datasets a search found by the key of the
ordering field, with `insertionSort` and the relation "strictly before" of
`sortKeyBefore`, then keeps the first `limit` of them.

Whatever the relation, the insertion sort rearranges its input and keeps two
elements in their input order unless the second is strictly before the first
(`insertionSort_perm`, `insertionSort_stable`). When the relation is a strict
weak order on the elements (`StrictWeakOn`), no element of the output is
strictly before one ahead of it (`insertionSort_pairwise`).

Keys are a strict weak order as long as no number key is NaN: NaN is before
nothing and nothing is before it, so it ties with `1` and with `2` while `1` is
before `2`. With such keys, the output depends on where the NaN stands in the
input (`SearchPlan.nan_key_breaks_order`).
-/

namespace Geocube

open scoped List

/-- `lt` is a strict weak order on the elements that satisfy `s`: it holds one
way at most, and an element lies above the lower or below the upper of two
elements in order. -/
structure StrictWeakOn {α : Type} (lt : α → α → Bool) (s : α → Prop) : Prop where
  asymm : ∀ {a b}, s a → s b → lt a b = true → lt b a = false
  split : ∀ {a b c}, s a → s b → s c → lt a c = true → lt a b = true ∨ lt b c = true

section InsertionSort

variable {α : Type} {lt : α → α → Bool}

/-- The sorted list is built backwards, by inserting each element in turn. -/
theorem insertionSort_eq (lt : α → α → Bool) (xs : List α) :
    insertionSort lt xs = (xs.foldl (fun rev x => insertionSort.go lt x rev) []).reverse := rfl

namespace insertionSort

theorem go_cons (x e : α) (rest : List α) :
    go lt x (e :: rest) = if lt x e then e :: go lt x rest else x :: e :: rest := rfl

/-- Inserting adds the element and loses nothing. -/
theorem go_perm (x : α) : ∀ rev : List α, (go lt x rev).Perm (x :: rev)
  | [] => .refl _
  | e :: rest => by
    rw [go_cons]
    split
    · exact ((go_perm x rest).cons e).trans (.swap x e rest)
    · exact .refl _

/-- Inserting keeps the order of what was there. -/
theorem sublist_go (x : α) : ∀ rev : List α, rev <+ go lt x rev
  | [] => List.nil_sublist _
  | e :: rest => by
    rw [go_cons]
    split
    · exact (sublist_go x rest).cons_cons e
    · exact List.sublist_cons_self x _

/-- The inserted element moves only past the elements it is strictly before. -/
theorem pair_sublist_go {x a : α} (h : lt x a = false) :
    ∀ {rev : List α}, a ∈ rev → [x, a] <+ go lt x rev
  | e :: rest, ha => by
    rw [go_cons]
    split
    · rename_i hxe
      have hae : a ≠ e := by
        rintro rfl
        rw [h] at hxe
        exact Bool.false_ne_true hxe
      exact (pair_sublist_go h ((List.mem_cons.1 ha).resolve_left hae)).cons e
    · exact (List.singleton_sublist.2 ha).cons_cons x

variable {s : α → Prop}

/-- A list held from its greatest element down, none strictly before one
behind it, stays so when an element is inserted. -/
theorem pairwise_go (hlt : StrictWeakOn lt s) {x : α} (hx : s x) :
    ∀ {rev : List α}, (∀ e ∈ rev, s e) → rev.Pairwise (fun a b => lt a b = false) →
      (go lt x rev).Pairwise (fun a b => lt a b = false)
  | [], _, _ => List.pairwise_singleton _ _
  | e :: rest, hs, hp => by
    have he := hs e List.mem_cons_self
    have hrest : ∀ b ∈ rest, s b := fun b hb => hs b (List.mem_cons_of_mem e hb)
    obtain ⟨hpe, hprest⟩ := List.pairwise_cons.1 hp
    rw [go_cons]
    split
    · -- `x` moves past `e`, which is above it and above all below it
      rename_i hxe
      refine List.pairwise_cons.2 ⟨fun b hb => ?_, pairwise_go hlt hx hrest hprest⟩
      rcases List.mem_cons.1 ((go_perm x rest).mem_iff.1 hb) with rfl | hb
      · exact hlt.asymm hx he hxe
      · exact hpe b hb
    · -- `x` stops at `e`: what is below `e` is not above `x` either
      rename_i hxe
      rw [Bool.not_eq_true] at hxe
      refine List.pairwise_cons.2 ⟨fun b hb => ?_, hp⟩
      rcases List.mem_cons.1 hb with rfl | hb
      · exact hxe
      · rcases hxb : lt x b
        · rfl
        · rcases hlt.split hx he (hrest b hb) hxb with h | h
          · rw [hxe] at h
            exact Bool.noConfusion h
          · rw [hpe b hb] at h
            exact Bool.noConfusion h

end insertionSort

open insertionSort

theorem foldl_go_perm : ∀ (xs acc : List α),
    (xs.foldl (fun rev x => go lt x rev) acc).Perm (xs.reverse ++ acc)
  | [], _ => .refl _
  | x :: xs, acc => by
    rw [List.foldl_cons, List.reverse_cons, List.append_assoc, List.singleton_append]
    exact (foldl_go_perm xs _).trans ((go_perm x acc).append_left xs.reverse)

theorem sublist_foldl_go : ∀ (xs acc : List α), acc <+ xs.foldl (fun rev x => go lt x rev) acc
  | [], _ => List.Sublist.refl _
  | x :: xs, acc => (sublist_go x acc).trans (sublist_foldl_go xs _)

/-- An element inserted later stays ahead, in the backwards list, of an
element it is not strictly before. -/
theorem pair_sublist_foldl_go {a b : α} (h : lt b a = false) : ∀ {xs acc : List α},
    a ∈ acc → b ∈ xs → [b, a] <+ xs.foldl (fun rev x => go lt x rev) acc
  | x :: xs, acc, ha, hb => by
    rw [List.foldl_cons]
    rcases List.mem_cons.1 hb with rfl | hb
    · exact (pair_sublist_go h ha).trans (sublist_foldl_go xs _)
    · exact pair_sublist_foldl_go h ((go_perm x acc).mem_iff.2 (List.mem_cons_of_mem x ha)) hb

theorem pair_sublist_foldl_go_of_sublist {a b : α} (h : lt b a = false) : ∀ {xs : List α}
    (acc : List α), [a, b] <+ xs → [b, a] <+ xs.foldl (fun rev x => go lt x rev) acc
  | x :: xs, acc, hab => by
    rw [List.foldl_cons]
    rcases List.sublist_cons_iff.1 hab with hab | ⟨r, hr, hb⟩
    · exact pair_sublist_foldl_go_of_sublist h _ hab
    · -- `a` is this element, and `b` comes later
      obtain ⟨rfl, rfl⟩ := List.cons.inj hr
      exact pair_sublist_foldl_go h ((go_perm a acc).mem_iff.2 List.mem_cons_self)
        (List.singleton_sublist.1 hb)

theorem pairwise_foldl_go {s : α → Prop} (hlt : StrictWeakOn lt s) : ∀ {xs acc : List α},
    (∀ x ∈ xs, s x) → (∀ e ∈ acc, s e) → acc.Pairwise (fun a b => lt a b = false) →
      (xs.foldl (fun rev x => go lt x rev) acc).Pairwise (fun a b => lt a b = false)
  | [], _, _, _, hp => hp
  | x :: xs, acc, hxs, hacc, hp => by
    rw [List.foldl_cons]
    have hx := hxs x List.mem_cons_self
    refine pairwise_foldl_go hlt (fun y hy => hxs y (List.mem_cons_of_mem x hy)) (fun e he => ?_)
      (pairwise_go hlt hx hacc hp)
    rcases List.mem_cons.1 ((go_perm x acc).mem_iff.1 he) with rfl | he
    · exact hx
    · exact hacc e he

/-- The sort rearranges its input. -/
theorem insertionSort_perm (lt : α → α → Bool) (xs : List α) : (insertionSort lt xs).Perm xs := by
  rw [insertionSort_eq]
  refine (List.reverse_perm _).trans ((foldl_go_perm xs []).trans ?_)
  rw [List.append_nil]
  exact List.reverse_perm xs

/-- The sort is stable: of two elements, the first stays first unless the
second is strictly before it. -/
theorem insertionSort_stable {a b : α} {xs : List α} (hab : [a, b] <+ xs) (h : lt b a = false) :
    [a, b] <+ insertionSort lt xs := by
  rw [insertionSort_eq, ← List.reverse_sublist, List.reverse_reverse]
  exact pair_sublist_foldl_go_of_sublist h [] hab

/-- Under a strict weak order, no element of the output is strictly before
one ahead of it. -/
theorem insertionSort_pairwise {s : α → Prop} (hlt : StrictWeakOn lt s) {xs : List α}
    (hs : ∀ x ∈ xs, s x) : (insertionSort lt xs).Pairwise (fun a b => lt b a = false) := by
  rw [insertionSort_eq, List.pairwise_reverse]
  exact pairwise_foldl_go hlt hs (fun _ h => absurd h List.not_mem_nil) List.Pairwise.nil

end InsertionSort

namespace SortKey

/-- A number key that is NaN. -/
def isNaN : SortKey → Bool
  | .number x => x.isNaN
  | _ => false

theorem lt_asymm {a b : SortKey} (h : a.lt b = true) : b.lt a = false := by
  cases a <;> cases b <;> simp only [lt, decide_eq_true_eq, decide_eq_false_iff_not] at h ⊢
  case text.text => exact String.lt_asymm h
  case number.number => exact Binary64.lt_asymm h
  case time.time => exact Instant.lt_asymm h
  -- keys of two types compare by their ranks alone
  all_goals simp_all [rank]

/-- A key that is not NaN lies above the lower or below the upper of two keys
in order. -/
theorem lt_or_lt_of_lt {a b c : SortKey} (hb : b.isNaN = false) (h : a.lt c = true) :
    a.lt b = true ∨ b.lt c = true := by
  cases a <;> cases b <;> cases c <;> simp only [lt, isNaN, decide_eq_true_eq] at h hb ⊢
  case text.text.text x y z => exact (lt_or_ge x y).imp_right fun hyx => lt_of_le_of_lt hyx h
  case number.number.number => exact Binary64.lt_or_lt_of_lt hb h
  case time.time.time => exact Instant.lt_or_lt_of_lt h
  all_goals simp_all [rank]

end SortKey

theorem sortKeyBefore_asymm {a b : Option SortKey} (h : sortKeyBefore a b = true) :
    sortKeyBefore b a = false := by
  cases a <;> cases b <;> simp only [sortKeyBefore, Bool.false_eq_true] at h ⊢
  exact SortKey.lt_asymm h

/-- A key that is not NaN, or no key, lies above the lower or below the upper of
two keys in order. -/
theorem sortKeyBefore_split {a b c : Option SortKey} (hb : ∀ k ∈ b, k.isNaN = false)
    (h : sortKeyBefore a c = true) : sortKeyBefore a b = true ∨ sortKeyBefore b c = true := by
  match a, b, c with
  | some x, some y, some z => exact SortKey.lt_or_lt_of_lt (hb y rfl) h
  | some _, some _, none => exact .inr rfl
  | some _, none, _ => exact .inl rfl
  | none, _, _ => exact absurd h Bool.false_ne_true

namespace Dataset

/-- The key a dataset is ordered by when ordering by the field `f`. -/
def sortKey (d : Dataset) (f : String) : Option SortKey := (d.field f).bind SortKey.ofValue

/-- Whether `a` goes strictly before `b` when ordering by the field `f`. -/
def sortsBefore (f : String) (a b : Dataset) : Bool := sortKeyBefore (a.sortKey f) (b.sortKey f)

/-- Ordering by a field is a strict weak order on the datasets whose key is not NaN. -/
theorem strictWeakOn_sortsBefore (f : String) :
    StrictWeakOn (sortsBefore f) fun d => ∀ k ∈ d.sortKey f, k.isNaN = false where
  asymm _ _ h := sortKeyBefore_asymm h
  split _ hb _ h := sortKeyBefore_split hb h

end Dataset

namespace SearchPlan

variable {f : String} {ds sorted : List Dataset}

/-- `sorted` lists the datasets `ds` in order of the field `f`: a rearrangement
of them in which no dataset sorts strictly before one ahead of it, and where two
datasets that tie keep their order in `ds`. -/
structure SortedBy (f : String) (ds sorted : List Dataset) : Prop where
  perm : sorted.Perm ds
  ascending : sorted.Pairwise fun a b => b.sortsBefore f a = false
  stable : ∀ a b, [a, b] <+ ds → b.sortsBefore f a = false → [a, b] <+ sorted

/-- In a sorted list, the datasets without a key come last. -/
theorem SortedBy.keyless_last (h : SortedBy f ds sorted) {a b : Dataset} (hab : [a, b] <+ sorted)
    (ha : a.sortKey f = none) : b.sortKey f = none := by
  have hba : b.sortsBefore f a = false := List.rel_of_pairwise_cons (h.ascending.sublist hab)
    (List.mem_singleton_self b)
  cases hb : b.sortKey f
  · rfl
  · rw [Dataset.sortsBefore, ha, hb] at hba
    exact Bool.noConfusion hba

/-- Ordering by `f` then keeping the first `limit`, or all when there is no limit. -/
theorem finish_eq (p : SearchPlan) (ds : List Dataset) (hf : p.orderBy = some f) :
    p.finish ds = (insertionSort (Dataset.sortsBefore f) ds).take (p.limit.getD ds.length) := by
  unfold finish
  rw [hf]
  cases p.limit with
  | some n => rfl
  | none =>
    rw [Option.getD_none, ← (insertionSort_perm _ ds).length_eq, List.take_length]
    rfl

/-- Ordering by a field with no NaN key: "does not sort strictly after" is a
total preorder on the datasets, and `finish` keeps the first `limit` of them
listed in that order, those without a key last and ties in their input order. -/
theorem finish_sorts_stably (p : SearchPlan) (ds : List Dataset) (f : String)
    (hf : p.orderBy = some f) (hnan : ∀ d ∈ ds, ∀ k ∈ d.sortKey f, k.isNaN = false) :
    (∀ a ∈ ds, ∀ b ∈ ds, b.sortsBefore f a = false ∨ a.sortsBefore f b = false) ∧
    (∀ a ∈ ds, ∀ b ∈ ds, ∀ c ∈ ds, b.sortsBefore f a = false → c.sortsBefore f b = false →
      c.sortsBefore f a = false) ∧
    ∃ sorted, SortedBy f ds sorted ∧
      (∀ a b, [a, b] <+ sorted → a.sortKey f = none → b.sortKey f = none) ∧
      p.finish ds = sorted.take (p.limit.getD ds.length) := by
  have hlt := Dataset.strictWeakOn_sortsBefore f
  refine ⟨fun a _ b _ => ?_, fun a ha b hb c hc hba hcb => ?_, ?_⟩
  · -- total: the strict relation holds one way at most
    cases hab : a.sortsBefore f b
    · exact .inr rfl
    · exact .inl (sortKeyBefore_asymm hab)
  · -- transitive: when `c` is before `a`, `b` is above `c` or below `a`
    cases hca : c.sortsBefore f a
    · rfl
    · rcases hlt.split (hnan c hc) (hnan b hb) (hnan a ha) hca with h | h
      · rw [hcb] at h
        exact Bool.noConfusion h
      · rw [hba] at h
        exact Bool.noConfusion h
  · have hsorted : SortedBy f ds (insertionSort (Dataset.sortsBefore f) ds) :=
      ⟨insertionSort_perm _ ds, insertionSort_pairwise hlt hnan,
        fun _ _ hab h => insertionSort_stable hab h⟩
    exact ⟨_, hsorted, fun _ _ hab ha => hsorted.keyless_last hab ha, finish_eq p ds hf⟩

/-! ### Scenes ordered by a number -/

/-- A metadata type whose number field `n` is read from the key `n`. -/
def numberedType : MetadataType :=
  ⟨"numbered", none, ⟨⟨[["id"]]⟩, ⟨[["created"]]⟩, .empty, .empty, .empty, .empty, .empty, .empty,
    .empty, .empty, [("n", ⟨"n", none, .numeric, ⟨[["n"]]⟩, .empty, .empty, [], none⟩)]⟩, .null⟩

def numberedProduct : Product :=
  ⟨"numbered", none, numberedType, none, .obj [], [], none, none, [], none, .null⟩

/-- A scene whose document gives `v` for `n`. -/
def numberedScene (id : Nat) (v : Document) : Dataset :=
  ⟨⟨id⟩, numberedProduct, .obj [("n", v)], [], false, []⟩

/-- The plan of a search ordered by `n`, keeping at most `limit` scenes. -/
def byNumber (limit : Option Nat) : SearchPlan :=
  ⟨[numberedProduct], [], none, none, false, some "n", limit⟩

/-- Scenes numbered 2 and 1 and one without a number, kept to two. -/
def numberedScenes : List Dataset :=
  [numberedScene 1 (.int 2), numberedScene 2 .null, numberedScene 3 (.int 1)]

theorem numbered_search_sorted :
    (byNumber (some 2)).orderBy = some "n" ∧
    (∀ d ∈ numberedScenes, ∀ k ∈ d.sortKey "n", k.isNaN = false) ∧
    (∀ a ∈ numberedScenes, ∀ b ∈ numberedScenes,
      b.sortsBefore "n" a = false ∨ a.sortsBefore "n" b = false) ∧
    (∀ a ∈ numberedScenes, ∀ b ∈ numberedScenes, ∀ c ∈ numberedScenes,
      b.sortsBefore "n" a = false → c.sortsBefore "n" b = false → c.sortsBefore "n" a = false) ∧
    ∃ sorted, SortedBy "n" numberedScenes sorted ∧
      (∀ a b, [a, b] <+ sorted → a.sortKey "n" = none → b.sortKey "n" = none) ∧
      (byNumber (some 2)).finish numberedScenes =
        sorted.take ((byNumber (some 2)).limit.getD numberedScenes.length) :=
  ⟨rfl, by decide, finish_sorts_stably (byNumber (some 2)) numberedScenes "n" rfl (by decide)⟩

/-- With a NaN key the order breaks: NaN ties with 2 and with 1, so the scene
numbered 1 stays behind the one numbered 2, though it sorts strictly before it. -/
theorem nan_key_breaks_order :
    (byNumber none).finish
        [numberedScene 1 (.int 2), numberedScene 2 (.str "NaN"), numberedScene 3 (.int 1)] =
      [numberedScene 1 (.int 2), numberedScene 2 (.str "NaN"), numberedScene 3 (.int 1)] ∧
    (numberedScene 3 (.int 1)).sortsBefore "n" (numberedScene 1 (.int 2)) = true :=
  ⟨rfl, rfl⟩

end SearchPlan

end Geocube
