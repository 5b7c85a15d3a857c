import Geocube.Proofs.Document.Contains
import Geocube.Catalog.Product

/-!
Classifying a dataset document by the templates of products.

Without a product name, `matchProduct` succeeds exactly when one listed product
has a template the document contains (`matchProduct_eq_ok_iff`), and two listed
products that both match make it fail with an error naming both
(`matchProduct_ambiguous`). Since containment is transitive, a product whose
template is contained in another's matches every document the other matches,
so the narrower product never wins alone (`containment_preorder_decides_match`).
-/

namespace Geocube

/-- Two positions of a list whose items pass a test leave at least two items in
its filter. -/
theorem two_le_length_filter {α : Type} {p : α → Bool} :
    ∀ {l : List α} {i j : Nat} {a b : α}, i ≠ j → l[i]? = some a → l[j]? = some b →
      p a = true → p b = true → 2 ≤ (l.filter p).length
  | [], _, _, _, _, _, hi, _, _, _ => by simp at hi
  | _ :: _, 0, 0, _, _, hij, _, _, _, _ => absurd rfl hij
  | _ :: xs, 0, _ + 1, _, b, _, hi, hj, ha, hb => by
    simp only [List.getElem?_cons_zero, Option.some.injEq] at hi
    subst hi
    have hmem : b ∈ xs.filter p := List.mem_filter.2 ⟨List.mem_of_getElem? hj, hb⟩
    simp only [List.filter_cons, ha, if_true, List.length_cons]
    have := List.length_pos_of_mem hmem
    omega
  | _ :: xs, _ + 1, 0, a, _, _, hi, hj, ha, hb => by
    simp only [List.getElem?_cons_zero, Option.some.injEq] at hj
    subst hj
    have hmem : a ∈ xs.filter p := List.mem_filter.2 ⟨List.mem_of_getElem? hi, ha⟩
    simp only [List.filter_cons, hb, if_true, List.length_cons]
    have := List.length_pos_of_mem hmem
    omega
  | x :: xs, _ + 1, _ + 1, _, _, hij, hi, hj, ha, hb => by
    have ih := two_le_length_filter (l := xs) (fun h => hij (by rw [h])) hi hj ha hb
    have hle : (xs.filter p).length ≤ ((x :: xs).filter p).length := by
      simp only [List.filter_cons]
      split <;> simp
    omega

/-- The products whose templates a document contains. -/
theorem matchProduct_none (products : List Product) (doc : Document) (ign : Bool) :
    matchProduct products doc none ign =
      match products.filter (·.accepts doc) with
      | [] => .error (.noMatch "no product's metadata template is contained in the document")
      | [p] => .ok p
      | ps => .error (.ambiguousMatch (ps.map (·.name))) := rfl

/-- Without a name, the match is the only listed product whose template the
document contains. -/
theorem matchProduct_eq_ok_iff {products : List Product} {doc : Document} {ign : Bool}
    {p : Product} :
    matchProduct products doc none ign = .ok p ↔
      ∃ l r, products = l ++ p :: r ∧ p.accepts doc = true ∧
        ∀ q ∈ l ++ r, q.accepts doc = false := by
  have hm : matchProduct products doc none ign = .ok p ↔
      products.filter (·.accepts doc) = [p] := by
    rw [matchProduct_none]
    split
    next hf => simp [hf]
    next q hf => simp [hf]
    next ps _ hf =>
      simp only [reduceCtorEq, false_iff]
      exact hf p
  rw [hm, List.filter_eq_cons_iff]
  constructor
  · rintro ⟨l, r, rfl, hl, hp, hr⟩
    refine ⟨l, r, rfl, hp, fun q hq => ?_⟩
    rcases List.mem_append.1 hq with hq | hq
    · simpa using hl q hq
    · simpa using List.filter_eq_nil_iff.1 hr q hq
  · rintro ⟨l, r, rfl, hp, hq⟩
    refine ⟨l, r, rfl, fun q h => ?_, hp, List.filter_eq_nil_iff.2 fun q h => ?_⟩
    · simp [hq q (List.mem_append_left _ h)]
    · simp [hq q (List.mem_append_right _ h)]

/-- Two listed products that both match the document make the match ambiguous,
and the error names both. -/
theorem matchProduct_ambiguous {products : List Product} {doc : Document} {ign : Bool}
    {i j : Nat} {A B : Product} (hij : i ≠ j) (hA : products[i]? = some A)
    (hB : products[j]? = some B) (hAdoc : A.accepts doc = true) (hBdoc : B.accepts doc = true) :
    ∃ names, matchProduct products doc none ign = .error (.ambiguousMatch names) ∧
      A.name ∈ names ∧ B.name ∈ names := by
  have hlen := two_le_length_filter (p := (·.accepts doc)) hij hA hB hAdoc hBdoc
  have hAmem : A ∈ products.filter (·.accepts doc) :=
    List.mem_filter.2 ⟨List.mem_of_getElem? hA, hAdoc⟩
  have hBmem : B ∈ products.filter (·.accepts doc) :=
    List.mem_filter.2 ⟨List.mem_of_getElem? hB, hBdoc⟩
  rw [matchProduct_none]
  generalize products.filter (·.accepts doc) = ps at hlen hAmem hBmem
  match ps, hlen with
  | a :: b :: rest, _ =>
    exact ⟨_, rfl, List.mem_map_of_mem hAmem, List.mem_map_of_mem hBmem⟩

/-- Template containment is a preorder on the values of the data format, kept
when a document gains entries at any depth, and it decides classification: a
product whose template is contained in another's matches whatever the other
matches, so a document that matches the other never picks it alone. -/
theorem containment_preorder_decides_match :
    (∀ a : Document, a.IsJson → a.contains a = true) ∧
    (∀ a b c : Document, a.contains b = true → b.contains c = true → a.contains c = true) ∧
    (∀ d d' t : Document, d.Extends d' → d.contains t = true → d'.contains t = true) ∧
    (∀ (products : List Product) (doc : Document) (ign : Bool) (i j : Nat) (A B : Product),
      i ≠ j → products[i]? = some A → products[j]? = some B →
      B.metadata.contains A.metadata = true → B.accepts doc = true →
      ∃ names, matchProduct products doc none ign = .error (.ambiguousMatch names) ∧
        A.name ∈ names ∧ B.name ∈ names) ∧
    (∀ (products : List Product) (doc : Document) (ign : Bool) (p : Product),
      matchProduct products doc none ign = .ok p ↔
        ∃ l r, products = l ++ p :: r ∧ p.accepts doc = true ∧
          ∀ q ∈ l ++ r, q.accepts doc = false) :=
  ⟨fun _ h => Document.contains_self h.1 h.2,
   fun _ _ _ => Document.contains_trans,
   fun _ _ _ => Document.contains_of_extends,
   fun _ _ _ _ _ _ _ hij hA hB hAB hBdoc =>
     matchProduct_ambiguous hij hA hB (Document.contains_trans hBdoc hAB) hBdoc,
   fun _ _ _ _ => matchProduct_eq_ok_iff⟩

/-- A product that only carries a name and a template. -/
def templateProduct (name : String) (template : Document) : Product :=
  ⟨name, none, default, none, template, [], none, none, [], none, .empty⟩

/-- A Landsat 8 scene taken with the OLI instrument. -/
def oliScene : Document :=
  .obj [("properties", .obj [("eo:instrument", .str "OLI"), ("eo:platform", .str "landsat-8")])]

def landsatWide : Product :=
  templateProduct "wide" (.obj [("properties", .obj [("eo:platform", .str "landsat-8")])])

def landsatNarrow : Product := templateProduct "narrow" oliScene

/-- The scene is a value of the format and contains itself, the narrow template
is the wide one with an entry added, and the scene matches both products, so
classifying it is ambiguous. -/
theorem narrow_template_match_is_ambiguous :
    (oliScene.IsJson ∧ oliScene.contains oliScene = true) ∧
    (landsatWide.metadata.Extends landsatNarrow.metadata ∧
      landsatNarrow.metadata.contains landsatWide.metadata = true) ∧
    ((0 : Nat) ≠ 1 ∧ [landsatWide, landsatNarrow][0]? = some landsatWide ∧
      [landsatWide, landsatNarrow][1]? = some landsatNarrow ∧
      landsatNarrow.metadata.contains landsatWide.metadata = true ∧
      landsatNarrow.accepts oliScene = true) ∧
    ∃ names, matchProduct [landsatWide, landsatNarrow] oliScene none false =
      .error (.ambiguousMatch names) ∧ "wide" ∈ names ∧ "narrow" ∈ names := by
  -- the instrument is added inside the `properties` mapping
  have hinner : (Document.obj [("eo:platform", .str "landsat-8")]).Extends
      ((Document.obj [("eo:platform", .str "landsat-8")]).set "eo:instrument" (.str "OLI")) :=
    Document.extends_set (by decide) fun _ hv => by cases hv
  have hext : landsatWide.metadata.Extends landsatNarrow.metadata :=
    Document.extends_set (k := "properties") (by decide) fun v hv => by
      cases hv
      exact hinner
  have hwide : landsatWide.metadata.contains landsatWide.metadata = true := by decide
  have hdoc : landsatNarrow.accepts oliScene = true := by decide
  refine ⟨⟨by decide, containment_preorder_decides_match.1 _ (by decide)⟩,
    ⟨hext, containment_preorder_decides_match.2.2.1 _ _ _ hext hwide⟩,
    ⟨by decide, rfl, rfl, by decide, hdoc⟩, ?_⟩
  exact containment_preorder_decides_match.2.2.2.1 _ _ false 0 1 landsatWide landsatNarrow
    (by decide) rfl rfl (by decide) hdoc

end Geocube
