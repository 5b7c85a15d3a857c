import Geocube.Catalog.Search
import Geocube.Proofs.Except
import Geocube.Proofs.Binary64.Order
import Geocube.Proofs.Time.Order

/-!
# Planning a search resolves its fields

`SearchPlan.new` starts from the named product, or from all products, and
reads the fields of the search: its constraints' fields in order, then its
ordering field. A field that no starting product defines is refused, the first
such; the candidates then narrow to the starting products that define every
field read; and each constraint becomes a predicate checked against its
field's type, unless no candidate is left.

`SearchPlan.new_eq` puts the definition's two loops in the form of a check and
a fold of one step, `SearchPlan.resolveStep`, over the constraints. The step
refuses a field whose types differ among the candidates when no product is
named; otherwise the candidates agree on the field's type
(`SearchPlan.resolveStep_eq_ok`), since their type names are collected without
repeats and at most one is left, and a named product is one product when
product names are distinct. Each predicate keeps its value coerced to that type
(`coerceTerm_fits`), and a range keeps its ends in order
(`orderedEnds_ordered`), which for doubles needs both ends to be numbers
rather than NaN.
-/

namespace Geocube

namespace SearchTerms

/-- The products a search starts from: those with the named product's name,
or all of them. -/
def startingProducts (terms : SearchTerms) (products : List Product) : List Product :=
  match terms.product with
  | some n => products.filter fun p => p.name == n
  | none => products

/-- The fields a search reads: the constrained fields in order, then the
ordering field. -/
def queried (terms : SearchTerms) : List String := terms.fields.map (·.1) ++ terms.orderBy.toList

end SearchTerms

/-- Whether a product's metadata type defines a search field. -/
def Product.definesField (p : Product) (f : String) : Bool := (p.metadataType.field? f).isSome

/-- The type a product's metadata type gives a search field. -/
def Product.fieldType? (p : Product) (f : String) : Option FieldType :=
  (p.metadataType.field? f).map (·.fieldType)

/-- The starting products that define every field the search reads. -/
def SearchTerms.narrowed (terms : SearchTerms) (products : List Product) : List Product :=
  (terms.startingProducts products).filter fun p => terms.queried.all fun f => p.definesField f

/-- A constraint value of the kind a field type compares with: text for a text
field, a number for a numeric field or range, an instant for a time field or
range. Nothing fits a spatial field. -/
def TermValue.Fits : TermValue → FieldType → Prop
  | .text _, .string => True
  | .number _, .numeric | .number _, .numericRange => True
  | .time _, .datetime | .time _, .datetimeRange => True
  | _, _ => False

/-- The ends of a range in order: numbers, when neither is NaN, and instants. -/
def TermValue.EndsOrdered : TermValue → TermValue → Prop
  | .number a, .number b => a.isNaN = false → b.isNaN = false → a ≤ b
  | .time a, .time b => a ≤ b
  | _, _ => True

/-- What planning makes of a constraint on the predicate's field, against the
field's type: an equality keeps its value coerced to the type; a range, on a
type other than text, keeps both ends coerced to the type, the smaller first. -/
def Predicate.Checks (q : Predicate) : Term → Prop
  | .eq v => ∃ v', coerceTerm q.field q.fieldType v = .ok v' ∧ v'.Fits q.fieldType ∧ q.term = .eq v'
  | .range lo hi => q.fieldType ≠ .string ∧ ∃ a b, coerceTerm q.field q.fieldType lo = .ok a ∧
      coerceTerm q.field q.fieldType hi = .ok b ∧ a.Fits q.fieldType ∧ b.Fits q.fieldType ∧
      ((q.term = .range a b ∧ a.EndsOrdered b) ∨ (q.term = .range b a ∧ b.EndsOrdered a))

theorem FieldType.name_injective {a b : FieldType} (h : a.name = b.name) : a = b := by
  cases a <;> cases b <;> simp_all [FieldType.name]

/-! ## Coercing and ordering constraint values -/

/-- A coerced value is of the kind the field type compares with. -/
theorem coerceTerm_fits {field : String} {ft : FieldType} {v v' : TermValue}
    (h : coerceTerm field ft v = .ok v') : v'.Fits ft := by
  unfold coerceTerm at h
  cases ft <;> cases v <;> dsimp only at h
  -- a text read as a number or an instant: the reading decides
  all_goals (try split at h) <;> cases h <;> trivial

theorem coerceTerm_ne_ambiguous {field : String} {ft : FieldType} {v : TermValue} {f : String}
    {ts : List String} : coerceTerm field ft v ≠ .error (.query (.ambiguousField f ts)) := by
  unfold coerceTerm
  cases ft <;> cases v <;> dsimp only
  all_goals (try split) <;> simp

/-- `orderedEnds` keeps two ends or swaps them, and puts them in order. -/
theorem orderedEnds_ordered (a b : TermValue) :
    (orderedEnds a b = (a, b) ∧ a.EndsOrdered b) ∨ (orderedEnds a b = (b, a) ∧ b.EndsOrdered a) := by
  unfold orderedEnds
  split
  · rename_i x y
    by_cases hyx : y < x
    · exact .inr ⟨if_pos hyx, fun _ _ => Binary64.le_of_lt hyx⟩
    · exact .inl ⟨if_neg hyx, fun hx hy => Binary64.le_of_not_lt hx hy hyx⟩
  · rename_i x y
    by_cases hyx : y < x
    · exact .inr ⟨if_pos hyx, Instant.le_of_lt hyx⟩
    · exact .inl ⟨if_neg hyx, not_not.1 fun h => hyx (Instant.lt_iff_not_le.2 h)⟩
  · rename_i hnum htime
    refine .inl ⟨rfl, ?_⟩
    cases a <;> cases b <;> simp_all [TermValue.EndsOrdered]

namespace SearchPlan

/-! ## Predicates -/

/-- A predicate is its constraint checked against the type it is given. -/
theorem predicateFor_eq_ok {field : String} {ft : FieldType} {term : Term} {q : Predicate}
    (h : predicateFor field ft term = .ok q) : q.field = field ∧ q.fieldType = ft ∧ q.Checks term := by
  cases term with
  | eq v =>
    simp only [predicateFor, Except.bind_eq_ok, Except.pure_eq_ok] at h
    obtain ⟨v', hv, rfl⟩ := h
    exact ⟨rfl, rfl, v', hv, coerceTerm_fits hv, rfl⟩
  | range lo hi =>
    simp only [predicateFor] at h
    split_ifs at h with hstr
    · exact absurd h Except.throw_ne_ok
    · simp only [Except.bind_eq_ok, Except.pure_eq_ok] at h
      obtain ⟨a, ha, b, hb, rfl⟩ := h
      refine ⟨rfl, rfl, fun heq => hstr (by rw [show ft = .string from heq]; rfl), a, b, ha, hb,
        coerceTerm_fits ha,
        coerceTerm_fits hb, ?_⟩
      rcases orderedEnds_ordered a b with ⟨hab, hord⟩ | ⟨hba, hord⟩
      · exact .inl ⟨by rw [hab], hord⟩
      · exact .inr ⟨by rw [hba], hord⟩

theorem predicateFor_ne_ambiguous {field : String} {ft : FieldType} {term : Term} {f : String}
    {ts : List String} : predicateFor field ft term ≠ .error (.query (.ambiguousField f ts)) := by
  intro h
  cases term with
  | eq v =>
    simp only [predicateFor, Except.bind_eq_error, Except.pure_ne_error, and_false, exists_false,
      or_false] at h
    exact coerceTerm_ne_ambiguous h
  | range lo hi =>
    simp only [predicateFor] at h
    split_ifs at h
    · simp at h
    · simp only [Except.bind_eq_error, Except.pure_ne_error, and_false, exists_false, or_false] at h
      rcases h with h | ⟨_, -, h⟩ <;> exact coerceTerm_ne_ambiguous h

/-! ## The two loops of planning -/

/-- The names of the types the candidates give a field, each once, in the order
they first appear. -/
def typeNames (candidates : List Product) (field : String) : List String :=
  (candidates.filterMap fun p => (p.metadataType.field? field).map (·.fieldType.name)).foldl
    (fun acc t => if acc.contains t then acc else acc ++ [t]) []

/-- One round of planning's loop over the constraints: refuse a field whose
type names differ among the candidates when no product is named, and add the
constraint's predicate when a candidate defines the field. -/
def resolveStep (terms : SearchTerms) (candidates : List Product) (preds : List Predicate)
    (entry : String × Term) : CatalogResult (List Predicate) :=
  let distinct := typeNames candidates entry.1
  if distinct.length > 1 && terms.product.isNone then
    throw (.query (.ambiguousField entry.1 (distinct.mergeSort (fun a b => decide (a ≤ b)))))
  else
    match candidates.findSome? fun p => (p.metadataType.field? entry.1).map (·.fieldType) with
    | none => pure preds
    | some ft => return preds ++ [← predicateFor entry.1 ft entry.2]

/-- The geographic bounds of a query polygon, if it has one. -/
def polygonBounds : Option Geometry → CatalogResult (Option BoundingBox)
  | some g => match g.toCrs .wgs84 with
    | .ok h => pure h.bounds
    | .error e => throw (.geo e)
  | none => pure none

/-- The first field the search reads that no starting product defines, when
some product starts. -/
def firstUnknown (terms : SearchTerms) (products : List Product) : Option String :=
  terms.queried.find? fun f => !(terms.startingProducts products).isEmpty &&
    !(terms.startingProducts products).any fun p => (p.metadataType.field? f).isSome

/-- A loop that refuses the first item a test flags. -/
theorem forIn_check {xs : List String} {bad : String → Bool} {err : String → CatalogError} :
    (forIn xs PUnit.unit (fun f _ => if bad f = true then do
        throw (err f)
        pure (ForInStep.yield PUnit.unit)
      else pure (ForInStep.yield PUnit.unit)) : Except CatalogError PUnit) =
      match xs.find? bad with
      | some f => .error (err f)
      | none => .ok () := by
  induction xs with
  | nil => rfl
  | cons x xs ih =>
    rw [List.forIn_cons, List.find?_cons]
    cases hx : bad x
    · simpa using ih
    · rfl

/-- Planning checks the fields read, folds `resolveStep` over the constraints,
and reads the polygon's bounds. -/
theorem new_eq (terms : SearchTerms) (products : List Product) :
    SearchPlan.new terms products =
      ((match firstUnknown terms products with
        | some f => .error (.query (.unknownField f))
        | none => .ok ()) >>= fun _ =>
      terms.fields.foldlM (resolveStep terms (terms.narrowed products)) [] >>= fun preds =>
      polygonBounds terms.geopolygon >>= fun b =>
      pure ⟨terms.narrowed products, preds, terms.geopolygon, b, terms.includeArchived,
        terms.orderBy, terms.limit⟩) := by
  unfold SearchPlan.new
  dsimp only
  rw [forIn_check, Except.forIn_eq_foldlM_of (resolveStep terms (terms.narrowed products)) ?_]
  · cases terms.geopolygon with
    | none => rfl
    | some g =>
      cases h : g.toCrs .wgs84 <;> simp only [polygonBounds, h] <;> rfl
  · intro x preds
    -- the loop reads the named product through a match of its own: settle the name first, so
    -- that both sides read the same candidates
    cases hp : terms.product <;>
      simp only [resolveStep, typeNames, SearchTerms.narrowed, SearchTerms.startingProducts,
        SearchTerms.queried, Product.definesField, hp] <;>
      split_ifs <;> try rfl
    all_goals
      split <;> simp_all only [map_pure, map_bind]

/-! ## One constraint -/

section Distinct

variable {α : Type} [DecidableEq α]

/-- Collecting items without repeats, as planning collects a field's type
names, keeps every item. -/
theorem mem_foldl_distinct {t : α} : ∀ {acc ts : List α},
    t ∈ ts.foldl (fun acc t => if acc.contains t then acc else acc ++ [t]) acc ↔ t ∈ acc ∨ t ∈ ts
  | acc, [] => by simp
  | acc, x :: ts => by
    rw [List.foldl_cons, mem_foldl_distinct]
    split
    · rename_i hx
      have hx : x ∈ acc := by simpa using hx
      constructor
      · rintro (h | h)
        · exact .inl h
        · exact .inr (List.mem_cons_of_mem x h)
      · rintro (h | h)
        · exact .inl h
        · rcases List.mem_cons.1 h with rfl | h
          · exact .inl hx
          · exact .inr h
    · simp [or_assoc]

/-- Collecting items without repeats gives no repeats. -/
theorem nodup_foldl_distinct : ∀ {acc ts : List α}, acc.Nodup →
    (ts.foldl (fun acc t => if acc.contains t then acc else acc ++ [t]) acc).Nodup
  | acc, [], h => h
  | acc, x :: ts, h => by
    rw [List.foldl_cons]
    refine nodup_foldl_distinct ?_
    split
    · exact h
    · rename_i hx
      have hx : x ∉ acc := by simpa using hx
      refine List.nodup_append.2 ⟨h, List.nodup_singleton x, fun a ha b hb hab => ?_⟩
      rw [List.mem_singleton] at hb
      exact hx (hb ▸ hab ▸ ha)

end Distinct

theorem eq_of_mem_of_length_le_one {α : Type} {l : List α} {a b : α} (hl : l.length ≤ 1)
    (ha : a ∈ l) (hb : b ∈ l) : a = b := by
  match l, hl with
  | [x], _ => simp_all

variable {terms : SearchTerms} {cands : List Product} {preds preds' : List Predicate}
  {entry : String × Term}

theorem fieldType?_eq (p : Product) (f : String) :
    (p.metadataType.field? f).map (·.fieldType) = p.fieldType? f := rfl

theorem mem_typeNames {f t : String} :
    t ∈ typeNames cands f ↔ ∃ p ∈ cands, (p.fieldType? f).map FieldType.name = some t := by
  unfold typeNames
  rw [mem_foldl_distinct]
  simp [Product.fieldType?, Option.map_map, Function.comp_def]

theorem nodup_typeNames {f : String} : (typeNames cands f).Nodup :=
  nodup_foldl_distinct List.nodup_nil

/-- Without candidates a constraint adds nothing. -/
theorem resolveStep_nil : resolveStep terms [] preds entry = .ok preds := rfl

/-- With candidates that define the field, and that are one product when a
product is named, a constraint adds one predicate: for the field, of the type
every candidate gives it, and checked against that type. -/
theorem resolveStep_eq_ok (hdef : ∀ p ∈ cands, (p.fieldType? entry.1).isSome) (hne : cands ≠ [])
    (hsame : terms.product.isSome → ∀ p ∈ cands, ∀ p' ∈ cands, p = p')
    (h : resolveStep terms cands preds entry = .ok preds') :
    ∃ q, preds' = preds ++ [q] ∧ q.field = entry.1 ∧
      (∀ p ∈ cands, p.fieldType? entry.1 = some q.fieldType) ∧ q.Checks entry.2 := by
  obtain ⟨p₀, rest, rfl⟩ := List.exists_cons_of_ne_nil hne
  obtain ⟨t₀, ht₀⟩ := Option.isSome_iff_exists.1 (hdef p₀ List.mem_cons_self)
  unfold resolveStep at h
  dsimp only at h
  -- a refused field fails the step, so the type names are few or a product is named
  split_ifs at h with hamb
  -- the candidates agree on the field's type
  have hagree : ∀ p ∈ p₀ :: rest, p.fieldType? entry.1 = some t₀ := by
    intro p hp
    obtain ⟨t, ht⟩ := Option.isSome_iff_exists.1 (hdef p hp)
    cases hprod : terms.product with
    | some n => rw [hsame (by simp [hprod]) p hp p₀ List.mem_cons_self, ht₀]
    | none =>
      -- no product is named, so at most one type name was collected, and both names are among them
      have hlen : (typeNames (p₀ :: rest) entry.1).length ≤ 1 := by simpa [hprod] using hamb
      have hname : ∀ q ∈ p₀ :: rest, ∀ u, q.fieldType? entry.1 = some u →
          u.name ∈ typeNames (p₀ :: rest) entry.1 :=
        fun q hq u hu => mem_typeNames.2 ⟨q, hq, by rw [hu]; rfl⟩
      rw [ht, FieldType.name_injective (eq_of_mem_of_length_le_one hlen (hname p hp t ht)
        (hname p₀ List.mem_cons_self t₀ ht₀))]
  have hfind : ((p₀ :: rest).findSome? fun p => p.fieldType? entry.1) = some t₀ := by
    rw [List.findSome?_cons, ht₀]
  simp only [fieldType?_eq] at h
  rw [hfind] at h
  simp only [Except.bind_eq_ok, Except.pure_eq_ok] at h
  obtain ⟨q, hq, rfl⟩ := h
  obtain ⟨hfield, htype, hchecks⟩ := predicateFor_eq_ok hq
  exact ⟨q, rfl, hfield, fun p hp => by rw [hagree p hp, htype], hchecks⟩

/-- A constraint is refused as ambiguous only when no product is named and two
candidates give its field different types. -/
theorem resolveStep_eq_ambiguous {f : String} {ts : List String}
    (h : resolveStep terms cands preds entry = .error (.query (.ambiguousField f ts))) :
    terms.product = none ∧ f = entry.1 ∧
      ∃ p ∈ cands, ∃ p' ∈ cands, p.fieldType? f ≠ p'.fieldType? f := by
  unfold resolveStep at h
  dsimp only at h
  split_ifs at h with hamb
  · simp only [Except.throw_eq_error, CatalogError.query.injEq, QueryError.ambiguousField.injEq] at h
    obtain ⟨rfl, -⟩ := h
    simp only [Bool.and_eq_true, decide_eq_true_eq, Option.isNone_iff_eq_none] at hamb
    refine ⟨hamb.2, rfl, ?_⟩
    -- two type names were collected, and they differ
    obtain ⟨a, b, rest, hnames⟩ : ∃ a b rest, typeNames cands entry.1 = a :: b :: rest := by
      rcases hn : typeNames cands entry.1 with _ | ⟨a, _ | ⟨b, rest⟩⟩
      · simp [hn] at hamb
      · simp [hn] at hamb
      · exact ⟨a, b, rest, rfl⟩
    have hab : a ≠ b := by
      have hnd : (typeNames cands entry.1).Nodup := nodup_typeNames
      rw [hnames] at hnd
      exact fun h => (List.nodup_cons.1 hnd).1 (h ▸ List.mem_cons_self)
    obtain ⟨p, hp, hpa⟩ := mem_typeNames.1 (hnames ▸ List.mem_cons_self)
    obtain ⟨p', hp', hpb⟩ := mem_typeNames.1
      (hnames ▸ List.mem_cons_of_mem a List.mem_cons_self)
    exact ⟨p, hp, p', hp', fun heq => hab (Option.some.inj (hpa.symm.trans (heq ▸ hpb)))⟩
  · split at h
    · simp at h
    · simp only [Except.bind_eq_error, Except.pure_ne_error, and_false, exists_false,
        or_false] at h
      exact absurd h predicateFor_ne_ambiguous

/-! ## The constraints -/

/-- Without candidates the constraints add nothing. -/
theorem foldlM_resolveStep_nil : ∀ {fields : List (String × Term)} {acc : List Predicate},
    fields.foldlM (resolveStep terms []) acc = .ok acc
  | [], _ => rfl
  | _ :: _, _ => by
    rw [List.foldlM_cons, resolveStep_nil]
    exact foldlM_resolveStep_nil

/-- With candidates that define every constrained field, and that are one
product when a product is named, each constraint adds its predicate, in order. -/
theorem foldlM_resolveStep_eq_ok (hne : cands ≠ [])
    (hsame : terms.product.isSome → ∀ p ∈ cands, ∀ p' ∈ cands, p = p') :
    ∀ {fields : List (String × Term)} {acc preds : List Predicate},
      (∀ p ∈ cands, ∀ e ∈ fields, (p.fieldType? e.1).isSome) →
      fields.foldlM (resolveStep terms cands) acc = .ok preds →
      ∃ new, preds = acc ++ new ∧
        List.Forall₂ (fun (e : String × Term) (q : Predicate) => q.field = e.1 ∧ q.Checks e.2)
          fields new ∧
        ∀ q ∈ new, ∀ p ∈ cands, p.fieldType? q.field = some q.fieldType
  | [], acc, preds, _, h => ⟨[], by simpa using (Except.pure_eq_ok.1 h).symm, .nil, by simp⟩
  | e :: es, acc, preds, hdef, h => by
    rw [List.foldlM_cons, Except.bind_eq_ok] at h
    obtain ⟨mid, hstep, hrest⟩ := h
    obtain ⟨q, rfl, hfield, htype, hchecks⟩ :=
      resolveStep_eq_ok (fun p hp => hdef p hp e List.mem_cons_self) hne hsame hstep
    obtain ⟨new, rfl, hnew, hnewtype⟩ :=
      foldlM_resolveStep_eq_ok hne hsame (fun p hp e' he' => hdef p hp e' (List.mem_cons_of_mem e he'))
        hrest
    refine ⟨q :: new, by simp, .cons ⟨hfield, hchecks⟩ hnew, ?_⟩
    rintro q' (_ | ⟨_, hq'⟩) p hp
    · rw [hfield]
      exact htype p hp
    · exact hnewtype q' hq' p hp

/-- The constraints are refused as ambiguous only for a constrained field that
two candidates give different types, with no product named. -/
theorem foldlM_resolveStep_eq_ambiguous {f : String} {ts : List String} :
    ∀ {fields : List (String × Term)} {acc : List Predicate},
      fields.foldlM (resolveStep terms cands) acc = .error (.query (.ambiguousField f ts)) →
      terms.product = none ∧ f ∈ fields.map (·.1) ∧
        ∃ p ∈ cands, ∃ p' ∈ cands, p.fieldType? f ≠ p'.fieldType? f
  | [], _, h => by simp [pure, Except.pure] at h
  | e :: es, acc, h => by
    rw [List.foldlM_cons, Except.bind_eq_error] at h
    rcases h with h | ⟨mid, -, h⟩
    · obtain ⟨hprod, rfl, hdiff⟩ := resolveStep_eq_ambiguous h
      exact ⟨hprod, List.mem_cons_self, hdiff⟩
    · obtain ⟨hprod, hmem, hdiff⟩ := foldlM_resolveStep_eq_ambiguous h
      exact ⟨hprod, List.mem_cons_of_mem _ hmem, hdiff⟩

/-! ## The plan -/

/-- The first field read that no starting product defines is the one refused. -/
theorem firstUnknown_eq_some {products : List Product} {pre post : List String} {f : String}
    (hq : terms.queried = pre ++ f :: post) (hstart : terms.startingProducts products ≠ [])
    (hpre : ∀ g ∈ pre, ∃ p ∈ terms.startingProducts products, p.definesField g = true)
    (hf : ∀ p ∈ terms.startingProducts products, p.definesField f = false) :
    firstUnknown terms products = some f := by
  unfold firstUnknown
  rw [List.find?_eq_some_iff_append]
  have hempty : (terms.startingProducts products).isEmpty = false := by simpa using hstart
  refine ⟨?_, pre, post, hq, fun g hg => ?_⟩
  · simpa [hempty, Product.definesField] using hf
  · obtain ⟨p, hp, hdef⟩ := hpre g hg
    simp only [hempty, Bool.not_false, Bool.true_and, Bool.not_not, List.any_eq_true]
    exact ⟨p, hp, hdef⟩

/-- The narrowed products define every constrained field. -/
theorem narrowed_defines {products : List Product} {p : Product} (hp : p ∈ terms.narrowed products)
    {e : String × Term} (he : e ∈ terms.fields) : (p.fieldType? e.1).isSome := by
  have hall := (List.mem_filter.1 hp).2
  rw [List.all_eq_true] at hall
  simpa [Product.fieldType?, Product.definesField] using
    hall e.1 (List.mem_append_left _ (List.mem_map_of_mem he))

/-- With distinct product names, a named product is one product. -/
theorem narrowed_same {products : List Product} (hnames : (products.map (·.name)).Nodup)
    (hprod : terms.product.isSome) :
    ∀ p ∈ terms.narrowed products, ∀ p' ∈ terms.narrowed products, p = p' := by
  obtain ⟨n, hn⟩ := Option.isSome_iff_exists.1 hprod
  intro p hp p' hp'
  have hstart : ∀ q ∈ terms.narrowed products, q ∈ products ∧ q.name = n := by
    intro q hq
    have hq := (List.mem_filter.1 hq).1
    simp only [SearchTerms.startingProducts, hn, List.mem_filter, beq_iff_eq] at hq
    exact hq
  exact List.inj_on_of_nodup_map hnames (hstart p hp).1 (hstart p' hp').1
    ((hstart p hp).2.trans (hstart p' hp').2.symm)

theorem polygonBounds_ne_query {g : Option Geometry} {e : QueryError} :
    polygonBounds g ≠ .error (.query e) := by
  unfold polygonBounds
  split
  · split <;> simp
  · simp

/-- Planning resolves the fields of a search against products with distinct
names. When some product starts, the first field read that none of them
defines is refused as unknown. A plan's products are the starting products that
define every field read, in order, and every predicate has the type each of
them gives its field; with products left, the predicates are the constraints in
order, each checked against that type; with none left, there are none. A field
is refused as ambiguous only when no product is named and two of those products
give it different types. -/
theorem new_resolves_fields (terms : SearchTerms) (products : List Product)
    (hnames : (products.map (·.name)).Nodup) :
    (∀ pre f post, terms.queried = pre ++ f :: post → terms.startingProducts products ≠ [] →
      (∀ g ∈ pre, ∃ p ∈ terms.startingProducts products, p.definesField g = true) →
      (∀ p ∈ terms.startingProducts products, p.definesField f = false) →
      SearchPlan.new terms products = .error (.query (.unknownField f))) ∧
    (∀ plan, SearchPlan.new terms products = .ok plan →
      plan.products = terms.narrowed products ∧
      (∀ q ∈ plan.predicates, ∀ p ∈ plan.products, p.fieldType? q.field = some q.fieldType) ∧
      (plan.products ≠ [] → List.Forall₂ (fun (e : String × Term) (q : Predicate) =>
        q.field = e.1 ∧ q.Checks e.2) terms.fields plan.predicates) ∧
      (plan.products = [] → plan.predicates = [])) ∧
    (∀ f ts, SearchPlan.new terms products = .error (.query (.ambiguousField f ts)) →
      terms.product = none ∧ f ∈ terms.fields.map (·.1) ∧
      ∃ p ∈ terms.narrowed products, ∃ p' ∈ terms.narrowed products,
        p.fieldType? f ≠ p'.fieldType? f) := by
  refine ⟨fun pre f post hq hstart hpre hf => ?_, fun plan h => ?_, fun f ts h => ?_⟩
  · rw [new_eq, firstUnknown_eq_some hq hstart hpre hf]
    rfl
  · rw [new_eq] at h
    simp only [Except.bind_eq_ok, Except.pure_eq_ok] at h
    obtain ⟨-, -, preds, hfold, b, -, rfl⟩ := h
    -- with products, the fold resolves each field against all of them
    have hresolve := fun hne => foldlM_resolveStep_eq_ok hne (narrowed_same hnames)
      (fun p hp e he => narrowed_defines hp he) hfold
    refine ⟨rfl, ?_, ?_, ?_⟩
    · -- the predicates come from the fold, which adds nothing without products
      intro q hq p hp
      rcases eq_or_ne (terms.narrowed products) [] with hnil | hne
      · rw [hnil] at hp
        exact absurd hp List.not_mem_nil
      · obtain ⟨new, rfl, -, htype⟩ := hresolve hne
        exact htype q (by simpa using hq) p hp
    · intro hne
      obtain ⟨new, rfl, hnew, -⟩ := hresolve hne
      simpa using hnew
    · intro hnil
      dsimp only at hnil
      rw [hnil, foldlM_resolveStep_nil] at hfold
      exact (Except.ok.inj hfold).symm
  · rw [new_eq] at h
    simp only [Except.bind_eq_error, Except.pure_ne_error, and_false, exists_false,
      or_false] at h
    rcases h with h | ⟨_, -, h | ⟨_, -, h⟩⟩
    · -- the check of the fields read refuses only unknown fields
      split at h <;> simp at h
    · exact foldlM_resolveStep_eq_ambiguous h
    · exact absurd h polygonBounds_ne_query

/-! ### Two products that give `platform` different types -/

/-- A metadata type whose `platform` field has the given type. -/
def platformType (ft : FieldType) : MetadataType :=
  ⟨"platforms", none, ⟨⟨[["id"]]⟩, ⟨[["created"]]⟩, .empty, .empty, .empty, .empty, .empty, .empty,
    .empty, .empty,
    [("platform", ⟨"platform", none, ft, ⟨[["platform"]]⟩, .empty, .empty, [], none⟩)]⟩, .null⟩

def platformProducts : List Product :=
  [⟨"a", none, platformType .string, none, .obj [], [], none, none, [], none, .null⟩,
   ⟨"b", none, platformType .numeric, none, .obj [], [], none, none, [], none, .null⟩]

/-- A search for platform `landsat-8`, ordered by platform, across both products. -/
def platformSearch : SearchTerms :=
  { fields := [("platform", .eq (.text "landsat-8"))], orderBy := some "platform" }

theorem platform_search_resolves :
    (platformProducts.map (·.name)).Nodup ∧
    (∀ pre f post, platformSearch.queried = pre ++ f :: post →
      platformSearch.startingProducts platformProducts ≠ [] →
      (∀ g ∈ pre, ∃ p ∈ platformSearch.startingProducts platformProducts, p.definesField g = true) →
      (∀ p ∈ platformSearch.startingProducts platformProducts, p.definesField f = false) →
      SearchPlan.new platformSearch platformProducts = .error (.query (.unknownField f))) ∧
    (∀ plan, SearchPlan.new platformSearch platformProducts = .ok plan →
      plan.products = platformSearch.narrowed platformProducts ∧
      (∀ q ∈ plan.predicates, ∀ p ∈ plan.products, p.fieldType? q.field = some q.fieldType) ∧
      (plan.products ≠ [] → List.Forall₂ (fun (e : String × Term) (q : Predicate) =>
        q.field = e.1 ∧ q.Checks e.2) platformSearch.fields plan.predicates) ∧
      (plan.products = [] → plan.predicates = [])) ∧
    (∀ f ts, SearchPlan.new platformSearch platformProducts =
        .error (.query (.ambiguousField f ts)) →
      platformSearch.product = none ∧ f ∈ platformSearch.fields.map (·.1) ∧
      ∃ p ∈ platformSearch.narrowed platformProducts,
        ∃ p' ∈ platformSearch.narrowed platformProducts, p.fieldType? f ≠ p'.fieldType? f) :=
  ⟨by decide, new_resolves_fields platformSearch platformProducts (by decide)⟩

end SearchPlan

end Geocube
