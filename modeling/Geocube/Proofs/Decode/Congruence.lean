import Geocube.Decode.Fields
import Geocube.Proofs.Document.Same
import Geocube.Proofs.Except

/-
Decoders read equal documents alike.

A decoder never looks at a document more closely than the data format's
equality does, so two documents that are `same` decode alike. "Alike" depends on
what is decoded. Text, names, integers and enumerations come out equal.
A double comes out as an equal number, which need not be the same double
(`0.0` and `-0.0`). A document kept as it is, such as a template, comes out
`same`. So the statement is made for a relation on values:
`Preserves S R dec` says that documents related by `S` decode, when both
decode, into values related by `R`.

Records are read by their fields, and `Fields.MapPreserves E R fs` says the
same of entry lists related by `E`. The relation on entry lists is a parameter
because two uses need it. Under `same` the entries correspond position by
position. A comparison of two versions of a definition instead relates the
values key by key, and under some keys it allows changes. A field only sees
the values its names select (`Fields.HitsMatch`), so it is enough that those
correspond.

An untagged choice takes the first alternative that fits. It reads equal
documents alike only if every alternative fits both or neither, which is the
stronger `Respects`: what one document decodes to, the other decodes to as
well.
-/

namespace Geocube

namespace Binary64

/-- Two doubles agree when they are the same double or compare equal: the
data format's equality of numbers, made reflexive. -/
def Agree (a b : Float) : Prop := a = b ∨ (a == b) = true

theorem Agree.refl (a : Float) : Agree a a := .inl rfl

end Binary64

namespace Decode

variable {α β : Type}

/-- Two documents equal in the data format's sense. -/
abbrev Same (x y : Document) : Prop := Document.same x y = true

/-- Documents related by `S` decode, whenever both decode, into values related
by `R`. -/
def Preserves (S : Document → Document → Prop) (R : α → α → Prop) (dec : Decoder α) : Prop :=
  ∀ ⦃x y : Document⦄ ⦃a b : α⦄, S x y → dec x = .ok a → dec y = .ok b → R a b

/-- What one of two equal documents decodes to, the other decodes to as well. -/
def Respects (dec : Decoder α) : Prop :=
  ∀ ⦃x y : Document⦄ ⦃a : α⦄, Same x y → dec x = .ok a → dec y = .ok a

theorem Respects.preserves {dec : Decoder α} (h : Respects dec) : Preserves Same Eq dec := by
  intro x y a b hxy ha hb
  rw [h hxy ha] at hb
  exact Except.ok.inj hb

theorem Preserves.mono {S : Document → Document → Prop} {R R' : α → α → Prop}
    {dec : Decoder α} (h : Preserves S R dec) (hR : ∀ a b, R a b → R' a b) :
    Preserves S R' dec :=
  fun _ _ _ _ hxy ha hb => hR _ _ (h hxy ha hb)

/-- Equal documents either both fit a decoder that respects equality, with the
same value, or neither does. -/
theorem Respects.toOption_eq {dec : Decoder α} (h : Respects dec) {x y : Document}
    (hxy : Same x y) : (dec x).toOption = (dec y).toOption := by
  cases hx : dec x with
  | ok a => rw [h hxy hx]
  | error e =>
    cases hy : dec y with
    | ok b =>
      have := h (Document.same_symm hxy) hy
      rw [hx] at this
      cases this
    | error e' => rfl

theorem Respects.map {dec : Decoder α} (h : Respects dec) (f : α → β) :
    Respects fun d => (dec d).map f := by
  intro x y b hxy hb
  obtain ⟨a, ha, rfl⟩ := Except.map_ok_iff.1 hb
  dsimp only
  rw [h hxy ha]
  rfl

theorem text_respects : Respects text := by
  intro x y a hxy ha
  cases x <;> simp [text, mismatch] at ha
  rw [Document.same_str_left hxy]
  exact ha ▸ rfl

theorem unsigned_respects (name : String) (max : Nat) : Respects (unsigned name max) := by
  intro x y a hxy ha
  cases x with
  | int i => rwa [Document.same_int_left hxy]
  | _ => simp [unsigned, mismatch] at ha

theorem listOf_respects {dec : Decoder α} (h : Respects dec) : Respects (listOf dec) := by
  intro x y as hxy ha
  cases x <;> simp [listOf, mismatch] at ha
  obtain ⟨ys, rfl, hys⟩ := Document.same_arr_left hxy
  rw [Document.sameItems_iff_forall₂] at hys
  simp only [listOf]
  rw [Except.mapM_eq_ok_iff] at ha ⊢
  clear hxy
  -- each item of the second list decodes as its equal in the first
  induction hys generalizing as with
  | nil => exact ha
  | cons hxy _ ih =>
    cases ha with
    | cons hx hrest => exact .cons (h hxy hx) (ih hrest)

/-- An untagged choice reads equal documents to the same outcome, failure
included, when each alternative respects equality. -/
theorem untagged_eq_of_same {alts : List (Decoder α)} (h : ∀ dec ∈ alts, Respects dec)
    (name : String) {x y : Document} (hxy : Same x y) :
    untagged name alts x = untagged name alts y := by
  have hfind : alts.findSome? (fun dec => (dec x).toOption) =
      alts.findSome? (fun dec => (dec y).toOption) := by
    induction alts with
    | nil => rfl
    | cons dec alts ih =>
      rw [List.findSome?_cons, List.findSome?_cons,
        (h dec List.mem_cons_self).toOption_eq hxy,
        ih fun d hd => h d (List.mem_cons_of_mem _ hd)]
  simp only [untagged, hfind]

theorem untagged_respects {alts : List (Decoder α)} (h : ∀ dec ∈ alts, Respects dec)
    (name : String) : Respects (untagged name alts) := by
  intro x y a hxy ha
  rwa [← untagged_eq_of_same h name hxy]

theorem unitVariant_respects (table : List (String × α)) (names : List String) :
    Respects (unitVariant table names) := by
  intro x y a hxy ha
  cases x with
  | str s => rwa [Document.same_str_left hxy]
  | obj fs =>
    obtain ⟨gs, rfl, hfg⟩ := Document.same_obj_left hxy
    rw [Document.sameFields_iff_forall₂] at hfg
    -- only a mapping of one entry with a `null` value decodes
    rcases hfg with _ | ⟨⟨hk, hv⟩, hrest⟩
    · simp [unitVariant] at ha
    · rename_i e e' es es'
      obtain ⟨k, v⟩ := e
      obtain ⟨k', v'⟩ := e'
      simp only at hk hv
      subst hk
      cases hrest with
      | cons => simp [unitVariant] at ha
      | nil =>
        simp only [unitVariant, Except.bind_eq_ok] at ha ⊢
        obtain ⟨b, hb, hnull⟩ := ha
        refine ⟨b, hb, ?_⟩
        cases v <;> simp [mismatch] at hnull
        cases v' <;> simp_all [Document.same]
  | _ => simp [unitVariant, mismatch] at ha

theorem double_preserves : Preserves Same Binary64.Agree double := by
  intro x y a b hxy ha hb
  cases x with
  | int i =>
    rw [Document.same_int_left hxy] at hb
    simp only [double, Except.ok.injEq] at ha hb
    subst ha hb
    exact .inl rfl
  | float u =>
    obtain ⟨w, rfl, huw⟩ := Document.same_float_left hxy
    simp only [double, Except.ok.injEq] at ha hb
    subst ha hb
    exact .inr huw
  | _ => simp [double, mismatch] at ha

theorem any_preserves : Preserves Same Same any := by
  intro x y a b hxy ha hb
  cases ha
  cases hb
  exact hxy

theorem optional_of_ne_null {dec : Decoder α} {x : Document} (hx : x ≠ .null) :
    optional dec x = (dec x).map some := by
  cases x <;> simp_all [optional]

theorem optional_preserves {R : α → α → Prop} {dec : Decoder α} (h : Preserves Same R dec) :
    Preserves Same (Option.Rel R) (optional dec) := by
  intro x y a b hxy ha hb
  by_cases hx : x = .null
  · subst hx
    rw [Document.same_null_left hxy] at hb
    cases ha
    cases hb
    exact .none
  · -- a document equal to one that is not `null` is not `null` either
    have hy : y ≠ .null := fun hy => hx (Document.same_null_left (Document.same_symm (hy ▸ hxy)))
    rw [optional_of_ne_null hx] at ha
    rw [optional_of_ne_null hy] at hb
    obtain ⟨a', ha', rfl⟩ := Except.map_ok_iff.1 ha
    obtain ⟨b', hb', rfl⟩ := Except.map_ok_iff.1 hb
    exact .some (h hxy ha' hb')

theorem optional_preserves_eq {dec : Decoder α} (h : Preserves Same Eq dec) :
    Preserves Same Eq (optional dec) :=
  (optional_preserves h).mono fun _ _ hab => by cases hab <;> simp_all

/-- Two lists related item by item are read item by item into related lists. -/
theorem mapM_forall₂ {γ δ : Type} {S : γ → δ → Prop} {R : α → β → Prop} {ε : Type}
    {f : γ → Except ε α} {g : δ → Except ε β}
    (hfg : ∀ ⦃x y a b⦄, S x y → f x = .ok a → g y = .ok b → R a b) :
    ∀ {xs ys as bs}, List.Forall₂ S xs ys → xs.mapM f = .ok as → ys.mapM g = .ok bs →
      List.Forall₂ R as bs := by
  intro xs ys as bs hxy ha hb
  rw [Except.mapM_eq_ok_iff] at ha hb
  induction hxy generalizing as bs with
  | nil => cases ha; cases hb; exact .nil
  | cons hs _ ih =>
    cases ha with
    | cons hx hrest =>
      cases hb with
      | cons hy hrest' => exact .cons (hfg hs hx hy) (ih hrest hrest')

theorem listOf_preserves {R : α → α → Prop} {dec : Decoder α} (h : Preserves Same R dec) :
    Preserves Same (List.Forall₂ R) (listOf dec) := by
  intro x y as bs hxy ha hb
  cases x <;> simp [listOf, mismatch] at ha
  obtain ⟨ys, rfl, hys⟩ := Document.same_arr_left hxy
  exact mapM_forall₂ h (Document.sameItems_iff_forall₂.1 hys) ha hb

theorem listOf_preserves_eq {dec : Decoder α} (h : Preserves Same Eq dec) :
    Preserves Same Eq (listOf dec) :=
  (listOf_preserves h).mono fun _ _ hab => List.forall₂_eq_eq_eq ▸ hab

theorem mapOf_preserves {R : α → α → Prop} {dec : Decoder α} (h : Preserves Same R dec) :
    Preserves Same (List.Forall₂ fun p q => p.1 = q.1 ∧ R p.2 q.2) (mapOf dec) := by
  intro x y as bs hxy ha hb
  cases x <;> simp [mapOf, mismatch] at ha
  obtain ⟨ys, rfl, hys⟩ := Document.same_obj_left hxy
  refine mapM_forall₂ ?_ (Document.sameFields_iff_forall₂.1 hys) ha hb
  rintro ⟨k, v⟩ ⟨k', v'⟩ ⟨ka, a⟩ ⟨kb, b⟩ ⟨hk, hv⟩ hpa hpb
  obtain ⟨a', ha', hpa⟩ := Except.map_ok_iff.1 hpa
  obtain ⟨b', hb', hpb⟩ := Except.map_ok_iff.1 hpb
  simp only [Prod.mk.injEq] at hk hpa hpb
  obtain ⟨rfl, rfl⟩ := hpa
  obtain ⟨rfl, rfl⟩ := hpb
  exact ⟨hk, h hv ha' hb'⟩

theorem mapOf_preserves_eq {dec : Decoder α} (h : Preserves Same Eq dec) :
    Preserves Same Eq (mapOf dec) :=
  (mapOf_preserves h).mono fun _ _ hab =>
    List.forall₂_eq_eq_eq ▸ hab.imp fun (_ _ : String × α) hpq => Prod.ext hpq.1 hpq.2

theorem pairOf_preserves {Ra : α → α → Prop} {Rb : β → β → Prop} {da : Decoder α}
    {db : Decoder β} (ha : Preserves Same Ra da) (hb : Preserves Same Rb db) :
    Preserves Same (fun p q => Ra p.1 q.1 ∧ Rb p.2 q.2) (pairOf da db) := by
  intro x y p q hxy hp hq
  cases x <;> simp [pairOf, mismatch] at hp
  obtain ⟨ys, rfl, hys⟩ := Document.same_arr_left hxy
  rw [Document.sameItems_iff_forall₂] at hys
  -- only a list of exactly two items decodes
  rcases hys with _ | ⟨h₁, _ | ⟨h₂, hrest⟩⟩
  · simp at hp
  · simp [Except.bind_eq_ok] at hp
  · simp only [pairOf, Except.bind_eq_ok] at hp hq
    obtain ⟨a, ha₁, b, hb₁, hp⟩ := hp
    obtain ⟨a', ha₂, b', hb₂, hq⟩ := hq
    cases hrest <;> simp at hp hq
    subst hp hq
    exact ⟨ha h₁ ha₁ ha₂, hb h₂ hb₁ hb₂⟩

theorem pairOf_preserves_eq {da : Decoder α} {db : Decoder β} (ha : Preserves Same Eq da)
    (hb : Preserves Same Eq db) : Preserves Same Eq (pairOf da db) :=
  (pairOf_preserves ha hb).mono fun _ _ h => Prod.ext h.1 h.2

theorem andThen_preserves {dec : Decoder α} (h : Preserves Same Eq dec)
    (f : α → Except String β) : Preserves Same Eq (Decoder.andThen dec f) := by
  intro x y a b hxy ha hb
  simp only [Decoder.andThen, Except.bind_eq_ok] at ha hb
  obtain ⟨u, hu, ha⟩ := ha
  obtain ⟨w, hw, hb⟩ := hb
  obtain rfl := h hxy hu hw
  split at ha <;> split at hb <;> simp_all

namespace Fields

/-- The values of the entries a field's names select, in entry order. -/
theorem hits_values (names : List String) (es : List (String × Document)) :
    (hits names es).map (·.2) = (es.filter fun e => names.contains e.1).map (·.2) := by
  suffices h : ∀ n, ((es.zipIdx n).filter fun x => decide (x.1.1 ∈ names)).map
      (fun x => x.1.2) = (es.filter fun e => decide (e.1 ∈ names)).map (·.2) by
    simpa [hits, List.map_map, Function.comp_def] using h 0
  induction es with
  | nil => simp
  | cons e es ih =>
    intro n
    obtain ⟨k, v⟩ := e
    by_cases hk : k ∈ names <;> simp [List.zipIdx_cons, hk, ih]

/-- What a field finds in two entry lists, as it reads them: nothing in either,
one value in each, related, or several in both (which it refuses). -/
def HitsMatch (S : Document → Document → Prop) : List Document → List Document → Prop
  | [], [] => True
  | [v], [v'] => S v v'
  | _ :: _ :: _, _ :: _ :: _ => True
  | _, _ => False

theorem HitsMatch.of_forall₂ {S : Document → Document → Prop} {vs vs' : List Document}
    (h : List.Forall₂ S vs vs') : HitsMatch S vs vs' := by
  rcases h with _ | ⟨hv, _ | ⟨_, _⟩⟩
  · trivial
  · exact hv
  · trivial

/-- Equal entry lists hold equal values under every name. -/
theorem hitsMatch_of_sameFields {es es' : List (String × Document)}
    (h : Document.sameFields es es' = true) (names : List String) :
    HitsMatch Same ((hits names es).map (·.2)) ((hits names es').map (·.2)) := by
  rw [hits_values, hits_values]
  apply HitsMatch.of_forall₂
  have h₂ := Document.sameFields_iff_forall₂.1 h
  clear h
  induction h₂ with
  | nil => exact .nil
  | cons hkv _ ih =>
    obtain ⟨hk, hv⟩ := hkv
    rw [List.filter_cons, List.filter_cons, hk]
    split
    · exact .cons hv ih
    · exact ih

/-- Entry lists related by `E` are read, whenever both are read, into values
related by `R`. -/
def MapPreserves (E : List (String × Document) → List (String × Document) → Prop)
    (R : α → α → Prop) (fs : Fields α) : Prop :=
  ∀ ⦃es es' : List (String × Document)⦄ ⦃base : Nat⦄ ⦃a b : α⦄,
    E es es' → fs.ofMap es base = .ok a → fs.ofMap es' base = .ok b → R a b

/-- Equal list items are read, whenever both are read, into related values,
leaving equal items over. -/
def SeqPreserves (R : α → α → Prop) (fs : Fields α) : Prop :=
  ∀ ⦃expected : String⦄ ⦃base : Nat⦄ ⦃items items' rest rest' : List Document⦄ ⦃a b : α⦄,
    Document.sameItems items items' = true → fs.ofSeq expected base items = .ok (a, rest) →
      fs.ofSeq expected base items' = .ok (b, rest') →
        R a b ∧ Document.sameItems rest rest' = true

/-- Fields that read equal documents alike, in both forms of a record. -/
structure Reads (R : α → α → Prop) (fs : Fields α) : Prop where
  ofMap : MapPreserves (fun es es' => Document.sameFields es es' = true) R fs
  ofSeq : SeqPreserves R fs

/-! ### How the combinators read -/

theorem seq_ofMap_eq_ok {f : Fields (α → β)} {x : Fields α} {es : List (String × Document)}
    {base : Nat} {b : β} :
    (f <*> x).ofMap es base = .ok b ↔
      ∃ g a, f.ofMap es base = .ok g ∧ x.ofMap es (base + f.count) = .ok a ∧ g a = b := by
  show (Ranked.both (f.ofMap es base) (x.ofMap es (base + f.count))).map _ = _ ↔ _
  cases f.ofMap es base <;> cases x.ofMap es (base + f.count) <;> simp [Ranked.both]

theorem seq_ofSeq_eq_ok {f : Fields (α → β)} {x : Fields α} {expected : String} {base : Nat}
    {items rest : List Document} {b : β} :
    (f <*> x).ofSeq expected base items = .ok (b, rest) ↔
      ∃ g rest₁ a, f.ofSeq expected base items = .ok (g, rest₁) ∧
        x.ofSeq expected (base + f.count) rest₁ = .ok (a, rest) ∧ g a = b := by
  show (Fields.seq f x).ofSeq expected base items = _ ↔ _
  simp only [Fields.seq, Except.bind_eq_ok, Except.pure_eq_ok, Prod.exists, Prod.mk.injEq]
  constructor
  · rintro ⟨g, rest₁, hf, a, rest₂, hx, rfl, rfl⟩
    exact ⟨g, rest₁, a, hf, hx, rfl⟩
  · rintro ⟨g, rest₁, a, hf, hx, rfl⟩
    exact ⟨g, rest₁, hf, a, rest, hx, rfl, rfl⟩

theorem field_ofMap_eq_ok {name : String} {aliases : List String} {absent : Absent α}
    {dec : Decoder α} {es : List (String × Document)} {base : Nat} {a : α} :
    (field name aliases absent dec).ofMap es base = .ok a ↔
      ((hits (name :: aliases) es).map (·.2) = [] ∧
          (absent = .optional a ∨ absent = .defaulted a)) ∨
        ∃ v, (hits (name :: aliases) es).map (·.2) = [v] ∧ dec v = .ok a := by
  simp only [field]
  rcases hits (name :: aliases) es with _ | ⟨⟨i, v⟩, _ | ⟨⟨j, w⟩, more⟩⟩
  · cases absent <;> simp [eq_comm]
  · cases hv : dec v <;> simp [hv]
  · cases hv : dec v <;> simp [hv]

theorem field_ofSeq_eq_ok {name : String} {aliases : List String} {absent : Absent α}
    {dec : Decoder α} {expected : String} {base : Nat} {items rest : List Document} {a : α} :
    (field name aliases absent dec).ofSeq expected base items = .ok (a, rest) ↔
      (items = [] ∧ rest = [] ∧ absent = .defaulted a) ∨
        ∃ v, items = v :: rest ∧ dec v = .ok a := by
  simp only [field]
  rcases items with _ | ⟨v, items⟩
  · cases absent <;> simp [eq_comm, and_comm]
  · cases hv : dec v <;> simp [Except.map, hv, and_comm, eq_comm]

/-! ### Preservation, combinator by combinator -/

section Preserve

variable {E : List (String × Document) → List (String × Document) → Prop}

theorem pure_mapPreserves {R : α → α → Prop} {a : α} (h : R a a) :
    MapPreserves E R (pure a) := by
  intro es es' base b c _ hb hc
  cases hb
  cases hc
  exact h

/-- The value of `f <*> x` applies `f`'s value to `x`'s, so related functions
applied to related values give related results. -/
theorem seq_mapPreserves {Rx : α → α → Prop} {R : β → β → Prop} {f : Fields (α → β)}
    {x : Fields α} (hf : MapPreserves E (fun g g' => ∀ a a', Rx a a' → R (g a) (g' a')) f)
    (hx : MapPreserves E Rx x) : MapPreserves E R (f <*> x) := by
  intro es es' base b c hE hb hc
  obtain ⟨g, a, hg, ha, rfl⟩ := seq_ofMap_eq_ok.1 hb
  obtain ⟨g', a', hg', ha', rfl⟩ := seq_ofMap_eq_ok.1 hc
  exact hf hE hg hg' a a' (hx hE ha ha')

theorem map_mapPreserves {Rx : α → α → Prop} {R : β → β → Prop} {g : α → β} {x : Fields α}
    (hx : MapPreserves E Rx x) (hg : ∀ a a', Rx a a' → R (g a) (g a')) :
    MapPreserves E R (g <$> x) :=
  seq_mapPreserves (pure_mapPreserves hg) hx

/-- A field reads what its names select: the default where there is nothing,
the decoded value where there is one entry. -/
theorem field_mapPreserves {S : Document → Document → Prop} {R : α → α → Prop}
    {name : String} {aliases : List String} {absent : Absent α} {dec : Decoder α}
    (hhits : ∀ ⦃es es'⦄, E es es' →
      HitsMatch S ((hits (name :: aliases) es).map (·.2)) ((hits (name :: aliases) es').map (·.2)))
    (hdec : Preserves S R dec)
    (hv : ∀ v, absent = .optional v ∨ absent = .defaulted v → R v v) :
    MapPreserves E R (field name aliases absent dec) := by
  intro es es' base a b hE ha hb
  have hm := hhits hE
  rw [field_ofMap_eq_ok] at ha hb
  rcases ha with ⟨hnil, habs⟩ | ⟨v, hone, hva⟩ <;> rcases hb with ⟨hnil', habs'⟩ | ⟨v', hone', hvb⟩
  · -- both read the default
    have hab : a = b := by
      rcases habs with rfl | rfl <;> rcases habs' with h | h <;> cases h <;> rfl
    subst hab
    exact hv a habs
  · rw [hnil, hone'] at hm
    exact hm.elim
  · rw [hone, hnil'] at hm
    exact hm.elim
  · rw [hone, hone'] at hm
    exact hdec hm hva hvb

theorem pure_seqPreserves {R : α → α → Prop} {a : α} (h : R a a) : SeqPreserves R (pure a) := by
  intro expected base items items' rest rest' b c hitems hb hc
  cases hb
  cases hc
  exact ⟨h, hitems⟩

theorem seq_seqPreserves {Rx : α → α → Prop} {R : β → β → Prop} {f : Fields (α → β)}
    {x : Fields α} (hf : SeqPreserves (fun g g' => ∀ a a', Rx a a' → R (g a) (g' a')) f)
    (hx : SeqPreserves Rx x) : SeqPreserves R (f <*> x) := by
  intro expected base items items' rest rest' b c hitems hb hc
  obtain ⟨g, rest₁, a, hg, ha, rfl⟩ := seq_ofSeq_eq_ok.1 hb
  obtain ⟨g', rest₁', a', hg', ha', rfl⟩ := seq_ofSeq_eq_ok.1 hc
  obtain ⟨hgg, hrest₁⟩ := hf hitems hg hg'
  obtain ⟨haa, hrest⟩ := hx hrest₁ ha ha'
  exact ⟨hgg a a' haa, hrest⟩

theorem field_seqPreserves {R : α → α → Prop} {name : String} {aliases : List String}
    {absent : Absent α} {dec : Decoder α} (hdec : Preserves Same R dec)
    (hv : ∀ v, absent = .defaulted v → R v v) :
    SeqPreserves R (field name aliases absent dec) := by
  intro expected base items items' rest rest' a b hitems ha hb
  rw [field_ofSeq_eq_ok] at ha hb
  rcases ha with ⟨rfl, rfl, habs⟩ | ⟨v, rfl, hva⟩
  · rcases hb with ⟨rfl, rfl, habs'⟩ | ⟨v', rfl, _⟩
    · rw [habs] at habs'
      cases habs'
      exact ⟨hv a habs, rfl⟩
    · simp [Document.sameItems] at hitems
  · rcases hb with ⟨rfl, rfl, _⟩ | ⟨v', rfl, hvb⟩
    · simp [Document.sameItems] at hitems
    · simp only [Document.sameItems, Bool.and_eq_true] at hitems
      exact ⟨hdec hitems.1 hva hvb, hitems.2⟩

/-- Any fields read any entry lists into values related by the relation that
relates everything. -/
theorem mapPreserves_true (fs : Fields α) : MapPreserves E (fun _ _ => True) fs :=
  fun _ _ _ _ _ _ _ _ => trivial

end Preserve

/-! ### Reading a revised mapping -/

section Revised

variable {P : Document.Change → Prop}

/-- A field none of whose names a revision may change reads the revised
mapping as it reads the original. -/
theorem field_mapPreserves_frozen {R : α → α → Prop} {name : String} {aliases : List String}
    {absent : Absent α} {dec : Decoder α}
    (hK : ∀ m ∈ name :: aliases, ∀ c : Document.Change, ¬P (c.within m))
    (hdec : Preserves Same R dec)
    (hv : ∀ v, absent = .optional v ∨ absent = .defaulted v → R v v) :
    MapPreserves (fun es es' => Document.Revised P (.obj es) (.obj es')) R
      (field name aliases absent dec) := by
  refine field_mapPreserves (fun es es' h => ?_) hdec hv
  rw [hits_values, hits_values]
  apply HitsMatch.of_forall₂
  rw [List.forall₂_map_left_iff, List.forall₂_map_right_iff]
  exact (Document.sameFields_iff_forall₂.1 (h.sameFields_filter hK)).imp fun _ _ hp => hp.2

theorem hits_single_values {es : List (String × Document)} (hnd : (es.map (·.1)).Nodup)
    (name : String) : (hits [name] es).map (·.2) = (es.lookup name).toList := by
  rw [hits_values]
  induction es with
  | nil => rfl
  | cons e es ih =>
    obtain ⟨k, v⟩ := e
    simp only [List.map_cons, List.nodup_cons, List.mem_map] at hnd
    by_cases hk : name = k
    · subst hk
      -- the key is not repeated further on
      have hrest : (es.filter fun e => [name].contains e.1) = [] :=
        List.filter_eq_nil_iff.2 fun e he hc => hnd.1 ⟨e, he, by simpa using hc⟩
      rw [List.filter_cons_of_pos (by simp), List.map_cons, hrest]
      simp
    · rw [List.filter_cons, List.lookup_cons, beq_false_of_ne hk]
      have hk' : ([name].contains k) = false := by simpa using Ne.symm hk
      simp only [hk', Bool.false_eq_true, if_false]
      exact ih hnd.2

/-- A field of one name, which a revision neither adds nor removes, reads the
revised value of that name. -/
theorem field_mapPreserves_revised {R : α → α → Prop} {name : String} {absent : Absent α}
    {dec : Decoder α}
    (hadd : ∀ v, ¬P ⟨[name], none, some v⟩) (hrem : ∀ v, ¬P ⟨[name], some v, none⟩)
    (hdec : Preserves (Document.Revised fun c => P (c.within name)) R dec)
    (hv : ∀ v, absent = .optional v ∨ absent = .defaulted v → R v v) :
    MapPreserves (fun es es' => Document.Revised P (.obj es) (.obj es')) R
      (field name [] absent dec) := by
  refine field_mapPreserves (fun es es' h => ?_) hdec hv
  rw [hits_single_values (Document.isNormal_obj.1 h.normal).1.nodup,
    hits_single_values (Document.isNormal_obj.1 h.normal').1.nodup]
  cases hx : es.lookup name with
  | none =>
    cases hy : es'.lookup name with
    | none => trivial
    | some y => exact hadd y (h.changes.addition hx hy)
  | some x =>
    cases hy : es'.lookup name with
    | none => exact hrem x (h.changes.removal hx hy)
    | some y => exact h.atKey hx hy

theorem req_mapPreserves_frozen {R : α → α → Prop} {name : String} {dec : Decoder α}
    (hK : ∀ c : Document.Change, ¬P (c.within name)) (hdec : Preserves Same R dec) :
    MapPreserves (fun es es' => Document.Revised P (.obj es) (.obj es')) R (req name dec) :=
  field_mapPreserves_frozen (fun m hm => by rw [List.mem_singleton.1 hm]; exact hK) hdec
    fun _ h => by rcases h with h | h <;> cases h

theorem dflt_mapPreserves_frozen {R : α → α → Prop} {name : String} {v : α} {dec : Decoder α}
    (hK : ∀ c : Document.Change, ¬P (c.within name)) (hdec : Preserves Same R dec) (hv : R v v) :
    MapPreserves (fun es es' => Document.Revised P (.obj es) (.obj es')) R (dflt name v dec) :=
  field_mapPreserves_frozen (fun m hm => by rw [List.mem_singleton.1 hm]; exact hK) hdec
    fun _ h => by rcases h with h | h <;> cases h; exact hv

theorem req_mapPreserves_revised {R : α → α → Prop} {name : String} {dec : Decoder α}
    (hadd : ∀ v, ¬P ⟨[name], none, some v⟩) (hrem : ∀ v, ¬P ⟨[name], some v, none⟩)
    (hdec : Preserves (Document.Revised fun c => P (c.within name)) R dec) :
    MapPreserves (fun es es' => Document.Revised P (.obj es) (.obj es')) R (req name dec) :=
  field_mapPreserves_revised hadd hrem hdec fun _ h => by rcases h with h | h <;> cases h

theorem dflt_mapPreserves_revised {R : α → α → Prop} {name : String} {v : α} {dec : Decoder α}
    (hadd : ∀ v, ¬P ⟨[name], none, some v⟩) (hrem : ∀ v, ¬P ⟨[name], some v, none⟩)
    (hdec : Preserves (Document.Revised fun c => P (c.within name)) R dec) (hv : R v v) :
    MapPreserves (fun es es' => Document.Revised P (.obj es) (.obj es')) R (dflt name v dec) :=
  field_mapPreserves_revised hadd hrem hdec fun _ h => by rcases h with h | h <;> cases h; exact hv

end Revised

/-- What the fields of a record preserve, the record preserves between
mappings. -/
theorem MapPreserves.record {E : List (String × Document) → List (String × Document) → Prop}
    {R : α → α → Prop} {fs : Fields α} (h : MapPreserves E R fs) {name : String}
    {es es' : List (String × Document)} {a b : α} (hE : E es es')
    (ha : Decode.record name fs (.obj es) = .ok a) (hb : Decode.record name fs (.obj es') = .ok b) :
    R a b := by
  simp only [Decode.record, Except.mapError_eq_ok] at ha hb
  exact h hE ha hb

namespace Reads

theorem pure {R : α → α → Prop} {a : α} (h : R a a) : Reads R (pure a) :=
  ⟨pure_mapPreserves h, pure_seqPreserves h⟩

theorem seq {Rx : α → α → Prop} {R : β → β → Prop} {f : Fields (α → β)} {x : Fields α}
    (hf : Reads (fun g g' => ∀ a a', Rx a a' → R (g a) (g' a')) f) (hx : Reads Rx x) :
    Reads R (f <*> x) :=
  ⟨seq_mapPreserves hf.ofMap hx.ofMap, seq_seqPreserves hf.ofSeq hx.ofSeq⟩

theorem map {Rx : α → α → Prop} {R : β → β → Prop} {g : α → β} {x : Fields α}
    (hx : Reads Rx x) (hg : ∀ a a', Rx a a' → R (g a) (g a')) : Reads R (g <$> x) :=
  seq (pure hg) hx

theorem field {R : α → α → Prop} {name : String} {aliases : List String} {absent : Absent α}
    {dec : Decoder α} (hdec : Preserves Same R dec)
    (hv : ∀ v, absent = .optional v ∨ absent = .defaulted v → R v v) :
    Reads R (Fields.field name aliases absent dec) :=
  ⟨field_mapPreserves (fun _ _ h => hitsMatch_of_sameFields h _) hdec hv,
    field_seqPreserves hdec fun v h => hv v (.inr h)⟩

theorem req {R : α → α → Prop} {name : String} {dec : Decoder α} (hdec : Preserves Same R dec) :
    Reads R (Fields.req name dec) :=
  field hdec fun _ h => by rcases h with h | h <;> cases h

theorem dflt {R : α → α → Prop} {name : String} {v : α} {dec : Decoder α}
    (hdec : Preserves Same R dec) (hv : R v v) : Reads R (Fields.dflt name v dec) :=
  field hdec fun _ h => by rcases h with h | h <;> cases h; exact hv

end Reads

end Fields

theorem record_obj_eq_ok {name : String} {fs : Fields α} {es : List (String × Document)} {a : α} :
    record name fs (.obj es) = .ok a ↔ fs.ofMap es 0 = .ok a := by
  simp [record]

/-- A record reads equal documents alike when its fields do. -/
theorem record_preserves {R : α → α → Prop} {name : String} {fs : Fields α}
    (h : Fields.Reads R fs) : Preserves Same R (record name fs) := by
  intro x y a b hxy ha hb
  cases x with
  | obj es =>
    obtain ⟨es', rfl, hes⟩ := Document.same_obj_left hxy
    exact h.ofMap hes (record_obj_eq_ok.1 ha) (record_obj_eq_ok.1 hb)
  | arr items =>
    obtain ⟨items', rfl, hitems⟩ := Document.same_arr_left hxy
    simp only [record, Except.bind_eq_ok, Prod.exists] at ha hb
    obtain ⟨a', rest, ha', hfin⟩ := ha
    obtain ⟨b', rest', hb', hfin'⟩ := hb
    split at hfin <;> split at hfin' <;> simp at hfin hfin'
    subst hfin hfin'
    exact (h.ofSeq hitems ha' hb').1
  | _ => simp [record, mismatch] at ha

/-- A record read from a revision: where the revision leaves the whole document
as it was, the record is read as before, and where both are mappings, its
fields tell what may differ. -/
theorem record_preserves_revised {P : Document.Change → Prop} {R : α → α → Prop} {name : String}
    {fs : Fields α} (hroot : ∀ x y, ¬P ⟨[], some x, some y⟩)
    (hsame : Preserves Same Eq (record name fs)) (hrefl : ∀ a, R a a)
    (hmap : Fields.MapPreserves (fun es es' => Document.Revised P (.obj es) (.obj es')) R fs) :
    Preserves (Document.Revised P) R (record name fs) := by
  intro x y a b h ha hb
  cases x with
  | obj es =>
    cases y with
    | obj es' => exact hmap.record h ha hb
    | _ =>
      obtain rfl := hsame (h.changes.same_of_root (by simp [Document.isObj]) (hroot _ _)) ha hb
      exact hrefl a
  | _ =>
    obtain rfl := hsame (h.changes.same_of_root (by simp [Document.isObj]) (hroot _ _)) ha hb
    exact hrefl a

/-- A mapping decoded entry by entry holds, under each key, the value decoded
from the document under that key. -/
theorem mapOf_lookup {dec : Decoder α} {fs : List (String × Document)}
    {as : List (String × α)} (h : mapOf dec (.obj fs) = .ok as) (k : String) :
    Option.Rel (fun v a => dec v = .ok a) (fs.lookup k) (as.lookup k) := by
  simp only [mapOf] at h
  rw [Except.mapM_eq_ok_iff] at h
  induction h with
  | nil => exact .none
  | @cons e p _ _ he _ ih =>
    obtain ⟨k', v⟩ := e
    obtain ⟨a, ha, rfl⟩ := Except.map_ok_iff.1 he
    rw [List.lookup_cons, List.lookup_cons]
    cases k == k'
    · exact ih
    · exact .some ha

/-- A mapping is read entry by entry, each key kept with its decoded value. -/
theorem mapOf_forall₂ {dec : Decoder α} {fs : List (String × Document)}
    {as : List (String × α)} (h : mapOf dec (.obj fs) = .ok as) :
    List.Forall₂ (fun e a => e.1 = a.1 ∧ dec e.2 = .ok a.2) fs as := by
  simp only [mapOf] at h
  rw [Except.mapM_eq_ok_iff] at h
  refine h.imp fun e a he => ?_
  obtain ⟨b, hb, rfl⟩ := Except.map_ok_iff.1 he
  exact ⟨rfl, hb⟩

/-- Relations that hold item by item compose item by item. -/
theorem forall₂_trans {γ : Type} {R : α → β → Prop} {S : β → γ → Prop} {T : α → γ → Prop}
    (h : ∀ a b c, R a b → S b c → T a c) :
    ∀ {l₁ : List α} {l₂ : List β} {l₃ : List γ}, List.Forall₂ R l₁ l₂ → List.Forall₂ S l₂ l₃ →
      List.Forall₂ T l₁ l₃
  | _, _, _, .nil, .nil => .nil
  | _, _, _, .cons hab h₁, .cons hbc h₂ => .cons (h _ _ _ hab hbc) (forall₂_trans h h₁ h₂)

/-- Entry lists related entry by entry, under equal keys, have the same keys. -/
theorem keys_eq_of_forall₂ {γ : Type} {R : String × α → String × γ → Prop}
    (hR : ∀ e e', R e e' → e.1 = e'.1) :
    ∀ {l : List (String × α)} {l' : List (String × γ)}, List.Forall₂ R l l' →
      l.map (·.1) = l'.map (·.1)
  | _, _, .nil => rfl
  | _, _, .cons h hs => by simp [hR _ _ h, keys_eq_of_forall₂ hR hs]

end Decode
end Geocube
