import Geocube.Proofs.Decode.Congruence
import Geocube.Proofs.Document.Pairs

/-!
What decoders read.

Two kinds of statement about decoders built from the combinators.

`Fields.ReadsAs es a fs` says that the fields `fs` read the entries `es` of a
mapping as the value `a`. A record is read field by field, so it is enough that
each field reads its own entry (`ReadsAs.seq`): a field whose names select one
entry decodes that entry (`ReadsAs.field_one`), and one whose names select none
gives its default (`ReadsAs.field_none`). In a mapping that holds each key once,
what a field's names select is the entry of its name (`hits_eq_lookup`).

`OnNormal Q dec` says that every value `dec` reads from a normal document has
`Q`. A field reads one entry of a mapping or one item of a list, and those are
normal when the whole is; so a record has `Q` when each of its fields passes on
what it needs (`Fields.OnNormal.seq`, `Fields.OnNormal.field`). A mapping read
entry by entry keeps the keys of the mapping, which a normal document holds in
increasing order (`OnNormal.mapOf`).
-/

namespace Geocube
namespace Decode

variable {α β : Type}

/-! ## Reading given entries -/

namespace Fields

/-- The fields `fs` read the entries `es` as `a`, from any starting index. -/
def ReadsAs (es : List (String × Document)) (a : α) (fs : Fields α) : Prop :=
  ∀ base, fs.ofMap es base = .ok a

namespace ReadsAs

variable {es : List (String × Document)}

theorem pure (a : α) : ReadsAs es a (Pure.pure a : Fields α) := fun _ => rfl

theorem seq {f : Fields (α → β)} {x : Fields α} {g : α → β} {a : α} (hf : ReadsAs es g f)
    (hx : ReadsAs es a x) : ReadsAs es (g a) (f <*> x) :=
  fun base => seq_ofMap_eq_ok.2 ⟨g, a, hf base, hx (base + f.count), rfl⟩

theorem map {x : Fields α} {a : α} (g : α → β) (hx : ReadsAs es a x) : ReadsAs es (g a) (g <$> x) :=
  (ReadsAs.pure g).seq hx

/-- A field whose names select one entry reads that entry. -/
theorem field_one {name : String} {aliases : List String} {absent : Absent α} {dec : Decoder α}
    {v : Document} {a : α} (hv : (hits (name :: aliases) es).map (·.2) = [v])
    (ha : dec v = .ok a) : ReadsAs es a (field name aliases absent dec) :=
  fun _ => field_ofMap_eq_ok.2 (.inr ⟨v, hv, ha⟩)

/-- A field whose names select nothing reads its default. -/
theorem field_none {name : String} {aliases : List String} {dec : Decoder α} {a : α}
    (hv : (hits (name :: aliases) es).map (·.2) = []) :
    ReadsAs es a (field name aliases (.defaulted a) dec) :=
  fun _ => field_ofMap_eq_ok.2 (.inl ⟨hv, .inr rfl⟩)

theorem record {fs : Fields α} {a : α} (h : ReadsAs es a fs) (name : String) :
    Decode.record name fs (.obj es) = .ok a :=
  record_obj_eq_ok.2 (h 0)

end ReadsAs

/-- In a mapping that holds each key once, names of which only the first is a
key select the entry of that key. -/
theorem hits_eq_lookup {es : List (String × Document)} (hnd : (Document.keys es).Nodup)
    {name : String} {aliases : List String} (hal : ∀ n ∈ aliases, es.lookup n = none) :
    (hits (name :: aliases) es).map (·.2) = (es.lookup name).toList := by
  -- no entry has an alias for its key, so the aliases select nothing
  have hsel : es.filter (fun e => (name :: aliases).contains e.1) =
      es.filter (fun e => [name].contains e.1) := by
    refine List.filter_congr fun e he => ?_
    have hal' : e.1 ∉ aliases := fun hmem => by
      have hkey : (es.lookup e.1).isSome := Document.lookup_isSome_iff_mem_keys.2
        (List.mem_map_of_mem he)
      rw [hal e.1 hmem] at hkey
      cases hkey
    simp [hal']
  rw [hits_values, hsel, ← hits_values, hits_single_values hnd]

end Fields

/-! ## Reading normal documents -/

/-- Every value `dec` reads from a normal document has `Q`. -/
def OnNormal (Q : α → Prop) (dec : Decoder α) : Prop :=
  ∀ ⦃d : Document⦄ ⦃a : α⦄, d.isNormal = true → dec d = .ok a → Q a

namespace Fields

/-- Every value `fs` reads from the entries of a normal mapping, or from normal
list items, has `Q`; the items it leaves are normal too. -/
structure OnNormal (Q : α → Prop) (fs : Fields α) : Prop where
  ofMap : ∀ ⦃es : List (String × Document)⦄ ⦃base : Nat⦄ ⦃a : α⦄,
    Document.fieldsNormal es = true → fs.ofMap es base = .ok a → Q a
  ofSeq : ∀ ⦃expected : String⦄ ⦃base : Nat⦄ ⦃items rest : List Document⦄ ⦃a : α⦄,
    Document.itemsNormal items = true → fs.ofSeq expected base items = .ok (a, rest) →
      Q a ∧ Document.itemsNormal rest = true

namespace OnNormal

theorem pure {Q : α → Prop} {a : α} (h : Q a) : OnNormal Q (Pure.pure a : Fields α) where
  ofMap _ _ _ _ ha := by
    cases ha
    exact h
  ofSeq _ _ _ _ _ hitems ha := by
    cases ha
    exact ⟨h, hitems⟩

theorem seq {Qx : α → Prop} {Q : β → Prop} {f : Fields (α → β)} {x : Fields α}
    (hf : OnNormal (fun g => ∀ a, Qx a → Q (g a)) f) (hx : OnNormal Qx x) : OnNormal Q (f <*> x) where
  ofMap es base b hes hb := by
    obtain ⟨g, a, hg, ha, rfl⟩ := seq_ofMap_eq_ok.1 hb
    exact hf.ofMap hes hg a (hx.ofMap hes ha)
  ofSeq expected base items rest b hitems hb := by
    obtain ⟨g, rest₁, a, hg, ha, rfl⟩ := seq_ofSeq_eq_ok.1 hb
    obtain ⟨hgQ, hrest₁⟩ := hf.ofSeq hitems hg
    obtain ⟨haQ, hrest⟩ := hx.ofSeq hrest₁ ha
    exact ⟨hgQ a haQ, hrest⟩

theorem map {Qx : α → Prop} {Q : β → Prop} {g : α → β} {x : Fields α} (hx : OnNormal Qx x)
    (hg : ∀ a, Qx a → Q (g a)) : OnNormal Q (g <$> x) :=
  seq (pure hg) hx

/-- The value a field's names select in a mapping is the value of one of its
entries. -/
theorem mem_of_hits {names : List String} {es : List (String × Document)} {v : Document}
    (h : (hits names es).map (·.2) = [v]) : ∃ k, (k, v) ∈ es := by
  rw [hits_values] at h
  have hv : v ∈ (es.filter fun e => names.contains e.1).map (·.2) := by
    rw [h]
    exact List.mem_singleton_self v
  obtain ⟨⟨k, v'⟩, hmem, rfl⟩ := List.mem_map.1 hv
  exact ⟨k, (List.mem_filter.1 hmem).1⟩

/-- A field reads one entry or one item, or gives its default: it has `Q` when
its decoder has `Q` on normal documents and its default has `Q`. -/
theorem field {Q : α → Prop} {name : String} {aliases : List String} {absent : Absent α}
    {dec : Decoder α} (hdec : Decode.OnNormal Q dec)
    (hv : ∀ v, absent = .optional v ∨ absent = .defaulted v → Q v) :
    OnNormal Q (Fields.field name aliases absent dec) where
  ofMap es base a hes ha := by
    rcases field_ofMap_eq_ok.1 ha with ⟨-, habs⟩ | ⟨v, hone, hva⟩
    · exact hv a habs
    · obtain ⟨k, hmem⟩ := mem_of_hits hone
      exact hdec (Document.isNormal_of_mem_fields hes hmem) hva
  ofSeq expected base items rest a hitems ha := by
    rcases field_ofSeq_eq_ok.1 ha with ⟨-, rfl, habs⟩ | ⟨v, rfl, hva⟩
    · exact ⟨hv a (.inr habs), rfl⟩
    · simp only [Document.itemsNormal, Bool.and_eq_true] at hitems
      exact ⟨hdec hitems.1 hva, hitems.2⟩

/-- A field whose value is not looked at. -/
theorem any (name : String) (aliases : List String) (absent : Absent α) (dec : Decoder α) :
    OnNormal (fun _ => True) (Fields.field name aliases absent dec) :=
  field (fun _ _ _ _ => trivial) fun _ _ => trivial

end OnNormal

end Fields

namespace OnNormal

theorem of_forall {Q : α → Prop} {dec : Decoder α} (h : ∀ ⦃d a⦄, dec d = .ok a → Q a) :
    OnNormal Q dec :=
  fun _ _ _ ha => h ha

/-- A record has what its fields give it. -/
theorem record {Q : α → Prop} {fs : Fields α} (h : Fields.OnNormal Q fs) (name : String) :
    OnNormal Q (Decode.record name fs) := by
  intro d a hd ha
  cases d with
  | obj es =>
    exact h.ofMap (Document.isNormal_obj.1 hd).2 (record_obj_eq_ok.1 ha)
  | arr items =>
    simp only [Decode.record, Except.bind_eq_ok, Prod.exists] at ha
    obtain ⟨a', rest, ha', hfin⟩ := ha
    split at hfin
    · cases hfin
      exact (h.ofSeq (by simpa [Document.isNormal] using hd) ha').1
    · cases hfin
  | _ => simp [Decode.record, mismatch] at ha

/-- A mapping read entry by entry keeps the mapping's keys, in increasing order
when the mapping is normal. -/
theorem mapOf {Q : α → Prop} {dec : Decoder α} (h : OnNormal Q dec) :
    OnNormal (fun l => (l.map (·.1)).Pairwise (· < ·) ∧ ∀ e ∈ l, Q e.2) (mapOf dec) := by
  intro d l hd hl
  cases d with
  | obj fs =>
    obtain ⟨hsorted, hfs⟩ := Document.isNormal_obj.1 hd
    have h₂ := mapOf_forall₂ hl
    clear hd hl
    have hkeys : fs.map (·.1) = l.map (·.1) := by
      clear hsorted hfs
      induction h₂ with
      | nil => rfl
      | cons he _ ih => simp [he.1, ih]
    refine ⟨hkeys ▸ hsorted, ?_⟩
    clear hsorted hkeys
    -- each value read comes from the value of its entry
    induction h₂ with
    | nil => simp
    | @cons e a fs' l' hea _ ih =>
      obtain ⟨k, v⟩ := e
      simp only [Document.fieldsNormal, Bool.and_eq_true] at hfs
      intro x hx
      rcases List.mem_cons.1 hx with rfl | hx
      · exact h hfs.1 hea.2
      · exact ih hfs.2 x hx
  | _ => simp [Decode.mapOf, mismatch] at hl

end OnNormal

end Decode
end Geocube
