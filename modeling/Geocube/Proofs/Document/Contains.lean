import Geocube.Proofs.Binary64.Bits
import Geocube.Proofs.Document.Pairs

/-!
Templates: what `Document.contains` asks of a document.

A template mapping asks for each of its keys, with a value that contains the
template's value there; a template list asks for a list of the same length,
item by item; a number asks for a number equal to it as a double; any other
template asks for an equal value (`contains_obj`, `contains_arr`,
`contains_number`, `contains_plain`).

Containment is a preorder on the values of the data format: every value
contains itself (`contains_self`; numbers compare as doubles, and no number of
the format is NaN) and containment is transitive (`contains_trans`, for every
document, NaN included, since NaN contains nothing). A document whose mappings
gain entries, at any depth, keeps every template it contained
(`contains_of_extends`); `Document.set` adds an entry in that way
(`extends_set`).
-/

namespace Geocube
namespace Document

/-! ## Values of the data format -/

mutual

/-- Whether every double in a document is finite, as every number of the data
format is. -/
def finiteNumbers : Document → Bool
  | .float x => x.isFinite
  | .arr xs => itemsFinite xs
  | .obj fs => fieldsFinite fs
  | _ => true

def itemsFinite : List Document → Bool
  | [] => true
  | x :: xs => finiteNumbers x && itemsFinite xs

def fieldsFinite : List (String × Document) → Bool
  | [] => true
  | (_, x) :: xs => finiteNumbers x && fieldsFinite xs

end

/-- A value of the data format: every mapping holds its keys once, in key
order, and every double is finite. -/
def IsJson (d : Document) : Prop := d.isNormal = true ∧ d.finiteNumbers = true

instance (d : Document) : Decidable d.IsJson := inferInstanceAs (Decidable (_ ∧ _))

/-! ## Numbers and other values in templates -/

/-- A number template holds exactly the documents that are numbers equal to it
as doubles. -/
theorem contains_number {d t : Document} {y : Float} (ht : t.asF64? = some y) :
    d.contains t = true ↔ ∃ x, d.asF64? = some x ∧ (x == y) = true := by
  have hnum : ∀ x, d.asF64? = some x → d.contains t = (x == y) := by
    intro x hx
    cases t <;> simp_all [asF64?, contains, sameNumber]
  cases hd : d.asF64? with
  | some x => simp [hnum x hd]
  | none =>
    simp only [reduceCtorEq, false_and, exists_false, iff_false, Bool.not_eq_true]
    cases t <;> cases d <;> simp_all [asF64?, contains, sameNumber, same]

/-- Any other template that is neither a mapping nor a list holds exactly the
documents equal to it. -/
theorem contains_plain {d t : Document} (ht : t.asF64? = none) (harr : ∀ ts, t ≠ .arr ts)
    (hobj : ∀ ts, t ≠ .obj ts) : d.contains t = same t d := by
  cases t <;> simp_all [asF64?, contains, sameNumber]

theorem eq_of_same_plain {d t : Document} (ht : t.asF64? = none) (harr : ∀ ts, t ≠ .arr ts)
    (hobj : ∀ ts, t ≠ .obj ts) (h : same t d = true) : d = t := by
  cases t with
  | null => exact same_null_left h
  | bool _ => exact same_bool_left h
  | str _ => exact same_str_left h
  | int _ | float _ => simp [asF64?] at ht
  | arr ts => exact absurd rfl (harr ts)
  | obj ts => exact absurd rfl (hobj ts)

theorem contains_obj {d : Document} {ts : List (String × Document)} :
    d.contains (.obj ts) = true ↔ ∃ fs, d = .obj fs ∧ containsFields fs ts = true := by
  cases d <;> simp [contains]

theorem contains_arr {d : Document} {ts : List Document} :
    d.contains (.arr ts) = true ↔
      ∃ xs, d = .arr xs ∧ xs.length = ts.length ∧ containsItems xs ts = true := by
  cases d <;> simp [contains]

/-- A template mapping asks for each of its entries: the key is present and its
value contains the entry's value. -/
theorem containsFields_iff {fs ts : List (String × Document)} :
    containsFields fs ts = true ↔
      ∀ e ∈ ts, ∃ v, fs.lookup e.1 = some v ∧ v.contains e.2 = true := by
  induction ts with
  | nil => simp [containsFields]
  | cons e ts ih =>
    simp only [containsFields, Bool.and_eq_true, List.forall_mem_cons, ih]
    cases fs.lookup e.1 <;> simp

/-! ## Containment is a preorder -/

mutual

theorem contains_trans : ∀ {a b c : Document}, a.contains b = true → b.contains c = true →
    a.contains c = true
  | _, _, .obj _, hab, hbc => by
    obtain ⟨bs, rfl, hbc⟩ := contains_obj.1 hbc
    obtain ⟨as, rfl, hab⟩ := contains_obj.1 hab
    exact contains_obj.2 ⟨as, rfl, containsFields_trans hab hbc⟩
  | _, _, .arr _, hab, hbc => by
    obtain ⟨bs, rfl, hlb, hbc⟩ := contains_arr.1 hbc
    obtain ⟨as, rfl, hla, hab⟩ := contains_arr.1 hab
    exact contains_arr.2 ⟨as, rfl, hla.trans hlb, containsItems_trans hla hlb hab hbc⟩
  | _, _, .int _, hab, hbc | _, _, .float _, hab, hbc => by
    obtain ⟨y, hy, hyz⟩ := (contains_number rfl).1 hbc
    obtain ⟨x, hx, hxy⟩ := (contains_number hy).1 hab
    exact (contains_number rfl).2 ⟨x, hx, Binary64.beq_trans hxy hyz⟩
  | _, _, .null, hab, hbc | _, _, .bool _, hab, hbc | _, _, .str _, hab, hbc => by
    rw [contains_plain rfl (by simp) (by simp)] at hbc
    rwa [eq_of_same_plain rfl (by simp) (by simp) hbc] at hab
termination_by structural _ _ c => c

theorem containsFields_trans : ∀ {as bs cs : List (String × Document)},
    containsFields as bs = true → containsFields bs cs = true → containsFields as cs = true
  | _, _, [], _, _ => rfl
  | as, bs, (k, t) :: cs, hab, hbc => by
    simp only [containsFields, Bool.and_eq_true] at hbc ⊢
    refine ⟨?_, containsFields_trans hab hbc.2⟩
    cases hvb : bs.lookup k with
    | none => simp [hvb] at hbc
    | some vb =>
      simp only [hvb] at hbc
      obtain ⟨va, hva, hab'⟩ := containsFields_iff.1 hab _ (mem_of_lookup_eq_some hvb)
      simp only [hva]
      exact contains_trans hab' hbc.1
termination_by structural _ _ cs => cs

theorem containsItems_trans : ∀ {as bs cs : List Document}, as.length = bs.length →
    bs.length = cs.length → containsItems as bs = true → containsItems bs cs = true →
    containsItems as cs = true
  | [], [], [], _, _, _, _ => rfl
  | _ :: _, _ :: _, _ :: _, hab, hbc, h1, h2 => by
    simp only [containsItems, Bool.and_eq_true, List.length_cons, Nat.add_right_cancel_iff]
      at hab hbc h1 h2 ⊢
    exact ⟨contains_trans h1.1 h2.1, containsItems_trans hab hbc h1.2 h2.2⟩
  | [], _ :: _, _, hab, _, _, _ | _ :: _, [], _, hab, _, _, _ => by simp at hab
  | _, [], _ :: _, _, hbc, _, _ | _, _ :: _, [], _, hbc, _, _ => by simp at hbc
termination_by structural _ _ cs => cs

end

mutual

/-- Every value of the data format contains itself. -/
theorem contains_self : ∀ {d : Document}, d.isNormal = true → d.finiteNumbers = true →
    d.contains d = true
  | .obj fs, hn, hf => by
    obtain ⟨hkeys, hn⟩ := isNormal_obj.1 hn
    have hl : ∀ e ∈ fs, fs.lookup e.1 = some e.2 := fun e he =>
      lookup_eq_some_of_mem hkeys.nodup he
    exact contains_obj.2 ⟨fs, rfl, containsFields_self_of fs hl hn hf⟩
  | .arr xs, hn, hf => contains_arr.2 ⟨xs, rfl, rfl, containsItems_self hn hf⟩
  | .int i, _, _ => (contains_number rfl).2 ⟨_, rfl, Binary64.beq_self_of_not_isNaN
      (Binary64.ofInt_isNaN i)⟩
  | .float x, _, hf => (contains_number rfl).2 ⟨_, rfl, Binary64.beq_self_of_not_isNaN
      (Binary64.isNaN_of_isFinite hf)⟩
  | .null, _, _ | .bool _, _, _ | .str _, _, _ => by
    rw [contains_plain rfl (by simp) (by simp)]
    simp [same]
termination_by structural d => d

theorem containsFields_self_of (fs : List (String × Document)) : ∀ {ts : List (String × Document)},
    (∀ e ∈ ts, fs.lookup e.1 = some e.2) → fieldsNormal ts = true → fieldsFinite ts = true →
    containsFields fs ts = true
  | [], _, _, _ => rfl
  | (k, t) :: ts, hl, hn, hf => by
    simp only [fieldsNormal, fieldsFinite, Bool.and_eq_true, List.forall_mem_cons] at hl hn hf
    simp only [containsFields, hl.1, Bool.and_eq_true]
    exact ⟨contains_self hn.1 hf.1, containsFields_self_of fs hl.2 hn.2 hf.2⟩
termination_by structural ts => ts

theorem containsItems_self : ∀ {xs : List Document}, itemsNormal xs = true →
    itemsFinite xs = true → containsItems xs xs = true
  | [], _, _ => rfl
  | _ :: _, hn, hf => by
    simp only [itemsNormal, itemsFinite, Bool.and_eq_true] at hn hf
    simp only [containsItems, Bool.and_eq_true]
    exact ⟨contains_self hn.1 hf.1, containsItems_self hn.2 hf.2⟩
termination_by structural xs => xs

end

/-! ## Adding entries keeps what a template finds -/

mutual

/-- A document with entries added to its mappings, at any depth: every entry of
a mapping is kept under its key, with a value that extends it; a list keeps its
length and extends item by item; any other value stays as it is. -/
def Extends : Document → Document → Prop
  | .obj fs, .obj fs' => FieldsExtend fs fs'
  | .arr xs, .arr ys => ItemsExtend xs ys
  | .obj _, _ | .arr _, _ => False
  | d, d' => d' = d

def ItemsExtend : List Document → List Document → Prop
  | [], [] => True
  | x :: xs, y :: ys => Extends x y ∧ ItemsExtend xs ys
  | _, _ => False

def FieldsExtend : List (String × Document) → List (String × Document) → Prop
  | [], _ => True
  | (k, v) :: fs, fs' => (∃ v', fs'.lookup k = some v' ∧ Extends v v') ∧ FieldsExtend fs fs'

end

theorem fieldsExtend_iff {fs fs' : List (String × Document)} :
    FieldsExtend fs fs' ↔ ∀ e ∈ fs, ∃ v', fs'.lookup e.1 = some v' ∧ e.2.Extends v' := by
  induction fs with
  | nil => simp [FieldsExtend]
  | cons e fs ih => simp only [FieldsExtend, List.forall_mem_cons, ih]

theorem FieldsExtend.lookup {fs fs' : List (String × Document)} (h : FieldsExtend fs fs') {k : String}
    {v : Document} (hv : (k, v) ∈ fs) : ∃ v', fs'.lookup k = some v' ∧ v.Extends v' :=
  fieldsExtend_iff.1 h _ hv

theorem ItemsExtend.length_eq : ∀ {xs ys : List Document}, ItemsExtend xs ys → xs.length = ys.length
  | [], [], _ => rfl
  | _ :: _, _ :: _, h => by simp [ItemsExtend.length_eq h.2]
  | [], _ :: _, h | _ :: _, [], h => by simp [ItemsExtend] at h

/-- Only mappings and lists grow: any other value extends to itself alone. -/
theorem Extends.eq_of_number {d d' : Document} {x : Float} (h : d.Extends d')
    (hx : d.asF64? = some x) : d' = d := by
  cases d <;> simp_all [asF64?, Extends]

theorem Extends.eq_of_plain {d d' : Document} (h : d.Extends d') (hd : d.asF64? = none)
    (harr : ∀ xs, d ≠ .arr xs) (hobj : ∀ fs, d ≠ .obj fs) : d' = d := by
  cases d <;> simp_all [asF64?, Extends]

mutual

/-- Adding entries to a document's mappings keeps every template it contains. -/
theorem contains_of_extends : ∀ {t d d' : Document}, d.Extends d' → d.contains t = true →
    d'.contains t = true
  | .obj _, _, d', hext, h => by
    obtain ⟨fs, rfl, h⟩ := contains_obj.1 h
    cases d' with
    | obj fs' => exact contains_obj.2 ⟨fs', rfl, containsFields_of_extends hext h⟩
    | _ => simp [Extends] at hext
  | .arr _, _, d', hext, h => by
    obtain ⟨xs, rfl, hl, h⟩ := contains_arr.1 h
    cases d' with
    | arr ys =>
      have hl' := ItemsExtend.length_eq hext
      exact contains_arr.2 ⟨ys, rfl, hl'.symm.trans hl, containsItems_of_extends hext hl h⟩
    | _ => simp [Extends] at hext
  | .int _, _, _, hext, h | .float _, _, _, hext, h => by
    obtain ⟨x, hx, _⟩ := (contains_number rfl).1 h
    rwa [hext.eq_of_number hx]
  | .null, _, _, hext, h | .bool _, _, _, hext, h | .str _, _, _, hext, h => by
    rw [contains_plain rfl (by simp) (by simp)] at h ⊢
    have hd := eq_of_same_plain rfl (by simp) (by simp) h
    subst hd
    rwa [hext.eq_of_plain rfl (by simp) (by simp)]
termination_by structural t => t

theorem containsFields_of_extends {fs fs' : List (String × Document)} (hext : FieldsExtend fs fs') :
    ∀ {ts : List (String × Document)}, containsFields fs ts = true → containsFields fs' ts = true
  | [], _ => rfl
  | (k, t) :: ts, h => by
    simp only [containsFields, Bool.and_eq_true] at h ⊢
    refine ⟨?_, containsFields_of_extends hext h.2⟩
    cases hv : fs.lookup k with
    | none => simp [hv] at h
    | some v =>
      simp only [hv] at h
      obtain ⟨v', hv', hvv⟩ := hext.lookup (mem_of_lookup_eq_some hv)
      simp only [hv']
      exact contains_of_extends hvv h.1
termination_by structural ts => ts

theorem containsItems_of_extends : ∀ {xs ys ts : List Document}, ItemsExtend xs ys →
    xs.length = ts.length → containsItems xs ts = true → containsItems ys ts = true
  | [], [], [], _, _, _ => rfl
  | _ :: _, _ :: _, _ :: _, hext, hl, h => by
    simp only [ItemsExtend, containsItems, Bool.and_eq_true, List.length_cons,
      Nat.add_right_cancel_iff] at hext hl h ⊢
    exact ⟨contains_of_extends hext.1 h.1, containsItems_of_extends hext.2 hl h.2⟩
  | [], _ :: _, _, hext, _, _ | _ :: _, [], _, hext, _, _ => by simp [ItemsExtend] at hext
  | _, _, [], _, _, _ => by simp [containsItems]
  | [], [], _ :: _, _, hl, _ => by simp at hl
termination_by structural _ _ ts => ts

end

/-! ## `Document.set` extends a mapping -/

mutual

/-- A value of the data format extends itself. -/
theorem extends_refl : ∀ {d : Document}, d.isNormal = true → d.Extends d
  | .obj fs, hn => by
    obtain ⟨hkeys, hn⟩ := isNormal_obj.1 hn
    exact fieldsExtend_self_of fs (fun e he => lookup_eq_some_of_mem hkeys.nodup he) hn
  | .arr _, hn => itemsExtend_refl hn
  | .null, _ | .bool _, _ | .int _, _ | .float _, _ | .str _, _ => rfl
termination_by structural d => d

theorem fieldsExtend_self_of (fs : List (String × Document)) : ∀ {ts : List (String × Document)},
    (∀ e ∈ ts, fs.lookup e.1 = some e.2) → fieldsNormal ts = true → FieldsExtend ts fs
  | [], _, _ => trivial
  | (_, t) :: _, hl, hn => by
    simp only [fieldsNormal, Bool.and_eq_true, List.forall_mem_cons] at hl hn
    exact ⟨⟨t, hl.1, extends_refl hn.1⟩, fieldsExtend_self_of fs hl.2 hn.2⟩
termination_by structural ts => ts

theorem itemsExtend_refl : ∀ {xs : List Document}, itemsNormal xs = true → ItemsExtend xs xs
  | [], _ => trivial
  | _ :: _, hn => by
    simp only [itemsNormal, Bool.and_eq_true] at hn
    exact ⟨extends_refl hn.1, itemsExtend_refl hn.2⟩
termination_by structural xs => xs

end

/-- Setting a key of a mapping, to a new entry or to an extension of the value
it had, extends the mapping. -/
theorem extends_set {fs : List (String × Document)} (hn : (Document.obj fs).isNormal = true)
    {k : String} {v' : Document} (hv : ∀ v, fs.lookup k = some v → v.Extends v') :
    (Document.obj fs).Extends ((Document.obj fs).set k v') := by
  obtain ⟨hkeys, hfs⟩ := isNormal_obj.1 hn
  show FieldsExtend fs (setField k v' fs)
  refine fieldsExtend_iff.2 fun e he => ?_
  have hlook := lookup_eq_some_of_mem hkeys.nodup he
  by_cases hk : e.1 = k
  · rw [hk] at hlook ⊢
    exact ⟨v', lookup_setField_self k v' fs, hv _ hlook⟩
  · rw [lookup_setField_of_ne hk]
    exact ⟨e.2, hlook, extends_refl (isNormal_of_mem_fields hfs he)⟩

end Document
end Geocube
