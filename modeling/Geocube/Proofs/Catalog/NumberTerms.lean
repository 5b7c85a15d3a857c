import Geocube.Catalog.Search
import Geocube.Proofs.Binary64.Bits
import Geocube.Proofs.Catalog.Extract

/-!
# Numbers searched for in text fields

A text field compares texts. A number given as the value searched for is turned
into text with the message layout (`Decimal.plainText`), while a number found in
a document is read as text with the layout of the documents themselves
(`numberText`: an integer's digits, or `Decimal.jsonText` for a double). So a
number searched for in a text field finds a dataset exactly when the two texts
are the same (`Dataset.number_term_matches_iff`).

The two layouts of a double do not agree. The JSON layout always writes a finite
double with a fraction or an exponent (`Decimal.jsonText_point_or_e`), and the
message layout never writes an exponent (`Decimal.e_not_mem_plainText`). So a
double that the message layout writes without a point, a whole number such as
`1.0` among them, is never found by searching for itself
(`Dataset.whole_float_term_misses`), whereas an integer is
(`Dataset.integer_term_matches`).
-/

namespace Geocube

namespace Decimal

theorem isDigit_of_mem_digits {n : Nat} {c : Char} (h : c ∈ Nat.toDigits 10 n) : c.isDigit = true :=
  Nat.isDigit_of_mem_toDigits (by decide) (by decide) h

/-- Positional text is digits and at most a point. -/
theorem mem_positional {pointZero : Bool} {s : Scientific} {c : Char}
    (h : c ∈ (positional pointZero s).toList) : c.isDigit = true ∨ c = '.' := by
  have hd : c ∈ Nat.toDigits 10 s.digits → c.isDigit = true ∨ c = '.' :=
    fun hc => .inl (isDigit_of_mem_digits hc)
  unfold positional at h
  dsimp only at h
  -- zero, a point in front, trailing zeros, and a point among the digits
  split_ifs at h <;> simp [zeros] at h
  · rcases h with rfl | rfl | rfl <;> decide
  · subst h
    decide
  · rcases h with rfl | rfl | ⟨-, rfl⟩ | h
    iterate 3 decide
    exact hd h
  · rcases h with h | ⟨-, rfl⟩ | rfl | rfl
    · exact hd h
    iterate 3 decide
  · rcases h with h | ⟨-, rfl⟩
    · exact hd h
    · decide
  · rcases h with h | rfl | h
    · exact hd (List.mem_of_mem_take h)
    · decide
    · exact hd (List.mem_of_mem_drop h)

theorem point_mem_positional (s : Scientific) : '.' ∈ (positional true s).toList := by
  unfold positional
  dsimp only
  split_ifs <;> simp_all

theorem e_mem_exponential (plus : Bool) (s : Scientific) : 'e' ∈ (exponential plus s).toList := by
  simp [exponential]

theorem e_not_mem_sign (neg : Bool) : 'e' ∉ (if neg then "-" else "").toList := by
  cases neg <;> simp

/-- A finite double is written as its sign and then its shortest digits, in
positional or exponent form as the style decides. -/
theorem Style.render_of_finite (st : Style) {x : Float} {neg : Bool} {m : Nat} {e : Int}
    (hd : Binary64.decode x = .finite neg m e) :
    ∃ s, st.render x = (if neg then "-" else "") ++
      (if st.scientific x s then exponential st.plusExponent s else positional st.pointZero s) :=
  ⟨_, by rw [Style.render, hd]⟩

/-- Message text never has an exponent. -/
theorem e_not_mem_plainText (x : Float) : 'e' ∉ (plainText x).toList := by
  unfold plainText
  cases hd : Binary64.decode x with
  | nan => simp [Style.render, hd, Style.plain]
  | infinite neg =>
    simp only [Style.render, hd, Style.plain, String.toList_append, List.mem_append, not_or]
    exact ⟨e_not_mem_sign neg, by simp⟩
  | finite neg m e =>
    obtain ⟨s, hs⟩ := Style.plain.render_of_finite hd
    rw [hs]
    simp only [Style.plain, Bool.false_eq_true, if_false, String.toList_append, List.mem_append,
      not_or]
    refine ⟨e_not_mem_sign neg, fun h => ?_⟩
    rcases mem_positional h with h | h
    · exact absurd h (by decide)
    · exact absurd h (by decide)

/-- The JSON text of a finite double has a fraction or an exponent. -/
theorem jsonText_point_or_e {x : Float} (hx : x.isFinite = true) :
    '.' ∈ (jsonText x).toList ∨ 'e' ∈ (jsonText x).toList := by
  obtain ⟨neg, m, e, hd⟩ := Binary64.decode_of_isFinite hx
  obtain ⟨s, hs⟩ := Style.json.render_of_finite hd
  rw [jsonText, hs]
  simp only [String.toList_append, List.mem_append]
  -- deciding the layout here would compute the digits; only its form matters
  by_cases hsc : Style.json.scientific x s = true
  · rw [if_pos hsc]
    exact .inr (.inr (e_mem_exponential _ _))
  · rw [if_neg hsc]
    exact .inl (.inr (point_mem_positional _))

/-- A finite double whose JSON text is its message text has a point in it. -/
theorem point_mem_of_jsonText_eq {x : Float} (hx : x.isFinite = true) (h : jsonText x = plainText x) :
    '.' ∈ (plainText x).toList := by
  rcases jsonText_point_or_e hx with hp | he
  · rwa [h] at hp
  · rw [h] at he
    exact absurd he (e_not_mem_plainText x)

end Decimal

/-- A number's text as documents write it is also the text it reads as. -/
theorem asText_of_numberText {x : Document} {t : String} (h : numberText x = some t) :
    asText x = some t := by
  -- only numbers have a number text, and `asText` reads them through it
  cases x with
  | int i => exact h
  | float y => exact h
  | _ => cases h

theorem Offsets.first_eq_of_resolve {α : Type} {o : Offsets} {doc x : Document}
    {convert : Document → Option α} {a : α} (hx : o.resolve doc = some x) (ha : convert x = some a) :
    o.first doc convert = some a := by
  obtain ⟨pre, p, post, hp, hfind, hpre⟩ := List.findSome?_eq_some_iff.1 hx
  refine Offsets.first_eq_some_iff.2 ⟨pre, p, post, hp, by rw [hfind]; exact ha, fun q hq => ?_⟩
  rw [hpre q hq]
  rfl

/-- A text field reads the value its place resolves to, when that value has a text. -/
theorem SearchField.extract_of_resolve {f : SearchField} {doc x : Document} {t : String}
    (hft : f.fieldType = .string) (hx : f.offset.resolve doc = some x) (ht : asText x = some t) :
    f.extract doc = some (.text t) := by
  rw [SearchField.extract, hft]
  simp [Offsets.first_eq_of_resolve hx ht]

namespace Dataset

/-- Searching a text field for the number a dataset's document holds at the
field's place finds the dataset exactly when the message text of the number
searched for is the document's text of its number; a finite double held in the
document is found only if its message text has a point. -/
theorem number_term_matches_iff {d : Dataset} {name : String} {f : SearchField}
    (hf : d.metadataType.field? name = some f) (hft : f.fieldType = .string) {x : Document}
    {v : Float} (hx : f.offset.resolve d.metadata = some x) (hv : x.asF64? = some v) :
    ∃ q, SearchPlan.predicateFor name .string (.eq (.number v)) = .ok q ∧
      ((d.field name).map q.evaluate = some true ↔ numberText x = some (Decimal.plainText v)) ∧
      ∀ y, x = .float y → y.isFinite = true → (d.field name).map q.evaluate = some true →
        '.' ∈ (Decimal.plainText y).toList := by
  obtain ⟨t, ht⟩ : ∃ t, numberText x = some t := by
    cases x <;> simp_all [Document.asF64?, numberText]
  have hfield : d.field name = some (.text t) := by
    rw [Dataset.field, hf, Option.bind_some]
    exact SearchField.extract_of_resolve hft hx (asText_of_numberText ht)
  -- the number searched for becomes its message text, compared with the text read
  have hmatch : (d.field name).map (Predicate.evaluate ⟨name, .string, .eq (.text (Decimal.plainText v))⟩) =
      some true ↔ Decimal.plainText v = t := by
    rw [hfield]
    simp [Predicate.evaluate]
  refine ⟨_, rfl, ?_, ?_⟩
  · rw [hmatch, ht, Option.some_inj, eq_comm]
  · rintro y rfl hy hm
    simp only [Document.asF64?, Option.some_inj] at hv
    simp only [numberText, Option.some_inj] at ht
    subst hv ht
    exact Decimal.point_mem_of_jsonText_eq hy (hmatch.1 hm).symm

/-- A text field `s` read from the document's `v`. -/
def valueField : SearchField := ⟨"s", none, .string, ⟨[["v"]]⟩, .empty, .empty, [], none⟩

/-- A dataset whose document holds `n` under `v`, of a type whose only search
field is `valueField`. -/
def holding (n : Document) : Dataset :=
  { (default : Dataset) with
    product := { (default : Product) with
      metadataType := { (default : MetadataType) with
        dataset := { (default : DatasetSection) with searchFields := [("s", valueField)] } } }
    metadata := .obj [("v", n)] }

theorem integer_term_matches :
    (holding (.int 1)).metadataType.field? "s" = some valueField ∧
      valueField.offset.resolve (holding (.int 1)).metadata = some (.int 1) ∧
      ∃ q, SearchPlan.predicateFor "s" .string (.eq (.number (Binary64.ofInt 1))) = .ok q ∧
        ((holding (.int 1)).field "s").map q.evaluate = some true := by
  have hf : (holding (.int 1)).metadataType.field? "s" = some valueField := rfl
  have hx : valueField.offset.resolve (holding (.int 1)).metadata = some (.int 1) := rfl
  obtain ⟨q, hq, hiff, -⟩ := number_term_matches_iff hf rfl hx rfl
  exact ⟨hf, hx, q, hq, hiff.2 (by decide +kernel)⟩

/-- The document's `1.0` is written `1.0`, the number searched for `1`. -/
theorem whole_float_term_misses :
    ∃ q, SearchPlan.predicateFor "s" .string (.eq (.number 1.0)) = .ok q ∧
      ((holding (.float 1.0)).field "s").map q.evaluate = some false :=
  ⟨_, rfl, by decide +kernel⟩

end Dataset

end Geocube
