import Geocube.Geo.Crs
import Mathlib.Tactic.SplitIfs

/-!
Names of coordinate reference systems read back.

A system is written by its name, `EPSG:` and its code, and read by
`Crs.parse`, which trims blanks, ignores case and reads the code as a decimal
number. Every system that `Crs.parse` gives is read back from its own name
(`Crs.parse_name_of_parse`): the name has no blank and no lowercase letter, so
trimming and case folding leave it alone, its digits read back as its code
(`Decimal.readNat?_toDigits`), and the code gives the system again. The old web
Mercator code 900913 is read as web Mercator, which writes its own code 3857
(`Crs.epsg_of_ofEpsg`).
-/

namespace Geocube

namespace Decimal

/-- Digits read one at a time, from a value already read. -/
theorem foldl_digits {cs : List Char} (hd : ∀ c ∈ cs, c.isDigit = true) (a : Nat) :
    cs.foldl (fun acc c => acc.bind fun a => (digitOf? c).map fun d => a * 10 + d) (some a) =
      some (Nat.ofDigitChars 10 cs a) := by
  induction cs generalizing a with
  | nil => rfl
  | cons c cs ih =>
    have h09 : ('0' ≤ c && c ≤ '9') = true := hd c (by simp)
    have hc : digitOf? c = some (c.toNat - '0'.toNat) := by
      rw [digitOf?, if_pos h09]
    rw [List.foldl_cons, Option.bind_some, hc, Option.map_some,
      ih fun x hx => hd x (List.mem_cons_of_mem c hx), Nat.ofDigitChars_cons, Nat.mul_comm]

/-- The decimal digits of a number read back as the number. -/
theorem digitsValue?_toDigits (n : Nat) : digitsValue? (Nat.toDigits 10 n) = some n := by
  have hd : ∀ c ∈ Nat.toDigits 10 n, c.isDigit = true :=
    fun c hc => Nat.isDigit_of_mem_toDigits (by decide) (by decide) hc
  have hne : Nat.toDigits 10 n ≠ [] := Nat.toDigits_ne_nil
  rw [digitsValue?, if_neg (by simp [hne]), foldl_digits hd, Nat.ofDigitChars_ten_toDigits]

theorem readNat?_toDigits {n max : Nat} (h : n ≤ max) :
    readNat? (String.ofList (Nat.toDigits 10 n)) max = some n := by
  obtain ⟨c, cs, hcs⟩ := List.exists_cons_of_ne_nil (Nat.toDigits_ne_nil (b := 10) (n := n))
  have hplus : c ≠ '+' := by
    have hc := Nat.isDigit_of_mem_toDigits (by decide) (by decide) (hcs ▸ List.mem_cons_self)
    rintro rfl
    simp at hc
  unfold readNat?
  dsimp only
  rw [String.toList_ofList, hcs]
  -- the first digit is no sign, so the whole text is read as digits
  split
  · next m hm =>
    split at hm
    · next heq => exact absurd (List.cons.inj heq).1 hplus
    · rw [← hcs, digitsValue?_toDigits] at hm
      cases hm
      exact if_pos h
  · next hm =>
    split at hm
    · next heq => exact absurd (List.cons.inj heq).1 hplus
    · rw [← hcs, digitsValue?_toDigits] at hm
      cases hm

theorem le_of_readNat? {s : String} {max n : Nat} (h : readNat? s max = some n) : n ≤ max := by
  unfold readNat? at h
  dsimp only at h
  -- whatever the digits read as, a value above `max` is refused
  generalize digitsValue? _ = o at h
  cases o with
  | none => cases h
  | some m =>
    dsimp only at h
    split_ifs at h with hle
    cases h
    exact hle

end Decimal

namespace Text

/-- Text with no blank in it is its own trimmed form. -/
theorem trim_of_forall {s : String} (h : ∀ c ∈ s.toList, isBlank c = false) : trim s = s := by
  have keep : ∀ l : List Char, (∀ c ∈ l, isBlank c = false) → l.dropWhile isBlank = l
    | [], _ => rfl
    | c :: _, hl => List.dropWhile_cons_of_neg (by simp [hl c List.mem_cons_self])
  have hrev : ∀ c ∈ s.toList.reverse, isBlank c = false := fun c hc => h c (List.mem_reverse.1 hc)
  rw [trim, trimStart, keep _ h, String.ofList_toList, trimEnd, keep _ hrev, List.reverse_reverse,
    String.ofList_toList]

/-- Characters below the lowercase ASCII letters are their own uppercase. -/
theorem flatMap_upperChars {l : List Char} (h : ∀ c ∈ l, c.toNat < 0x61) :
    l.flatMap upperChars = l := by
  induction l with
  | nil => rfl
  | cons c l ih =>
    have hc := h c List.mem_cons_self
    have hup : upperChars c = [c] := by
      simp only [upperChars]
      rw [if_neg (by simp; omega), if_pos (by omega)]
    rw [List.flatMap_cons, hup, ih fun x hx => h x (List.mem_cons_of_mem c hx)]
    rfl

theorem upper_of_forall {s : String} (h : ∀ c ∈ s.toList, c.toNat < 0x61) : upper s = s := by
  rw [upper, flatMap_upperChars h, String.ofList_toList]

end Text

namespace Crs

theorem name_toList (c : Crs) : c.name.toList = "EPSG:".toList ++ Nat.toDigits 10 c.epsg := by
  simp [name, Nat.toList_repr, toString]

/-- Every character of a name is an ASCII capital, a colon or a digit. -/
theorem mem_name_toList {c : Crs} {ch : Char} (h : ch ∈ c.name.toList) :
    Text.isBlank ch = false ∧ ch.toNat < 0x61 := by
  rw [name_toList, List.mem_append] at h
  rcases h with h | h
  · simp only [String.reduceToList, List.mem_cons, List.not_mem_nil, or_false] at h
    rcases h with rfl | rfl | rfl | rfl | rfl <;> decide
  · have hd := Nat.isDigit_of_mem_toDigits (by decide) (by decide) h
    simp only [Char.isDigit, Bool.and_eq_true, decide_eq_true_eq] at hd
    have h1 : 48 ≤ ch.toNat ∧ ch.toNat ≤ 57 := hd
    refine ⟨?_, by omega⟩
    simp only [Text.isBlank, Bool.or_eq_false_iff, Bool.and_eq_false_iff, decide_eq_false_iff_not,
      beq_eq_false_iff_ne]
    omega

/-- A code names the system it reads as, except the old web Mercator code. -/
theorem epsg_of_ofEpsg {code : Nat} {c : Crs} (h : ofEpsg code = .ok c) :
    c.epsg = code ∨ (code = 900913 ∧ c = .webMercator) := by
  simp only [ofEpsg, beq_iff_eq, Bool.or_eq_true, Bool.and_eq_true, decide_eq_true_eq] at h
  split_ifs at h with h1 h2 h3 h4 h5 h6 h7 h8 <;> cases h
  · exact .inl h1.symm
  · exact .inl h2.symm
  · rcases h3 with h3 | h3
    · exact .inl h3.symm
    · exact .inr ⟨h3, rfl⟩
  · exact .inl h4.symm
  · exact .inl h5.symm
  · exact .inl h6.symm
  · left; simp only [epsg]; omega
  · left; simp only [epsg]; omega

theorem ofEpsg_epsg {code : Nat} {c : Crs} (h : ofEpsg code = .ok c) :
    ofEpsg c.epsg = .ok c ∧ c.epsg ≤ code := by
  rcases epsg_of_ofEpsg h with he | ⟨rfl, rfl⟩
  · exact ⟨he ▸ h, Nat.le_of_eq he⟩
  · exact ⟨rfl, by decide⟩

/-- A system whose code gives it again is read back from its name. -/
theorem parse_name {c : Crs} (hc : ofEpsg c.epsg = .ok c) (hle : c.epsg ≤ Decimal.u32Max) :
    parse c.name = .ok c := by
  have htrim : Text.trim c.name = c.name := Text.trim_of_forall fun _ h => (mem_name_toList h).1
  have hupper : Text.upper c.name = c.name := Text.upper_of_forall fun _ h => (mem_name_toList h).2
  have hcrs : (c.name == "CRS:84") = false := by
    rw [beq_eq_false_iff_ne, ne_eq, ← String.toList_inj, name_toList]
    simp
  have hwgs : (c.name == "WGS84") = false := by
    rw [beq_eq_false_iff_ne, ne_eq, ← String.toList_inj, name_toList]
    simp
  have hpre : c.name.startsWith "EPSG:" = true := by
    simp [name_toList]
  have hdrop : c.name.toList.drop 5 = Nat.toDigits 10 c.epsg := by
    simp [name_toList]
  unfold parse
  dsimp only
  rw [htrim, hupper, hcrs, hwgs, hpre, hdrop, Decimal.readNat?_toDigits hle]
  simpa using hc

/-- A system read from any name is read back from its own name. -/
theorem parse_name_of_parse {s : String} {c : Crs} (h : parse s = .ok c) :
    parse c.name = .ok c := by
  unfold parse at h
  dsimp only at h
  split_ifs at h with hw hp
  · cases h
    exact parse_name rfl (by decide)
  · split at h
    · next code hcode =>
      obtain ⟨hc, hle⟩ := ofEpsg_epsg h
      exact parse_name hc (Nat.le_trans hle (Decimal.le_of_readNat? hcode))
    · cases h

end Crs

end Geocube
