import Mathlib.Data.List.TakeWhile
import Mathlib.Tactic.Ring
import BootLayer.Host
import BootLayer.Proofs.Decimal
import BootLayer.Proofs.Text
import BootLayer.Value.Display

/-!
The text of a double read back.

* `readDecimal_append`, `readDecimal_point_append`: digits are read up to the exponent, with or
  without a point among them.
* `readDecimal_positional`: digits written out, with or without a point, read as a decimal of the
  same value.
* `read_text`: the text of every double that is no NaN reads as a numeral that denotes the very same
  bits, be it short digits, a small whole number with one place, or an infinity.
* `readNumber_text`: the text of a double is a number as it stands, without blanks and not in base
  sixteen.
-/

namespace BootLayer

/-! ### Lists of digits -/

/-- All characters are digits. -/
def Digits (cs : List Char) : Prop := ∀ c ∈ cs, c.isDigit = true

/-- The first character is a digit. -/
def StartsWithDigit (cs : List Char) : Prop := ∃ c rest, cs = c :: rest ∧ c.isDigit = true

namespace Digits

lemma append {as bs : List Char} (ha : Digits as) (hb : Digits bs) : Digits (as ++ bs) := by
  intro c hc
  rcases List.mem_append.1 hc with h | h
  · exact ha c h
  · exact hb c h

lemma replicate_zero (k : Nat) : Digits (List.replicate k '0') := by
  intro c hc
  rw [List.eq_of_mem_replicate hc]
  decide

lemma take {cs : List Char} (h : Digits cs) (k : Nat) : Digits (cs.take k) :=
  fun c hc => h c (List.mem_of_mem_take hc)

lemma drop {cs : List Char} (h : Digits cs) (k : Nat) : Digits (cs.drop k) :=
  fun c hc => h c (List.mem_of_mem_drop hc)

/-- Digits are taken up to the first other character. -/
lemma takeWhile_append {ds rest : List Char} (h : Digits ds)
    (stop : ∀ c ∈ rest.head?, c.isDigit = false) :
    (ds ++ rest).takeWhile Char.isDigit = ds := by
  rw [List.takeWhile_append_of_pos h]
  cases rest with
  | nil => rw [List.takeWhile_nil, List.append_nil]
  | cons c rest =>
      have hc := stop c rfl
      rw [List.takeWhile_cons_of_neg (by simp [hc]), List.append_nil]

lemma dropWhile_append {ds rest : List Char} (h : Digits ds)
    (stop : ∀ c ∈ rest.head?, c.isDigit = false) :
    (ds ++ rest).dropWhile Char.isDigit = rest := by
  rw [List.dropWhile_append_of_pos h]
  cases rest with
  | nil => rfl
  | cons c rest =>
      have hc := stop c rfl
      rw [List.dropWhile_cons_of_neg (by simp [hc])]

/-- Digits, if there are any, start what they stand before. -/
lemma startsWithDigit {ds : List Char} (h : Digits ds) (hne : ds ≠ []) (rest : List Char) :
    StartsWithDigit (ds ++ rest) := by
  obtain ⟨c, cs, rfl⟩ := List.exists_cons_of_ne_nil hne
  exact ⟨c, cs ++ rest, rfl, h c (by simp)⟩

end Digits

namespace Decimal

lemma digits_digitsOf (n : Nat) : Digits (digitsOf n) :=
  fun _ hc => Nat.isDigit_of_mem_toDigits (by norm_num) (by norm_num) hc

lemma digitsOf_ne_nil (n : Nat) : digitsOf n ≠ [] := Nat.toDigits_ne_nil

/-- The digits of a number spell it. -/
lemma ofDigits_digitsOf (n : Nat) : ofDigits (digitsOf n) = n := Nat.ofDigitChars_ten_toDigits

/-- Digits behind others shift them. -/
lemma ofDigits_append_replicate (cs : List Char) (k : Nat) :
    ofDigits (cs ++ List.replicate k '0') = ofDigits cs * 10 ^ k := by
  show Nat.ofDigitChars 10 (cs ++ List.replicate k '0') 0 = Nat.ofDigitChars 10 cs 0 * 10 ^ k
  rw [Nat.ofDigitChars_append, Nat.ofDigitChars_replicate_zero, Nat.mul_comm]

/-- Zeros in front of digits do not count. -/
lemma ofDigits_replicate_append (cs : List Char) (k : Nat) :
    ofDigits (List.replicate k '0' ++ cs) = ofDigits cs := by
  show Nat.ofDigitChars 10 (List.replicate k '0' ++ cs) 0 = Nat.ofDigitChars 10 cs 0
  rw [Nat.ofDigitChars_append, Nat.ofDigitChars_replicate_zero, Nat.mul_zero]

lemma startsWithDigit_positional (d : Decimal) : StartsWithDigit d.positional := by
  have hds := digits_digitsOf d.digits
  have hne := digitsOf_ne_nil d.digits
  rw [positional]
  dsimp only
  split_ifs with hsign hplaces
  · exact hds.startsWithDigit hne _
  · refine (hds.take _).startsWithDigit ?_ _
    rw [Ne, List.take_eq_nil_iff]
    rintro (h | h)
    · omega
    · exact hne h
  · exact ⟨'0', _, rfl, by decide⟩

/-- Written out, a decimal is made of digits and a point. -/
lemma isDigit_or_point_of_mem_positional {d : Decimal} {c : Char} (hc : c ∈ d.positional) :
    c.isDigit = true ∨ c = '.' := by
  have hds := digits_digitsOf d.digits
  rw [positional] at hc
  dsimp only at hc
  split_ifs at hc with hsign hplaces
  · exact .inl (hds.append (Digits.replicate_zero _) c hc)
  · rcases List.mem_append.1 hc with h | h
    · exact .inl (hds.take _ c h)
    · rcases List.mem_cons.1 h with h | h
      · exact .inr h
      · exact .inl (hds.drop _ c h)
  · rcases List.mem_cons.1 hc with rfl | h
    · exact .inl (by decide)
    · rcases List.mem_cons.1 h with h | h
      · exact .inr h
      · exact .inl ((Digits.replicate_zero _).append hds c h)

end Decimal

/-! ### Reading digits -/

namespace Numeral

/-- Digits without a point, up to the exponent. -/
lemma readDecimal_append {ds rest : List Char} (h : Digits ds) (hne : ds ≠ [])
    (stop : ∀ c ∈ rest.head?, c.isDigit = false ∧ c ≠ '.') :
    readDecimal (ds ++ rest) = (readExponent rest).map fun e => ⟨Decimal.ofDigits ds, e⟩ := by
  have hstop : ∀ c ∈ rest.head?, c.isDigit = false := fun c hc => (stop c hc).1
  rw [readDecimal, h.takeWhile_append hstop, h.dropWhile_append hstop]
  split
  next fraction rest' hmatch =>
    split at hmatch
    · exact absurd rfl (stop '.' rfl).2
    · cases hmatch
      simp [hne]

/-- Digits with a point among them, up to the exponent. -/
lemma readDecimal_point_append {whole fraction rest : List Char} (hw : Digits whole)
    (hf : Digits fraction) (hne : whole ≠ [] ∨ fraction ≠ [])
    (stop : ∀ c ∈ rest.head?, c.isDigit = false) :
    readDecimal (whole ++ '.' :: (fraction ++ rest)) =
      (readExponent rest).map fun e =>
        ⟨Decimal.ofDigits (whole ++ fraction), e - fraction.length⟩ := by
  have hpoint : ∀ c ∈ ('.' :: (fraction ++ rest)).head?, c.isDigit = false := by
    rintro c ⟨⟩
    decide
  simp only [readDecimal, hw.takeWhile_append hpoint, hw.dropWhile_append hpoint,
    hf.takeWhile_append stop, hf.dropWhile_append stop]
  exact if_neg (not_and_or.2 hne)

/-- Digits alone are a whole number. -/
lemma readDecimal_whole {ds : List Char} (h : Digits ds) (hne : ds ≠ []) :
    readDecimal ds = some ⟨Decimal.ofDigits ds, 0⟩ := by
  have stop : ∀ c ∈ ([] : List Char).head?, c.isDigit = false ∧ c ≠ '.' := by simp
  have hread := readDecimal_append h hne stop
  rwa [List.append_nil] at hread

/-- Digits with a point among them, the first of them before it. -/
lemma readDecimal_point {whole fraction : List Char} (hw : Digits whole) (hf : Digits fraction)
    (hne : whole ≠ []) :
    readDecimal (whole ++ '.' :: fraction) =
      some ⟨Decimal.ofDigits (whole ++ fraction), -fraction.length⟩ := by
  have stop : ∀ c ∈ ([] : List Char).head?, c.isDigit = false := by simp
  have hread := readDecimal_point_append hw hf (.inl hne) stop
  rw [List.append_nil] at hread
  simpa [readExponent] using hread

/-- **Digits written out read as a decimal of the same value.** -/
lemma readDecimal_positional (d : Decimal) :
    ∃ d', readDecimal d.positional = some d' ∧ Decimal.SameValue d' d := by
  obtain ⟨n, e⟩ := d
  have hds := Decimal.digits_digitsOf n
  have hne := Decimal.digitsOf_ne_nil n
  rw [Decimal.positional]
  dsimp only
  split_ifs with hsign hplaces
  · -- zeros in place of a positive exponent
    refine ⟨_, readDecimal_whole (hds.append (Digits.replicate_zero _)) (by simp [hne]), ?_⟩
    rw [Decimal.ofDigits_append_replicate, Decimal.ofDigits_digitsOf]
    have hvalue := Decimal.sameValue_mul_pow n e.toNat 0
    rwa [Int.zero_add, Int.toNat_of_nonneg hsign] at hvalue
  · -- the point falls among the digits
    have hwhole : (Decimal.digitsOf n).take ((Decimal.digitsOf n).length - (-e).toNat) ≠ [] := by
      rw [Ne, List.take_eq_nil_iff]
      rintro (h | h)
      · omega
      · exact hne h
    refine ⟨_, readDecimal_point (hds.take _) (hds.drop _) hwhole, ?_⟩
    rw [List.take_append_drop, Decimal.ofDigits_digitsOf, List.length_drop,
      show -(((Decimal.digitsOf n).length - ((Decimal.digitsOf n).length - (-e).toNat) : Nat) : Int)
        = e by omega]
    exact Decimal.SameValue.refl _
  · -- the point comes first, after a zero
    have hzeros := (Digits.replicate_zero ((-e).toNat - (Decimal.digitsOf n).length)).append hds
    have hread := readDecimal_point (Digits.replicate_zero 1) hzeros (by simp)
    refine ⟨_, hread, ?_⟩
    rw [← List.append_assoc, List.replicate_append_replicate, Decimal.ofDigits_replicate_append,
      Decimal.ofDigits_digitsOf, List.length_append, List.length_replicate,
      show -(((-e).toNat - (Decimal.digitsOf n).length + (Decimal.digitsOf n).length : Nat) : Int)
        = e by omega]
    exact Decimal.SameValue.refl _

/-! ### Signs and words -/

lemma toLower_of_isDigit {c : Char} (h : c.isDigit = true) : c.toLower = c := by
  have hle : c.toNat ≤ 57 := (Char.isDigit_iff_toNat.1 h).2
  refine dif_neg fun hupper => ?_
  have hge : 65 ≤ c.toNat := hupper.1
  omega

/-- A text that starts with a digit is no word. -/
lemma word_ne_of_isDigit {c : Char} (h : c.isDigit = true) (rest : List Char) (word : String)
    (hword : word.toList.head?.any Char.isDigit = false) :
    String.ofList ((c :: rest).map Char.toLower) ≠ word := by
  rintro rfl
  rw [String.toList_ofList, List.map_cons, toLower_of_isDigit h, List.head?_cons, Option.any_some,
    h] at hword
  cases hword

lemma splitSign_of_isDigit {c : Char} {rest : List Char} (h : c.isDigit = true) :
    splitSign (c :: rest) = (false, c :: rest) := by
  rw [splitSign]
  · rintro r hr
    cases hr
    revert h
    decide
  · rintro r hr
    cases hr
    revert h
    decide

/-- Digits after an optional sign are read as digits. -/
lemma read_signed {ds : List Char} {d : Decimal} (negative : Bool) (hhead : StartsWithDigit ds)
    (hread : readDecimal ds = some d) :
    read (if negative then '-' :: ds else ds) = some (finite negative d) := by
  obtain ⟨c, rest, rfl, hc⟩ := hhead
  have hsplit : splitSign (if negative then '-' :: c :: rest else c :: rest)
      = (negative, c :: rest) := by
    cases negative with
    | false => exact splitSign_of_isDigit hc
    | true => rfl
  have hword := word_ne_of_isDigit hc rest
  simp only [read, hsplit]
  rw [if_neg (hword "nan" (by decide)), if_neg, hread, Option.map_some]
  rintro (h | h)
  · exact hword "inf" (by decide) h
  · exact hword "infinity" (by decide) h

end Numeral

/-! ### The text of a double -/

namespace Double

/-- The text of a finite double without its sign: digits with one place for a small whole number,
the shortest digits for any other. -/
def digitText (x : Double) : List Char :=
  if x.isSmallWhole then Decimal.digitsOf (units x.magnitude / one) ++ ['.', '0']
  else (Decimal.shortest .up x.magnitude).positional

lemma toList_text_of_not_isNaN {x : Double} (h : x.isNaN = false) :
    x.text.toList = x.signed (if x.isInfinite then ['i', 'n', 'f'] else x.digitText) := by
  rw [text, if_neg (by simp [h]), String.toList_ofList]
  rfl

/-- A small whole number with one place reads as its magnitude. -/
lemma magnitude_smallWhole {x : Double} (hfin : x.magnitude < infMagnitude)
    (hwhole : units x.magnitude % one = 0) :
    Decimal.magnitude ⟨10 * (units x.magnitude / one), -1⟩ = x.magnitude := by
  have hnum : Decimal.numerator ⟨units x.magnitude / one, 0⟩ * one = units x.magnitude := by
    simp only [Decimal.numerator, Int.toNat_zero]
    rw [pow_zero, Nat.mul_one]
    exact Nat.div_mul_cancel (Nat.dvd_of_mod_eq_zero hwhole)
  have hvalue := Decimal.sameValue_ten_mul (units x.magnitude / one) (-1)
  rw [Decimal.magnitude_congr hvalue, Int.add_left_neg, Decimal.magnitude_eq, hnum]
  exact nearest_units hfin

lemma startsWithDigit_digitText (x : Double) : StartsWithDigit x.digitText := by
  rw [digitText]
  split
  · exact (Decimal.digits_digitsOf _).startsWithDigit (Decimal.digitsOf_ne_nil _) _
  · exact Decimal.startsWithDigit_positional _

/-- Either way the digits are those of a decimal with the magnitude of the double. -/
lemma readDecimal_digitText {x : Double} (hfin : x.magnitude < infMagnitude) :
    ∃ d, Numeral.readDecimal x.digitText = some d ∧ d.magnitude = x.magnitude := by
  rw [digitText]
  split
  · next hsmall =>
      have hwhole : units x.magnitude % one = 0 := by
        simp only [isSmallWhole, Bool.and_eq_true, beq_iff_eq] at hsmall
        exact hsmall.1.2
      have hread := Numeral.readDecimal_point (Decimal.digits_digitsOf (units x.magnitude / one))
        (Digits.replicate_zero 1) (Decimal.digitsOf_ne_nil _)
      refine ⟨_, hread, ?_⟩
      rw [Decimal.ofDigits_append_replicate, Decimal.ofDigits_digitsOf, pow_one, Nat.mul_comm]
      exact magnitude_smallWhole hfin hwhole
  · obtain ⟨d, hread, hvalue⟩ :=
      Numeral.readDecimal_positional (Decimal.shortest .up x.magnitude)
    have hmagnitude := Decimal.magnitude_shortest .up hfin
    exact ⟨d, hread, (Decimal.magnitude_congr hvalue).trans hmagnitude⟩

/-- **The text of a double that is no NaN reads as that double.** -/
theorem read_text {x : Double} (h : x.isNaN = false) :
    ∃ numeral, Numeral.read x.text.toList = some numeral ∧ numeral.toDouble = x := by
  rw [toList_text_of_not_isNaN h]
  by_cases hinf : x.isInfinite = true
  · -- the word is the same under both signs
    refine ⟨.infinity x.negative, ?_, ?_⟩
    · rw [if_pos hinf, signed]
      cases x.negative <;> decide
    · have hm : x.magnitude = infMagnitude := by simpa [isInfinite] using hinf
      rw [Numeral.toDouble, infinity, ← hm, ofParts_self]
  · have hfin : x.magnitude < infMagnitude := by
      simp only [isNaN, isInfinite, decide_eq_false_iff_not, beq_iff_eq] at h hinf
      omega
    obtain ⟨d, hread, hd⟩ := readDecimal_digitText hfin
    refine ⟨.finite x.negative d, ?_, ?_⟩
    · rw [if_neg hinf]
      exact Numeral.read_signed x.negative (startsWithDigit_digitText x) hread
    · rw [Numeral.toDouble, hd, ofParts_self]

/-! ### Its characters -/

/-- The characters of the text of a double that are no digits. -/
def marks : List Char := ['.', '-', 'i', 'n', 'f', 'N', 'a']

/-- A character that the text of a double can have. -/
def Plain (c : Char) : Prop := c.isDigit = true ∨ c ∈ marks

lemma plain_of_all_mem_marks {cs : List Char} (h : cs.all (· ∈ marks) = true) {c : Char}
    (hc : c ∈ cs) : Plain c :=
  .inr (of_decide_eq_true (List.all_eq_true.1 h c hc))

lemma Plain.not_blank {c : Char} (h : Plain c) : Text.isBlank c = false := by
  rcases h with h | h
  · exact Text.not_blank_of_isDigit h
  · have hmarks : marks.all (fun c => !Text.isBlank c) = true := by decide
    simpa using List.all_eq_true.1 hmarks c h

lemma Plain.ne_x {c : Char} (h : Plain c) : c ≠ 'x' := by
  rintro rfl
  exact absurd h (by unfold Plain; decide)

lemma plain_of_mem_signed {x : Double} {cs : List Char} (hcs : ∀ c ∈ cs, Plain c) {c : Char}
    (hc : c ∈ x.signed cs) : Plain c := by
  rw [signed] at hc
  split_ifs at hc with hneg
  · rcases List.mem_cons.1 hc with rfl | h
    · exact .inr (by decide)
    · exact hcs c h
  · exact hcs c hc

lemma plain_of_mem_text {x : Double} {c : Char} (hc : c ∈ x.text.toList) : Plain c := by
  cases hnan : x.isNaN with
  | true =>
      rw [text, if_pos hnan] at hc
      exact plain_of_all_mem_marks (by decide) hc
  | false =>
      rw [toList_text_of_not_isNaN hnan] at hc
      refine plain_of_mem_signed ?_ hc
      intro d hd
      rw [digitText] at hd
      split_ifs at hd with hinf hsmall
      · exact plain_of_all_mem_marks (by decide) hd
      · rcases List.mem_append.1 hd with h | h
        · exact .inl (Decimal.digits_digitsOf _ d h)
        · rcases List.mem_cons.1 h with rfl | h
          · exact .inr (by decide)
          · exact .inl (Digits.replicate_zero 1 d h)
      · exact (Decimal.isDigit_or_point_of_mem_positional hd).imp_right (by rintro rfl; decide)

end Double

/-! ### Text as a number -/

/-- Text without a blank and without an `x` is a number as it stands. -/
lemma readNumber_of_plain {text : String} {numeral : Numeral}
    (hblank : ∀ c ∈ text.toList, Text.isBlank c = false) (hx : 'x' ∉ text.toList)
    (hread : Numeral.read text.toList = some numeral) : readNumber text = .ok numeral.toDouble := by
  have hne : text.toList ≠ [] := by
    intro h
    rw [h, show Numeral.read [] = none by decide] at hread
    cases hread
  rw [readNumber]
  split
  · next digits h =>
      rw [h] at hx
      exact absurd (by simp) hx
  · dsimp only
    rw [Text.trim_of_not_blank hblank, if_neg hne, hread]

/-- The text of a double is a number as it stands. -/
lemma readNumber_text {x : Double} {numeral : Numeral}
    (hread : Numeral.read x.text.toList = some numeral) :
    readNumber x.text = .ok numeral.toDouble :=
  readNumber_of_plain (fun _ hc => (Double.plain_of_mem_text hc).not_blank)
    (fun hc => (Double.plain_of_mem_text hc).ne_x rfl) hread

end BootLayer
