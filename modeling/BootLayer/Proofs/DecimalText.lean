import Mathlib.Data.String.Basic
import BootLayer.Proofs.HexadecimalText

/-!
Decimal numbers: which texts there are, and the double that each of them denotes.

`SpellsSize` says which characters spell a nonnegative number, digits with at most one point and an
optional exponent; `Spells` puts a sign before it and adds the words, and `Denotes` allows blanks
around.  `Double.Represents` is the rounding of what a text means.

* `readExponent_eq_some_iff`, `spellsSize_iff`, `spells_iff`, `denotes_iff`: the reader accepts
  exactly these texts, as the number they spell.
* `isRounded_ofParts`, `IsRounded.unique`: the magnitude of a decimal is rounded once, to the
  nearest double, the infinity or the zero of its sign.
* `decimal_number_iff`: a text that does not start with `0x` is a number exactly if it denotes one,
  and then the double that represents it; blanks after any text do not count, and a blank before
  `0x` is never right.
-/

namespace BootLayer

namespace Numeral

/-! ### The grammar -/

/-- The number that digits spell, the most significant first. -/
def digitsValue (ds : List Char) : Nat :=
  Nat.ofDigits 10 (ds.map fun c => c.toNat - '0'.toNat).reverse

/-- A sign, which can be missing, and whether it is a minus. -/
inductive Sign : List Char → Bool → Prop where
  | missing : Sign [] false
  | plus : Sign ['+'] false
  | minus : Sign ['-'] true

/-- The characters spell an exponent: nothing at all, or a mark, a sign and at least one digit. -/
inductive SpellsExponent : List Char → Int → Prop where
  | missing : SpellsExponent [] 0
  | marked {mark : Char} {sign ds : List Char} {negative : Bool} (hmark : mark = 'e' ∨ mark = 'E')
      (hsign : Sign sign negative) (hds : Digits ds) (hne : ds ≠ []) :
      SpellsExponent (mark :: (sign ++ ds))
        (if negative then -digitsValue ds else digitsValue ds)

/-- The characters spell a nonnegative number: digits with at most one point among them and at least
one digit, then an exponent. -/
inductive SpellsSize : List Char → ℚ → Prop where
  | whole {ds exponent : List Char} {e : Int} (hds : Digits ds) (hne : ds ≠ [])
      (he : SpellsExponent exponent e) :
      SpellsSize (ds ++ exponent) (digitsValue ds * 10 ^ e)
  | point {whole fraction exponent : List Char} {e : Int} (hwhole : Digits whole)
      (hfraction : Digits fraction) (hne : whole ≠ [] ∨ fraction ≠ [])
      (he : SpellsExponent exponent e) :
      SpellsSize (whole ++ '.' :: (fraction ++ exponent))
        ((digitsValue whole + digitsValue fraction / 10 ^ fraction.length) * 10 ^ e)

/-- What a numeric text means, before any rounding. -/
inductive Meaning where
  | nan (negative : Bool)
  | infinity (negative : Bool)
  | number (negative : Bool) (size : ℚ)

/-- The characters spell a numeral: a sign, then a word of any case or a nonnegative number. -/
inductive Spells : List Char → Meaning → Prop where
  | nan {sign word : List Char} {negative : Bool} (hsign : Sign sign negative)
      (hword : word.map Char.toLower = "nan".toList) : Spells (sign ++ word) (.nan negative)
  | infinity {sign word : List Char} {negative : Bool} (hsign : Sign sign negative)
      (hword : word.map Char.toLower = "inf".toList ∨ word.map Char.toLower = "infinity".toList) :
      Spells (sign ++ word) (.infinity negative)
  | number {sign cs : List Char} {negative : Bool} {size : ℚ} (hsign : Sign sign negative)
      (hsize : SpellsSize cs size) : Spells (sign ++ cs) (.number negative size)

/-- The characters denote a numeral: they spell it, with any blanks around. -/
def Denotes (cs : List Char) (meaning : Meaning) : Prop :=
  ∃ before body after, cs = before ++ body ++ after ∧ (∀ c ∈ before, Text.isBlank c = true) ∧
    (∀ c ∈ after, Text.isBlank c = true) ∧ Spells body meaning

/-! ### Signs -/

/-- There is no sign in front. -/
def Unsigned (cs : List Char) : Prop := ∀ c ∈ cs.head?, c ≠ '+' ∧ c ≠ '-'

lemma splitSign_append {sign cs : List Char} {negative : Bool} (h : Sign sign negative)
    (hcs : Unsigned cs) : splitSign (sign ++ cs) = (negative, cs) := by
  cases h with
  | missing =>
      rw [List.nil_append, splitSign]
      · rintro rest rfl
        exact (hcs _ rfl).2 rfl
      · rintro rest rfl
        exact (hcs _ rfl).1 rfl
  | plus => rfl
  | minus => rfl

/-- What is split off is a sign. -/
lemma exists_sign_of_splitSign (cs : List Char) :
    ∃ sign, Sign sign (splitSign cs).1 ∧ sign ++ (splitSign cs).2 = cs := by
  fun_cases splitSign cs with
  | case1 rest => exact ⟨_, .minus, rfl⟩
  | case2 rest => exact ⟨_, .plus, rfl⟩
  | case3 cs _ _ => exact ⟨_, .missing, rfl⟩

lemma unsigned_of_mem_head? {cs : List Char} {c : Char} (hc : c ∈ cs.head?)
    (h : c ≠ '+' ∧ c ≠ '-') : Unsigned cs := by
  intro c' hc'
  rwa [Option.mem_unique hc' hc]

lemma unsigned_of_digits {ds : List Char} (h : Digits ds) : Unsigned ds := by
  intro c hc
  have hdigit := h c (List.mem_of_mem_head? hc)
  constructor <;> rintro rfl <;> exact absurd hdigit (by decide)

/-! ### Exponents -/

/-- Digits are read as the number that they spell. -/
lemma ofDigits_eq (ds : List Char) : Decimal.ofDigits ds = digitsValue ds := by
  rw [digitsValue, ofDigits_reverse, List.foldl_map]
  rfl

/-- **The reader accepts exactly the spellings of exponents.** -/
lemma readExponent_eq_some_iff {cs : List Char} {e : Int} :
    readExponent cs = some e ↔ SpellsExponent cs e := by
  constructor
  · intro h
    cases cs with
    | nil =>
        cases h
        exact .missing
    | cons mark rest =>
        obtain ⟨sign, hsign, hrest⟩ := exists_sign_of_splitSign rest
        simp only [readExponent, ofDigits_eq, Option.ite_none_right_eq_some, Option.some.injEq] at h
        obtain ⟨hmark, ⟨hne, hds⟩, rfl⟩ := h
        rw [← hrest, splitSign_append hsign (unsigned_of_digits (List.all_eq_true.1 hds))]
        exact .marked hmark hsign (List.all_eq_true.1 hds) hne
  · intro h
    cases h with
    | missing => rfl
    | marked hmark hsign hds hne =>
        simp only [readExponent, splitSign_append hsign (unsigned_of_digits hds), ofDigits_eq]
        rw [if_pos hmark, if_pos ⟨hne, List.all_eq_true.2 hds⟩]

/-- An exponent starts with its mark. -/
lemma SpellsExponent.stop {cs : List Char} {e : Int} (h : SpellsExponent cs e) :
    ∀ c ∈ cs.head?, c.isDigit = false ∧ c ≠ '.' := by
  cases h with
  | missing => simp
  | marked hmark =>
      rintro c ⟨⟩
      rcases hmark with rfl | rfl <;> decide

end Numeral

/-! ### Sizes -/

namespace Decimal

/-- The exact value of a decimal. -/
def value (d : Decimal) : ℚ := d.digits * 10 ^ d.exponent

/-- The value is the quotient of the numerator and the denominator. -/
lemma value_eq (d : Decimal) : d.value = d.numerator / d.denominator := by
  rw [value, numerator, denominator]
  rcases le_total 0 d.exponent with h | h
  · have hpow : (10 : ℚ) ^ d.exponent = 10 ^ d.exponent.toNat := by
      rw [← zpow_natCast, Int.toNat_of_nonneg h]
    rw [hpow, show (-d.exponent).toNat = 0 by omega, pow_zero, Nat.cast_one, div_one]
    push_cast
    rfl
  · have hpow : (10 : ℚ) ^ d.exponent = (10 ^ (-d.exponent).toNat)⁻¹ := by
      rw [← zpow_natCast, ← zpow_neg, Int.toNat_of_nonneg (by omega), neg_neg]
    rw [hpow, show d.exponent.toNat = 0 by omega, pow_zero, mul_one, ← div_eq_mul_inv]
    push_cast
    rfl

/-- The digits after the point shift those before it. -/
lemma value_ofDigits_append (whole fraction : List Char) (e : Int) :
    value ⟨ofDigits (whole ++ fraction), e - fraction.length⟩ =
      (Numeral.digitsValue whole + Numeral.digitsValue fraction / 10 ^ fraction.length) *
        10 ^ e := by
  have hdigits : Numeral.digitsValue (whole ++ fraction) =
      Numeral.digitsValue fraction + 10 ^ fraction.length * Numeral.digitsValue whole := by
    simp only [Numeral.digitsValue]
    rw [List.map_append, List.reverse_append, Nat.ofDigits_append, List.length_reverse,
      List.length_map]
  have hpow : (10 : ℚ) ^ fraction.length ≠ 0 := by positivity
  rw [value, Numeral.ofDigits_eq, hdigits, zpow_sub₀ (by norm_num), zpow_natCast]
  push_cast
  field_simp
  ring

end Decimal

namespace Numeral

/-- **The reader accepts exactly the spellings of nonnegative numbers**, as decimals of the value
that they spell. -/
lemma spellsSize_iff {cs : List Char} {q : ℚ} :
    SpellsSize cs q ↔ ∃ d, readDecimal cs = some d ∧ d.value = q := by
  constructor
  · intro h
    cases h with
    | whole hds hne he =>
        have hread := readDecimal_append hds hne he.stop
        rw [readExponent_eq_some_iff.2 he, Option.map_some] at hread
        exact ⟨_, hread, by rw [Decimal.value, ofDigits_eq]⟩
    | point hwhole hfraction hne he =>
        have hread := readDecimal_point_append hwhole hfraction hne fun c hc => (he.stop c hc).1
        rw [readExponent_eq_some_iff.2 he, Option.map_some] at hread
        exact ⟨_, hread, Decimal.value_ofDigits_append _ _ _⟩
  · rintro ⟨d, h, rfl⟩
    have htake : ∀ cs : List Char, Digits (cs.takeWhile Char.isDigit) :=
      fun _ _ hc => List.mem_takeWhile_imp hc
    -- the digits up to the first other character are taken, and that character is a point or not
    unfold readDecimal at h
    split at h
    next fraction exponent hmatch =>
      simp only [Option.ite_none_left_eq_some, Option.map_eq_some_iff,
        readExponent_eq_some_iff] at h
      obtain ⟨hne, e, he, rfl⟩ := h
      split at hmatch
      · next rest hrest =>
          cases hmatch
          have hspells := SpellsSize.point (htake cs) (htake rest) (not_and_or.1 hne) he
          rw [List.takeWhile_append_dropWhile, ← hrest, List.takeWhile_append_dropWhile] at hspells
          rwa [Decimal.value_ofDigits_append]
      · cases hmatch
        have hspells := SpellsSize.whole (htake cs) (fun h => hne ⟨h, rfl⟩) he
        rw [List.takeWhile_append_dropWhile] at hspells
        rwa [Decimal.value, ofDigits_eq, List.append_nil, List.length_nil, Nat.cast_zero, sub_zero]

/-! ### Words -/

/-- The characters are one of the words, in any case. -/
def IsWord (cs : List Char) : Prop :=
  cs.map Char.toLower ∈ ["nan".toList, "inf".toList, "infinity".toList]

lemma IsWord.head {cs : List Char} (h : IsWord cs) : ∃ c ∈ cs.head?, c.toLower ∈ ['n', 'i'] := by
  have hhead : (cs.map Char.toLower).head? ∈ [some 'n', some 'i'] := by
    simp only [IsWord, List.mem_cons, List.not_mem_nil, or_false] at h
    rcases h with h | h | h <;> rw [h] <;> decide
  cases cs with
  | nil => exact absurd hhead (by decide)
  | cons c rest => exact ⟨c, rfl, by simpa using hhead⟩

lemma IsWord.unsigned {cs : List Char} (h : IsWord cs) : Unsigned cs := by
  obtain ⟨c, hc, hletter⟩ := h.head
  refine unsigned_of_mem_head? hc ?_
  constructor <;> rintro rfl <;> exact absurd hletter (by decide)

/-- A size starts with a digit or with the point. -/
lemma SpellsSize.head {cs : List Char} {q : ℚ} (h : SpellsSize cs q) :
    ∃ c ∈ cs.head?, c.isDigit = true ∨ c = '.' := by
  have hfirst : ∀ ds rest : List Char, Digits ds → ds ≠ [] →
      ∃ c ∈ (ds ++ rest).head?, c.isDigit = true ∨ c = '.' := by
    intro ds rest hds hne
    obtain ⟨c, rest', hcons, hc⟩ := hds.startsWithDigit hne rest
    exact ⟨c, by rw [hcons]; rfl, .inl hc⟩
  cases h with
  | whole hds hne he => exact hfirst _ _ hds hne
  | @point whole _ _ _ hwhole hfraction hne he =>
      rcases eq_or_ne whole [] with rfl | hwhole'
      · exact ⟨'.', rfl, .inr rfl⟩
      · exact hfirst _ _ hwhole hwhole'

lemma SpellsSize.unsigned {cs : List Char} {q : ℚ} (h : SpellsSize cs q) : Unsigned cs := by
  obtain ⟨c, hc, hstart⟩ := h.head
  refine unsigned_of_mem_head? hc ?_
  constructor <;> rintro rfl <;> exact absurd hstart (by decide)

/-- A size is no word: digits and the point are in no case. -/
lemma SpellsSize.not_isWord {cs : List Char} {q : ℚ} (h : SpellsSize cs q) : ¬IsWord cs := by
  intro hword
  obtain ⟨c, hc, hstart⟩ := h.head
  obtain ⟨c', hc', hletter⟩ := hword.head
  rw [Option.mem_unique hc' hc] at hletter
  rcases hstart with hdigit | rfl
  · rw [toLower_of_isDigit hdigit] at hletter
    simp only [List.mem_cons, List.not_mem_nil, or_false] at hletter
    rcases hletter with rfl | rfl <;> exact absurd hdigit (by decide)
  · exact absurd hletter (by decide)

/-! ### Numerals -/

/-- What a numeral means, before any rounding. -/
def meaning : Numeral → Meaning
  | nan negative => .nan negative
  | infinity negative => .infinity negative
  | finite negative size => .number negative size.value

/-- **The reader accepts exactly the spellings of numerals.** -/
lemma spells_iff {cs : List Char} {m : Meaning} :
    Spells cs m ↔ ∃ numeral, read cs = some numeral ∧ numeral.meaning = m := by
  constructor
  · intro h
    cases h with
    | @nan _ word _ hsign hword =>
        have hunsigned : Unsigned word := IsWord.unsigned (by simp [IsWord, hword])
        refine ⟨.nan _, ?_, rfl⟩
        simp only [read, splitSign_append hsign hunsigned, String.ofList_eq]
        rw [if_pos hword]
    | @infinity _ word _ hsign hword =>
        have hunsigned : Unsigned word := IsWord.unsigned (by simpa [IsWord] using .inr hword)
        have hnan : word.map Char.toLower ≠ "nan".toList := by
          rcases hword with h | h <;> rw [h] <;> decide
        refine ⟨.infinity _, ?_, rfl⟩
        simp only [read, splitSign_append hsign hunsigned, String.ofList_eq]
        rw [if_neg hnan, if_pos hword]
    | number hsign hsize =>
        obtain ⟨d, hread, hvalue⟩ := spellsSize_iff.1 hsize
        have hword := hsize.not_isWord
        simp only [IsWord, List.mem_cons, List.not_mem_nil, or_false, not_or] at hword
        refine ⟨.finite _ d, ?_, by rw [meaning, hvalue]⟩
        simp only [read, splitSign_append hsign hsize.unsigned, String.ofList_eq]
        rw [if_neg hword.1, if_neg (not_or.2 hword.2), hread, Option.map_some]
  · rintro ⟨numeral, h, rfl⟩
    obtain ⟨sign, hsign, hcs⟩ := exists_sign_of_splitSign cs
    simp only [read, String.ofList_eq] at h
    rw [← hcs]
    split_ifs at h with hnan hinf
    · cases h
      exact .nan hsign hnan
    · cases h
      exact .infinity hsign hinf
    · obtain ⟨d, hread, rfl⟩ := Option.map_eq_some_iff.1 h
      exact .number hsign (spellsSize_iff.2 ⟨d, hread, rfl⟩)

/-- What starts with `0x` is no numeral in base ten. -/
lemma read_hexadecimal (rest : List Char) : read ('0' :: 'x' :: rest) = none := by
  have hdigit : '0'.isDigit = true := by decide
  have hword := word_ne_of_isDigit hdigit ('x' :: rest)
  have hdecimal : readDecimal ('0' :: 'x' :: rest) = none := rfl
  simp only [read, splitSign_of_isDigit hdigit]
  rw [if_neg (hword "nan" (by decide)), if_neg, hdecimal, Option.map_none]
  exact not_or.2 ⟨hword "inf" (by decide), hword "infinity" (by decide)⟩

/-! ### Blanks -/

/-- A blank is in no case. -/
lemma not_blank_of_toLower {c : Char} (h : Text.isBlank c.toLower = false) :
    Text.isBlank c = false := by
  have hlower := Text.toNat_toLower c
  split_ifs at hlower with hupper
  · exact Text.not_blank_of_visible (by omega)
  · rwa [Char.toNat_inj.1 hlower] at h

lemma Sign.not_blank {sign : List Char} {negative : Bool} (h : Sign sign negative) :
    ∀ c ∈ sign, Text.isBlank c = false := by
  cases h with
  | missing => simp
  | plus => exact List.forall_mem_singleton.2 (by decide)
  | minus => exact List.forall_mem_singleton.2 (by decide)

lemma IsWord.not_blank {cs : List Char} (h : IsWord cs) : ∀ c ∈ cs, Text.isBlank c = false := by
  have hwords : ∀ word ∈ ["nan".toList, "inf".toList, "infinity".toList],
      word.all (fun c => !Text.isBlank c) = true := by decide
  intro c hc
  have hlower := List.all_eq_true.1 (hwords _ h) c.toLower (List.mem_map_of_mem hc)
  exact not_blank_of_toLower (by simpa using hlower)

lemma not_blank_of_digits {ds : List Char} (h : Digits ds) : ∀ c ∈ ds, Text.isBlank c = false :=
  fun c hc => Text.not_blank_of_isDigit (h c hc)

lemma SpellsExponent.not_blank {cs : List Char} {e : Int} (h : SpellsExponent cs e) :
    ∀ c ∈ cs, Text.isBlank c = false := by
  cases h with
  | missing => simp
  | marked hmark hsign hds hne =>
      refine List.forall_mem_cons.2 ⟨?_, ?_⟩
      · rcases hmark with rfl | rfl <;> decide
      · exact List.forall_mem_append.2 ⟨hsign.not_blank, not_blank_of_digits hds⟩

lemma SpellsSize.not_blank {cs : List Char} {q : ℚ} (h : SpellsSize cs q) :
    ∀ c ∈ cs, Text.isBlank c = false := by
  cases h with
  | whole hds hne he => exact List.forall_mem_append.2 ⟨not_blank_of_digits hds, he.not_blank⟩
  | point hwhole hfraction hne he =>
      refine List.forall_mem_append.2 ⟨not_blank_of_digits hwhole, ?_⟩
      refine List.forall_mem_cons.2 ⟨by decide, ?_⟩
      exact List.forall_mem_append.2 ⟨not_blank_of_digits hfraction, he.not_blank⟩

/-- There is no blank in a spelling. -/
lemma Spells.not_blank {cs : List Char} {m : Meaning} (h : Spells cs m) :
    ∀ c ∈ cs, Text.isBlank c = false := by
  cases h with
  | @nan _ word _ hsign hword =>
      have hword' : IsWord word := by simp [IsWord, hword]
      exact List.forall_mem_append.2 ⟨hsign.not_blank, hword'.not_blank⟩
  | @infinity _ word _ hsign hword =>
      have hword' : IsWord word := by simpa [IsWord] using .inr hword
      exact List.forall_mem_append.2 ⟨hsign.not_blank, hword'.not_blank⟩
  | number hsign hsize => exact List.forall_mem_append.2 ⟨hsign.not_blank, hsize.not_blank⟩

/-- **The reader accepts exactly what denotes a numeral**, once it is trimmed. -/
lemma denotes_iff {cs : List Char} {m : Meaning} :
    Denotes cs m ↔ ∃ numeral, read (Text.trim cs) = some numeral ∧ numeral.meaning = m := by
  rw [← spells_iff]
  exact Text.exists_surrounded_iff (fun _ h => h.not_blank) cs

end Numeral

/-! ### Rounding -/

namespace Decimal

/-- A decimal rounds to a finite magnitude exactly below the middle between the greatest one and
`2 ^ 1024`. -/
lemma magnitude_lt_iff (d : Decimal) :
    d.magnitude < Double.infMagnitude ↔ d.value < 2 ^ 1024 - 2 ^ 970 := by
  have hden : (0 : ℚ) < d.denominator := Nat.cast_pos.2 d.denominator_pos
  have hcast : ∀ a b : Nat, a ≤ b → ((2 ^ b - 2 ^ a : Nat) : ℚ) = 2 ^ b - 2 ^ a := by
    intro a b h
    rw [Nat.cast_sub (Nat.pow_le_pow_right (by norm_num) h), Nat.cast_pow, Nat.cast_pow]
    rfl
  rw [magnitude_eq, Double.nearest_mul_one_lt_iff d.denominator_pos, value_eq, div_lt_iff₀ hden,
    ← hcast 970 1024 (by norm_num), ← Nat.cast_mul, Nat.cast_lt]

/-- A decimal rounds to zero exactly up to half the least positive double. -/
lemma magnitude_eq_zero_iff (d : Decimal) : d.magnitude = 0 ↔ d.value ≤ 1 / 2 ^ 1075 := by
  have hden : (0 : ℚ) < d.denominator := Nat.cast_pos.2 d.denominator_pos
  have hone : 2 * Double.one = 2 ^ 1075 := by decide +kernel
  rw [magnitude_eq, Double.nearest_eq_zero_iff d.denominator_pos, Nat.mul_left_comm, hone, value_eq,
    div_le_div_iff₀ hden (by positivity), one_mul]
  exact_mod_cast Iff.rfl

end Decimal

namespace Double

/-- The double is the number of this sign and size, rounded: the nearest double, from the middle
between the greatest finite one and `2 ^ 1024` on the infinity of that sign, and up to half the
least positive one the zero of that sign. -/
structure IsRounded (x : Double) (negative : Bool) (q : ℚ) : Prop where
  sign : x.negative = negative
  nearest : q < 2 ^ 1024 - 2 ^ 970 → x.IsNearest (if negative then -q else q)
  overflow : 2 ^ 1024 - 2 ^ 970 ≤ q → x = infinity negative
  underflow : q ≤ 1 / 2 ^ 1075 ↔ x = zero negative

/-- **A decimal is rounded once**, from its exact value. -/
lemma isRounded_ofParts (negative : Bool) (d : Decimal) :
    (ofParts negative d.magnitude).IsRounded negative d.value := by
  have hinf : infMagnitude < 2 ^ 63 := by decide
  have hle : d.magnitude ≤ infMagnitude := by
    rw [Decimal.magnitude_eq]
    exact Nat.min_le_right _ _
  have hsmall : d.magnitude < 2 ^ 63 := lt_of_le_of_lt hle hinf
  refine ⟨negative_ofParts _ hsmall, fun hlt => ?_, fun hge => ?_, ?_⟩
  · have hone : (one : ℚ) ≠ 0 := Nat.cast_ne_zero.2 one_pos.ne'
    have hfinite := (Decimal.magnitude_lt_iff d).2 hlt
    rw [Decimal.magnitude_eq] at hfinite
    have hnearest := isNearest_ofParts negative d.denominator_pos hfinite
    rw [Nat.cast_mul, mul_div_mul_right _ _ hone, ← Decimal.value_eq,
      ← Decimal.magnitude_eq] at hnearest
    cases negative with
    | false => simpa using hnearest
    | true => simpa using hnearest
  · have hnot := mt (Decimal.magnitude_lt_iff d).1 (not_lt.2 hge)
    rw [infinity, Nat.le_antisymm hle (Nat.not_lt.1 hnot)]
  · rw [← Decimal.magnitude_eq_zero_iff]
    constructor
    · intro h
      rw [h, zero]
    · intro h
      have hmagnitude := congrArg magnitude h
      rwa [magnitude_ofParts _ hsmall, zero, magnitude_ofParts _ (by norm_num)] at hmagnitude

/-- A number is rounded to one double. -/
lemma IsRounded.unique {x y : Double} {negative : Bool} {q : ℚ} (hx : x.IsRounded negative q)
    (hy : y.IsRounded negative q) : x = y := by
  rcases lt_or_ge q (2 ^ 1024 - 2 ^ 970) with hlt | hge
  · exact (hx.nearest hlt).unique (hy.nearest hlt) (hx.sign.trans hy.sign.symm)
  · rw [hx.overflow hge, hy.overflow hge]

/-- The double represents what a text means: the words as they are, a number rounded. -/
def Represents (x : Double) : Numeral.Meaning → Prop
  | .nan negative => x = nan negative
  | .infinity negative => x = infinity negative
  | .number negative size => x.IsRounded negative size

/-- Each meaning is represented by one double, that of the numeral. -/
lemma represents_meaning_iff {x : Double} {numeral : Numeral} :
    x.Represents numeral.meaning ↔ numeral.toDouble = x := by
  cases numeral with
  | nan negative => exact eq_comm
  | infinity negative => exact eq_comm
  | finite negative d =>
      constructor
      · intro h
        exact (isRounded_ofParts negative d).unique h
      · rintro rfl
        exact isRounded_ofParts negative d

end Double

/-! ### The double that a text denotes -/

namespace Host

/-- A text that does not start with `0x` is read in base ten. -/
lemma number_decimal {t : String} (h : ¬['0', 'x'] <+: t.toList) :
    number (.str t) =
      match Numeral.read (Text.trim t.toList) with
      | some numeral => .ok numeral.toDouble
      | none =>
        .error (.parse (if t.toList.all Text.isBlank then .blankDecimal t else .badDecimal t)) := by
  rw [number, readNumber]
  split
  · next digits hdigits => exact absurd ⟨digits, hdigits.symm⟩ h
  · dsimp only
    have hblank : Text.trim t.toList = [] ↔ t.toList.all Text.isBlank = true := by
      rw [Text.trim_eq_nil_iff, List.all_eq_true]
    by_cases hnil : Text.trim t.toList = []
    · rw [if_pos hnil, hnil, if_pos (hblank.1 hnil)]
      rfl
    · rw [if_neg hnil, if_neg (mt hblank.2 hnil)]
      cases Numeral.read (Text.trim t.toList) <;> rfl

/-- **The numbers among the texts that do not start with `0x`.** -/
lemma number_decimal_eq_ok_iff {t : String} (h : ¬['0', 'x'] <+: t.toList) (x : Double) :
    number (.str t) = .ok x ↔ ∃ m, Numeral.Denotes t.toList m ∧ x.Represents m := by
  simp only [number_decimal h, Numeral.denotes_iff]
  cases Numeral.read (Text.trim t.toList) with
  | none => simp
  | some numeral =>
      constructor
      · rintro ⟨⟩
        exact ⟨_, ⟨numeral, rfl, rfl⟩, Double.represents_meaning_iff.2 rfl⟩
      · rintro ⟨m, ⟨numeral', hread, rfl⟩, hx⟩
        cases hread
        exact congrArg Except.ok (Double.represents_meaning_iff.1 hx)

/-- Every other such text is refused. -/
lemma number_decimal_eq_error_iff {t : String} (h : ¬['0', 'x'] <+: t.toList) (e : Error) :
    number (.str t) = .error e ↔ (∀ m, ¬Numeral.Denotes t.toList m) ∧
      e = .parse (if t.toList.all Text.isBlank then .blankDecimal t else .badDecimal t) := by
  simp only [number_decimal h, Numeral.denotes_iff]
  cases Numeral.read (Text.trim t.toList) with
  | none =>
      simp only [Except.error.injEq, reduceCtorEq, false_and, exists_false, not_false_eq_true,
        implies_true, true_and]
      exact eq_comm
  | some numeral => simp

/-- Blanks after a text do not make it start with `0x`. -/
lemma hexadecimal_of_append_blank {cs after : List Char}
    (hafter : ∀ c ∈ after, Text.isBlank c = true) (h : ['0', 'x'] <+: cs ++ after) :
    ['0', 'x'] <+: cs := by
  obtain ⟨rest, hrest⟩ := h
  -- if the text had not both characters itself, one of them would be a blank
  match cs with
  | [] =>
      rw [List.nil_append] at hrest
      exact absurd (hafter '0' (by simp [← hrest])) (by decide)
  | [c] =>
      obtain ⟨rfl, rfl⟩ := List.cons.inj hrest
      exact absurd (hafter 'x' (by simp)) (by decide)
  | c :: c' :: cs =>
      cases hrest
      exact ⟨cs, rfl⟩

/-- **Blanks after a text do not count**, in either base. -/
lemma number_append_blank (t : String) {w : String}
    (hw : ∀ c ∈ w.toList, Text.isBlank c = true) (x : Double) :
    number (.str (t ++ w)) = .ok x ↔ number (.str t) = .ok x := by
  have htext : (t ++ w).toList = t.toList ++ w.toList := String.toList_append
  by_cases h : ['0', 'x'] <+: t.toList
  · obtain ⟨rest, hrest⟩ := h
    obtain rfl : "0x" ++ String.ofList rest = t := by
      rw [← String.toList_inj, ← hrest, String.toList_append]
      exact congrArg (['0', 'x'] ++ ·) String.toList_ofList
    rw [String.append_assoc, number_hexadecimal, number_hexadecimal, String.toList_append,
      Text.trim_append_blank _ hw]
    cases Hexadecimal.readInt (Text.trim (String.ofList rest).toList) with
    | none => simp
    | some n =>
        dsimp only
        split_ifs <;> simp
  · have h' : ¬['0', 'x'] <+: (t ++ w).toList := by
      rw [htext]
      exact mt (hexadecimal_of_append_blank hw) h
    rw [number_decimal h', number_decimal h, htext, Text.trim_append_blank _ hw]
    cases Numeral.read (Text.trim t.toList) <;> simp

/-- **A blank before `0x` makes a text no number.** -/
lemma number_blank_append {w t : String} (hw : ∀ c ∈ w.toList, Text.isBlank c = true)
    (hne : w ≠ "") (h : ['0', 'x'] <+: t.toList) :
    number (.str (w ++ t)) = .error (.parse (.badDecimal (w ++ t))) := by
  obtain ⟨rest, hrest⟩ := h
  have htext : (w ++ t).toList = w.toList ++ '0' :: 'x' :: rest := by
    rw [String.toList_append, ← hrest]
    rfl
  have hdecimal : ¬['0', 'x'] <+: (w ++ t).toList := by
    obtain ⟨c, cs, hcs⟩ := List.exists_cons_of_ne_nil (mt String.toList_eq_nil_iff.1 hne)
    rw [htext, hcs]
    rintro ⟨rest', hrest'⟩
    obtain ⟨rfl, -⟩ := List.cons.inj hrest'
    exact absurd (hw '0' (by simp [hcs])) (by decide)
  have hvisible : ¬(w ++ t).toList.all Text.isBlank = true := by
    intro hblank
    exact absurd (List.all_eq_true.1 hblank '0' (by simp [htext])) (by decide)
  have htrim : Text.trim (w ++ t).toList = '0' :: 'x' :: Text.trimRight rest := by
    rw [htext, Text.trim_blank_append hw, Text.trim, Text.trimLeft,
      List.dropWhile_cons_of_neg (by decide), Text.trimRight_cons (by decide),
      Text.trimRight_cons (by decide)]
  rw [number_decimal hdecimal, htrim, Numeral.read_hexadecimal, if_neg hvisible]

end Host

/-- **Decimal numbers: exact grammar and correct rounding.**  A text that does not start with `0x`
is a number exactly if it is, up to blanks around it, an optional sign and then `inf`, `infinity` or
`nan` in any case, or at least one digit with at most one point and an optional exponent.  The
number is then the nearest double, a tie going to the even one, the infinity of the sign from
`2 ^ 1024 - 2 ^ 970` on, and the zero of the sign on underflow.  Every other text is refused.
Blanks after any text, in base sixteen too, change nothing, and a text that starts with `0x` is
refused once there are blanks before it. -/
theorem decimal_number_iff (t : String) :
    (¬['0', 'x'] <+: t.toList →
      (∀ x, Host.number (.str t) = .ok x ↔ ∃ m, Numeral.Denotes t.toList m ∧ x.Represents m) ∧
      ∀ e, Host.number (.str t) = .error e ↔ (∀ m, ¬Numeral.Denotes t.toList m) ∧
        e = .parse (if t.toList.all Text.isBlank then .blankDecimal t else .badDecimal t)) ∧
    (∀ w : String, (∀ c ∈ w.toList, Text.isBlank c = true) →
      (∀ x, Host.number (.str (t ++ w)) = .ok x ↔ Host.number (.str t) = .ok x) ∧
      (['0', 'x'] <+: t.toList → w ≠ "" →
        Host.number (.str (w ++ t)) = .error (.parse (.badDecimal (w ++ t))))) := by
  refine ⟨fun h => ?_, fun w hw => ?_⟩
  · exact ⟨Host.number_decimal_eq_ok_iff h, Host.number_decimal_eq_error_iff h⟩
  · exact ⟨Host.number_append_blank t hw, fun h hne => Host.number_blank_append hw hne h⟩

/-- A number in the middle of two doubles, which goes to the even one, an underflow to the negative
zero, a text that is no number, and blanks on both sides of a number in base sixteen. -/
theorem tie_underflow_and_blanks :
    let middle := "\u2003+90071992547409.93E2\n"
    Numeral.Denotes middle.toList (.number false (2 ^ 53 + 1)) ∧
    Host.number (.str middle) = .ok ⟨0x4340000000000000⟩ ∧
    Host.number (.str "-.1e-400") = .ok (Double.zero true) ∧
    Host.number (.str "1e+") = .error (.parse (.badDecimal "1e+")) ∧
    Host.number (.str ("0x1F" ++ "\u00A0")) = .ok ⟨0x403F000000000000⟩ ∧
    Host.number (.str ("\u00A0" ++ "0x1F")) =
      .error (.parse (.badDecimal ("\u00A0" ++ "0x1F"))) := by
  intro middle
  have hmiddle : Numeral.read (Text.trim middle.toList) =
      some (.finite false ⟨9007199254740993, 0⟩) := by decide +kernel
  have hmeaning : (Numeral.finite false ⟨9007199254740993, 0⟩).meaning =
      .number false (2 ^ 53 + 1) := by norm_num [Numeral.meaning, Decimal.value]
  have hdenotes : Numeral.Denotes middle.toList (.number false (2 ^ 53 + 1)) :=
    Numeral.denotes_iff.2 ⟨_, hmiddle, hmeaning⟩
  have htiny : Numeral.read (Text.trim "-.1e-400".toList) = some (.finite true ⟨1, -401⟩) := by
    decide +kernel
  have hhex : Host.number (.str "0x1F") = .ok ⟨0x403F000000000000⟩ := by decide +kernel
  have hblank : ∀ c ∈ "\u00A0".toList, Text.isBlank c = true :=
    List.all_eq_true.1 (by decide +kernel)
  refine ⟨hdenotes, ?_, ?_, ?_, ?_, ?_⟩
  · refine (((decimal_number_iff middle).1 (by decide +kernel)).1 _).2 ⟨_, hdenotes, ?_⟩
    rw [← hmeaning]
    exact Double.represents_meaning_iff.2 (by decide +kernel)
  · refine (((decimal_number_iff "-.1e-400").1 (by decide +kernel)).1 _).2
      ⟨_, Numeral.denotes_iff.2 ⟨_, htiny, rfl⟩, ?_⟩
    exact Double.represents_meaning_iff.2 (by decide +kernel)
  · have hnone : Numeral.read (Text.trim "1e+".toList) = none := by decide +kernel
    refine (((decimal_number_iff "1e+").1 (by decide +kernel)).2 _).2 ⟨?_, by decide +kernel⟩
    intro m hm
    obtain ⟨numeral, hread, -⟩ := Numeral.denotes_iff.1 hm
    rw [hnone] at hread
    cases hread
  · exact (((decimal_number_iff "0x1F").2 _ hblank).1 _).2 hhex
  · exact ((decimal_number_iff "0x1F").2 _ hblank).2 (by decide +kernel) (by decide)

end BootLayer
