import Mathlib.Tactic.Common
import BootLayer.Proofs.JsonScalar
import BootLayer.Proofs.Scaling

/-!
The JSON text of a double read.

A numeral is put together of digits, perhaps a fraction and perhaps an exponent (`Parts`), and it
writes a decimal (`Parts.value`).  `Double.written` is the decimal that the JSON text of a double
writes: its shortest digits, with one more zero where a place is added after a whole number.

* `Parts.WellFormed.read_text`: a numeral with a fraction or an exponent is read as a double, by
  scaling the decimal it writes.
* `Double.exists_parts_jsonDigits`: the JSON text of a double is a numeral that writes
  `Double.written`.
* `Double.reread`: what comes out; `Double.reread_parts` says that it is a finite double of the same
  sign at most two steps away, and `Double.reread_eq_self` that it is the same double if few digits
  and a small exponent are written.
* `read_jsonDigits`: it is what the reader returns.
-/

namespace BootLayer.Json.Numeral

/-! ### Numerals by their parts -/

/-- The parts of a numeral after its sign. -/
structure Parts where
  whole : List Char
  fraction : Option (List Char) := none
  exponent : Option (Bool × List Char) := none

namespace Parts

/-- The digits after the point. -/
def places (p : Parts) : List Char := p.fraction.getD []

/-- The fraction as it is written. -/
def fractionText : Option (List Char) → List Char
  | none => []
  | some ds => '.' :: ds

/-- The exponent as it is written. -/
def exponentText : Option (Bool × List Char) → List Char
  | none => []
  | some (negative, ds) => 'e' :: (if negative then '-' else '+') :: ds

/-- The numeral as it is written. -/
def text (p : Parts) : List Char :=
  p.whole ++ (fractionText p.fraction ++ exponentText p.exponent)

/-- The number that the exponent gives. -/
def power : Option (Bool × List Char) → Int
  | none => 0
  | some (negative, ds) => if negative then -(Decimal.ofDigits ds : Int) else Decimal.ofDigits ds

/-- The decimal that the numeral writes. -/
def value (p : Parts) : Decimal :=
  ⟨Decimal.ofDigits (p.whole ++ p.places), power p.exponent - p.places.length⟩

/-- The parts make a numeral that is read as a double: there are digits wherever there have to be,
none of them is lost, and there is a fraction or an exponent. -/
structure WellFormed (p : Parts) : Prop where
  whole_digits : Digits p.whole
  whole_ne_nil : p.whole ≠ []
  no_leading_zero : ¬(1 < p.whole.length ∧ p.whole.head? = some '0')
  fraction_digits : ∀ ds, p.fraction = some ds → Digits ds ∧ ds ≠ []
  exponent_digits : ∀ negative ds, p.exponent = some (negative, ds) →
    Digits ds ∧ ds ≠ [] ∧ Decimal.ofDigits ds ≤ maxExponent
  not_integer : p.fraction.isSome = true ∨ p.exponent.isSome = true
  fits : p.value.digits < 2 ^ 64

/-! ### Reading them -/

lemma foldl_digits_append (start : Nat) (as bs : List Char) :
    bs.foldl (fun n c => 10 * n + (c.toNat - 48))
      (as.foldl (fun n c => 10 * n + (c.toNat - 48)) start) =
      (as ++ bs).foldl (fun n c => 10 * n + (c.toNat - 48)) start :=
  (List.foldl_append ..).symm

variable {p : Parts}

/-- All digits are absorbed, those before the point and those after it. -/
lemma WellFormed.absorb_eq (h : p.WellFormed) :
    absorb 0 p.whole = (Decimal.ofDigits p.whole, p.whole.length) ∧
      absorb (Decimal.ofDigits p.whole) p.places = (p.value.digits, p.places.length) := by
  have hvalue : p.places.foldl (fun n c => 10 * n + (c.toNat - 48)) (Decimal.ofDigits p.whole) =
      p.value.digits := foldl_digits_append 0 p.whole p.places
  have hwhole : Decimal.ofDigits p.whole < 2 ^ 64 :=
    ((le_foldl_digits _ p.places).trans hvalue.le).trans_lt h.fits
  refine ⟨absorb_of_lt hwhole, ?_⟩
  rw [absorb_of_lt (hvalue.trans_lt h.fits), hvalue]

/-- The parts of a numeral are assembled to the double of the decimal it writes. -/
lemma WellFormed.assemble_eq (h : p.WellFormed) (negative : Bool) :
    assemble negative p.whole p.fraction p.exponent =
      double? negative p.value.digits p.value.exponent := by
  obtain ⟨hwhole, hplaces⟩ := h.absorb_eq
  have hexponent : p.value.exponent = power p.exponent - p.places.length := rfl
  have hdigits := h.exponent_digits
  have hsome := h.not_integer
  rw [hexponent]
  rw [places] at hplaces ⊢
  generalize p.value.digits = n at *
  cases hx : p.exponent with
  | none =>
      cases hf : p.fraction with
      | none => simp [hx, hf] at hsome
      | some ds =>
          rw [hf] at hplaces
          simp only [assemble, hwhole, hplaces, Nat.sub_self, power]
          simp
  | some x =>
      obtain ⟨negativeExponent, es⟩ := x
      have hsmall : ¬maxExponent < Decimal.ofDigits es := Nat.not_lt.2 (hdigits _ _ hx).2.2
      have hmatch : assemble negative p.whole p.fraction (some (negativeExponent, es)) =
          double? negative n (if negativeExponent then
            ((0 : Nat) : Int) - (p.fraction.getD []).length - Decimal.ofDigits es
          else ((0 : Nat) : Int) - (p.fraction.getD []).length + Decimal.ofDigits es) := by
        cases hf : p.fraction <;> rw [hf] at hplaces <;>
          simp only [assemble, hwhole, hplaces, Nat.sub_self, if_neg hsmall]
      rw [hmatch, power]
      congr 1
      split_ifs <;> omega

/-! ### Splitting the text -/

/-- No digit comes first. -/
def NoDigit (rest : List Char) : Prop := ∀ c ∈ rest.head?, c.isDigit = false

lemma splitDigits_append {ds rest : List Char} (h : Digits ds) (stop : NoDigit rest) :
    splitDigits (ds ++ rest) = (ds, rest) := by
  rw [splitDigits, h.takeWhile_append stop, h.dropWhile_append stop]

lemma noDigit_cons {c : Char} (h : c.isDigit = false) (rest : List Char) : NoDigit (c :: rest) := by
  rintro d ⟨⟩
  exact h

lemma noDigit_exponentText (x : Option (Bool × List Char)) {rest : List Char}
    (hrest : Follows rest) : NoDigit (exponentText x ++ rest) := by
  cases x with
  | none => exact hrest.not_digit
  | some x => exact noDigit_cons (by decide) _

lemma noDigit_fractionText (f : Option (List Char)) {rest : List Char} (hrest : NoDigit rest) :
    NoDigit (fractionText f ++ rest) := by
  cases f with
  | none => exact hrest
  | some ds => exact noDigit_cons (by decide) _

lemma splitExponent_exponentText {x : Option (Bool × List Char)}
    (hx : ∀ negative ds, x = some (negative, ds) → Digits ds ∧ ds ≠ []) {rest : List Char}
    (hrest : Follows rest) : splitExponent (exponentText x ++ rest) = some (x, rest) := by
  cases x with
  | none => exact splitExponent_of_follows hrest
  | some x =>
      obtain ⟨negative, ds⟩ := x
      obtain ⟨hds, hne⟩ := hx negative ds rfl
      have hsplit := splitDigits_append hds hrest.not_digit
      cases negative <;>
        simp [exponentText, splitExponent, Numeral.splitSign, hsplit, hne]

lemma splitFraction_fractionText {f : Option (List Char)}
    (hf : ∀ ds, f = some ds → Digits ds ∧ ds ≠ []) (x : Option (Bool × List Char))
    {rest : List Char} (hrest : Follows rest) :
    splitFraction (fractionText f ++ (exponentText x ++ rest)) =
      some (f, exponentText x ++ rest) := by
  cases f with
  | none =>
      cases x with
      | none => exact splitFraction_of_follows hrest
      | some x => rfl
  | some ds =>
      obtain ⟨hds, hne⟩ := hf ds rfl
      have hsplit := splitDigits_append hds (noDigit_exponentText x hrest)
      simp only [fractionText, List.cons_append, splitFraction, hsplit, if_neg hne]

/-- **A numeral with a fraction or an exponent is read as a double**, by scaling the decimal it
writes. -/
lemma WellFormed.read_text (h : p.WellFormed) (negative : Bool) {rest : List Char}
    (hrest : Follows rest) :
    read negative (p.text ++ rest) =
      (double? negative p.value.digits p.value.exponent).map fun number => (number, rest) := by
  have htext : p.text ++ rest =
      p.whole ++ (fractionText p.fraction ++ (exponentText p.exponent ++ rest)) := by
    rw [text, List.append_assoc, List.append_assoc]
  have hstop := noDigit_fractionText p.fraction (noDigit_exponentText p.exponent hrest)
  have hfirst : ¬(p.whole = [] ∨ (1 < p.whole.length ∧ p.whole.head? = some '0')) :=
    not_or.2 ⟨h.whole_ne_nil, h.no_leading_zero⟩
  have hexponent := splitExponent_exponentText
    (fun negative ds hx => (h.exponent_digits negative ds hx).imp_right And.left) hrest
  rw [htext]
  simp only [read, splitDigits_append h.whole_digits hstop, if_neg hfirst,
    splitFraction_fractionText h.fraction_digits p.exponent hrest, hexponent,
    h.assemble_eq negative, Option.bind_eq_bind, Option.bind_some]
  cases double? negative p.value.digits p.value.exponent <;> rfl

end Parts

/-! ### Layouts of a decimal -/

section

variable {n : Nat}

lemma head?_take_digitsOf_ne (hn : 0 < n) (k : Nat) :
    ((Decimal.digitsOf n).take k).head? ≠ some '0' := by
  rw [List.head?_take]
  split_ifs
  · simp
  · exact head?_digitsOf_ne hn.ne'

/-- Digits with a point among them. -/
lemma wellFormed_point {whole fraction : List Char} (hw : Digits whole) (hne : whole ≠ [])
    (hzero : ¬(1 < whole.length ∧ whole.head? = some '0')) (hf : Digits fraction)
    (hfne : fraction ≠ []) (hfits : (Parts.value ⟨whole, some fraction, none⟩).digits < 2 ^ 64) :
    Parts.WellFormed ⟨whole, some fraction, none⟩ where
  whole_digits := hw
  whole_ne_nil := hne
  no_leading_zero := hzero
  fraction_digits := by
    rintro ds ⟨⟩
    exact ⟨hf, hfne⟩
  exponent_digits := by rintro _ _ ⟨⟩
  not_integer := .inl rfl
  fits := hfits

/-- A whole number with one place after the point. -/
lemma exists_parts_whole {k : Nat} (hn : 0 < n) (hfits : n * 10 ^ (k + 1) < 2 ^ 64) :
    ∃ p : Parts, p.WellFormed ∧ p.text = Decimal.positional ⟨n, k⟩ ++ ['.', '0'] ∧
      p.value = ⟨n * 10 ^ (k + 1), -1⟩ := by
  have hds := Decimal.digits_digitsOf n
  have hne := Decimal.digitsOf_ne_nil n
  have hdigits : Decimal.ofDigits (Decimal.digitsOf n ++ List.replicate k '0' ++ ['0']) =
      n * 10 ^ (k + 1) := by
    rw [List.append_assoc, ← List.replicate_succ', Decimal.ofDigits_append_replicate,
      Decimal.ofDigits_digitsOf]
  have hvalue : Parts.value ⟨Decimal.digitsOf n ++ List.replicate k '0', some ['0'], none⟩ =
      ⟨n * 10 ^ (k + 1), -1⟩ := by
    rw [← hdigits]
    rfl
  refine ⟨⟨Decimal.digitsOf n ++ List.replicate k '0', some ['0'], none⟩, ?_, ?_, hvalue⟩
  · refine wellFormed_point (hds.append (Digits.replicate_zero k)) (by simp [hne]) ?_
      (Digits.replicate_zero 1) (by simp) (by rwa [hvalue])
    rw [List.head?_append_of_ne_nil _ hne]
    exact fun h => head?_digitsOf_ne hn.ne' h.2
  · rw [Decimal.positional, if_pos (Int.natCast_nonneg k), Int.toNat_natCast]
    rfl

/-- Digits written out with a point among them or before them. -/
lemma exists_parts_point {e : Int} (hn : 0 < n) (hfits : n < 2 ^ 64) (he : e < 0) :
    ∃ p : Parts, p.WellFormed ∧ p.text = Decimal.positional ⟨n, e⟩ ∧ p.value = ⟨n, e⟩ := by
  have hds := Decimal.digits_digitsOf n
  have hne := Decimal.digitsOf_ne_nil n
  rw [Decimal.positional, if_neg (Int.not_le.2 he)]
  dsimp only
  split_ifs with hplaces
  · have hvalue : Parts.value
        ⟨(Decimal.digitsOf n).take ((Decimal.digitsOf n).length - (-e).toNat),
          some ((Decimal.digitsOf n).drop ((Decimal.digitsOf n).length - (-e).toNat)), none⟩ =
        ⟨n, e⟩ := by
      simp only [Parts.value, Parts.places, Parts.power, Option.getD_some, List.take_append_drop,
        Decimal.ofDigits_digitsOf, List.length_drop]
      congr 1
      omega
    refine ⟨_, ?_, ?_, hvalue⟩
    · refine wellFormed_point (hds.take _) ?_ (fun h => head?_take_digitsOf_ne hn _ h.2)
        (hds.drop _) ?_ (by rwa [hvalue])
      · rw [Ne, List.take_eq_nil_iff]
        rintro (h | h)
        · omega
        · exact hne h
      · rw [Ne, List.drop_eq_nil_iff]
        omega
    · simp [Parts.text, Parts.fractionText, Parts.exponentText]
  · have hvalue : Parts.value ⟨['0'],
        some (List.replicate ((-e).toNat - (Decimal.digitsOf n).length) '0' ++ Decimal.digitsOf n),
        none⟩ = ⟨n, e⟩ := by
      have hdigits := Decimal.ofDigits_replicate_append (Decimal.digitsOf n)
        ((-e).toNat - (Decimal.digitsOf n).length + 1)
      rw [List.replicate_succ, List.cons_append, Decimal.ofDigits_digitsOf] at hdigits
      simp only [Parts.value, Parts.places, Parts.power, Option.getD_some, List.length_append,
        List.length_replicate, List.singleton_append, hdigits]
      congr 1
      omega
    refine ⟨_, ?_, ?_, hvalue⟩
    · exact wellFormed_point (Digits.replicate_zero 1) (by simp) (fun h => Nat.lt_irrefl 1 h.1)
        ((Digits.replicate_zero _).append hds) (by simp [hne]) (by rwa [hvalue])
    · simp [Parts.text, Parts.fractionText, Parts.exponentText]

/-- The exponent of the first digit as a part. -/
lemma power_leading (e : Int) :
    Parts.power (some (decide (e < 0), Decimal.digitsOf e.natAbs)) = e := by
  simp only [Parts.power, Decimal.ofDigits_digitsOf, decide_eq_true_eq]
  split_ifs <;> omega

/-- One digit, perhaps others after a point, and an exponent. -/
lemma wellFormed_exponent {first : Char} {f : Option (List Char)} {l : Int}
    (hds : Digits (first :: f.getD [])) (hne : f ≠ some []) (hl : l.natAbs ≤ maxExponent)
    (hfits : Decimal.ofDigits (first :: f.getD []) < 2 ^ 64) :
    Parts.WellFormed ⟨[first], f, some (decide (l < 0), Decimal.digitsOf l.natAbs)⟩ where
  whole_digits := hds.take 1
  whole_ne_nil := List.cons_ne_nil first []
  no_leading_zero := fun h => Nat.lt_irrefl 1 h.1
  fraction_digits := by
    rintro ds rfl
    exact ⟨fun c hc => hds c (List.mem_cons_of_mem _ hc), fun h => hne (congrArg some h)⟩
  exponent_digits := by
    rintro _ _ ⟨⟩
    exact ⟨Decimal.digits_digitsOf _, Decimal.digitsOf_ne_nil _, by rwa [Decimal.ofDigits_digitsOf]⟩
  not_integer := .inr rfl
  fits := hfits

/-- One digit, the others after a point, and the exponent of the first one. -/
lemma exists_parts_scientific {e : Int} (hfits : n < 2 ^ 64)
    (he : (Decimal.leading ⟨n, e⟩).natAbs ≤ maxExponent) :
    ∃ p : Parts, p.WellFormed ∧ p.text = Decimal.scientific ⟨n, e⟩ ∧ p.value = ⟨n, e⟩ := by
  have hds := Decimal.digits_digitsOf n
  have hspells := Decimal.ofDigits_digitsOf n
  have hleading : Decimal.leading ⟨n, e⟩ = e + (Decimal.digitsOf n).length - 1 := rfl
  rw [Decimal.scientific]
  dsimp only
  generalize Decimal.leading ⟨n, e⟩ = l at *
  have hvalue : ∀ {first : Char} {fraction : Option (List Char)},
      Decimal.digitsOf n = first :: fraction.getD [] →
      Parts.value ⟨[first], fraction, some (decide (l < 0), Decimal.digitsOf l.natAbs)⟩ =
        ⟨n, e⟩ := by
    intro first fraction hcases
    rw [hcases] at hspells hleading
    have hexponent : l - (fraction.getD []).length = e := by
      rw [hleading, List.length_cons]
      omega
    rw [Parts.value, power_leading, Decimal.mk.injEq]
    exact ⟨hspells, hexponent⟩
  cases hcases : Decimal.digitsOf n with
  | nil => exact absurd hcases (Decimal.digitsOf_ne_nil n)
  | cons first others =>
      rw [hcases] at hds hspells
      rw [← hspells] at hfits
      cases others with
      | nil =>
          refine ⟨_, wellFormed_exponent (f := none) hds (by simp) he hfits, ?_, hvalue hcases⟩
          simp [Parts.text, Parts.fractionText, Parts.exponentText]
      | cons second rest =>
          refine ⟨_, wellFormed_exponent (f := some (second :: rest)) hds (by simp) he hfits, ?_,
            hvalue hcases⟩
          simp [Parts.text, Parts.fractionText, Parts.exponentText]

end

end BootLayer.Json.Numeral

namespace BootLayer.Double

/-! ### What the text of a double writes -/

/-- The decimal that the JSON text of a finite double writes.  The place that is added to a whole
number counts as one of its digits. -/
def written (x : Double) : Decimal :=
  let d := Decimal.shortest .even x.magnitude
  if x.magnitude = 0 then ⟨0, -1⟩
  else if (-5 ≤ d.leading ∧ d.leading < 16) ∧ 0 ≤ d.exponent then
    ⟨d.digits * 10 ^ (d.exponent.toNat + 1), -1⟩
  else d

/-- The JSON text of a finite double without its sign. -/
def jsonDigits (x : Double) : List Char :=
  let d := Decimal.shortest .even x.magnitude
  if x.magnitude = 0 then ['0', '.', '0']
  else if -5 ≤ d.leading ∧ d.leading < 16 then
    if 0 ≤ d.exponent then d.positional ++ ['.', '0'] else d.positional
  else d.scientific

lemma toList_jsonText (x : Double) : x.jsonText.toList = x.signed x.jsonDigits := by
  rw [jsonText, String.toList_ofList]
  rfl

/-- A whole number of at most sixteen digits before the point, with one place after it. -/
lemma mul_ten_pow_lt {n k : Nat} (h : Decimal.leading ⟨n, k⟩ < 16) :
    n * 10 ^ (k + 1) < 10 ^ 17 := by
  have hdigits : n < 10 ^ (Decimal.digitsOf n).length := Decimal.lt_pow_length_toDigits n
  have hlength : (Decimal.digitsOf n).length + (k + 1) ≤ 17 := by
    have hleading : Decimal.leading ⟨n, k⟩ = k + (Decimal.digitsOf n).length - 1 := rfl
    omega
  calc n * 10 ^ (k + 1) < 10 ^ (Decimal.digitsOf n).length * 10 ^ (k + 1) :=
        Nat.mul_lt_mul_of_pos_right hdigits (Nat.pow_pos (by norm_num))
    _ = 10 ^ ((Decimal.digitsOf n).length + (k + 1)) := (pow_add ..).symm
    _ ≤ 10 ^ 17 := pow_le_pow_right₀ (by norm_num) hlength

/-- The ways in which a finite double is written: zero, a whole number with one place added, and the
shortest digits as they are. -/
lemma written_cases {x : Double} (hfinite : x.magnitude < infMagnitude) :
    (x.magnitude = 0 ∧ x.written = ⟨0, -1⟩ ∧ x.jsonDigits = ['0', '.', '0']) ∨
    (∃ n k : Nat, 0 < n ∧ n * 10 ^ (k + 1) < 10 ^ 17 ∧ Decimal.magnitude ⟨n, k⟩ = x.magnitude ∧
      x.written = ⟨n * 10 ^ (k + 1), -1⟩ ∧
      x.jsonDigits = Decimal.positional ⟨n, k⟩ ++ ['.', '0']) ∨
    (x.written.Bounded ∧ x.written.magnitude = x.magnitude ∧
      (x.written.exponent < 0 ∧ x.jsonDigits = x.written.positional ∨
        x.jsonDigits = x.written.scientific)) := by
  have hreads := Decimal.magnitude_shortest .even hfinite
  have hbounded := fun hm => Decimal.bounded_shortest .even (m := x.magnitude) hm hfinite
  rw [written, jsonDigits]
  generalize Decimal.shortest .even x.magnitude = d at *
  obtain ⟨n, e⟩ := d
  by_cases hzero : x.magnitude = 0
  · exact .inl ⟨hzero, if_pos hzero, if_pos hzero⟩
  right
  rw [if_neg hzero, if_neg hzero]
  by_cases hplain : -5 ≤ Decimal.leading ⟨n, e⟩ ∧ Decimal.leading ⟨n, e⟩ < 16
  · by_cases hwhole : 0 ≤ e
    · obtain ⟨k, rfl⟩ := Int.eq_ofNat_of_zero_le hwhole
      rw [if_pos ⟨hplain, hwhole⟩, if_pos hplain, if_pos hwhole]
      exact .inl ⟨n, k, (hbounded hzero).digits_pos, mul_ten_pow_lt hplain.2, hreads, rfl, rfl⟩
    · rw [if_neg fun h => hwhole h.2, if_pos hplain, if_neg hwhole]
      exact .inr ⟨hbounded hzero, hreads, .inl ⟨Int.not_le.1 hwhole, rfl⟩⟩
  · rw [if_neg fun h => hplain h.1, if_neg hplain]
    exact .inr ⟨hbounded hzero, hreads, .inr rfl⟩

/-- What is written has the value of the double. -/
lemma magnitude_written {x : Double} (hfinite : x.magnitude < infMagnitude) :
    x.written.magnitude = x.magnitude := by
  rcases written_cases hfinite with ⟨hzero, hw, -⟩ | ⟨n, k, -, -, hreads, hw, -⟩ | ⟨-, hreads, -⟩
  · rw [hw, hzero]
    rfl
  · have hvalue := Decimal.sameValue_mul_pow n (k + 1) (-1)
    rw [show (-1 : Int) + ((k + 1 : Nat) : Int) = k by omega] at hvalue
    rw [hw, Decimal.magnitude_congr hvalue, hreads]
  · exact hreads

lemma bounded_written {x : Double} (hm : x.magnitude ≠ 0) (hfinite : x.magnitude < infMagnitude) :
    x.written.Bounded := by
  rcases written_cases hfinite with ⟨hzero, -⟩ | ⟨n, k, hn, hlt, -, hw, -⟩ | ⟨hbounded, -⟩
  · exact absurd hzero hm
  · rw [hw]
    have hexponent : (-324 : Int) ≤ -1 ∧ (-1 : Int) ≤ 308 := by decide
    exact ⟨Nat.mul_pos hn (Nat.pow_pos (by norm_num)), hlt.le, hexponent.1, hexponent.2⟩
  · exact hbounded

lemma natAbs_leading_le {d : Decimal} (hd : d.Bounded) :
    d.leading.natAbs ≤ Json.Numeral.maxExponent := by
  have hlength : (Decimal.digitsOf d.digits).length ≤ 18 :=
    (Nat.length_toDigits_le_iff (by norm_num) (by norm_num)).2
      (hd.digits_le.trans_lt (by norm_num))
  have hlow := hd.le_exponent
  have hhigh := hd.exponent_le
  rw [Decimal.leading, Json.Numeral.maxExponent]
  omega

/-- **The JSON text of a finite double is a numeral**, and it writes what it should. -/
lemma exists_parts_jsonDigits {x : Double} (hfinite : x.magnitude < infMagnitude) :
    ∃ p : Json.Numeral.Parts, p.WellFormed ∧ p.text = x.jsonDigits ∧ p.value = x.written := by
  have hword : 10 ^ 17 < 2 ^ 64 := by norm_num
  rcases written_cases hfinite with
    ⟨-, hw, hdigits⟩ | ⟨n, k, hn, hlt, -, hw, hdigits⟩ | ⟨hbounded, -, hlayout⟩
  · rw [hw, hdigits]
    have hzero := Digits.replicate_zero 1
    exact ⟨⟨['0'], some ['0'], none⟩, Json.Numeral.wellFormed_point hzero (by simp)
      (fun h => Nat.lt_irrefl 1 h.1) hzero (by simp) (by decide), rfl, rfl⟩
  · rw [hw, hdigits]
    exact Json.Numeral.exists_parts_whole hn (hlt.trans hword)
  · have hfits := hbounded.digits_le.trans_lt hword
    rcases hlayout with ⟨hneg, hdigits⟩ | hdigits
    · rw [hdigits]
      exact Json.Numeral.exists_parts_point hbounded.digits_pos hfits hneg
    · rw [hdigits]
      exact Json.Numeral.exists_parts_scientific hfits (natAbs_leading_le hbounded)

lemma startsWithDigit_jsonDigits {x : Double} (hfinite : x.magnitude < infMagnitude) :
    StartsWithDigit x.jsonDigits := by
  obtain ⟨p, hp, htext, -⟩ := exists_parts_jsonDigits hfinite
  rw [← htext]
  exact hp.whole_digits.startsWithDigit hp.whole_ne_nil _

/-! ### What comes out -/

/-- The double that the JSON text of a finite double is read as: the written digits are widened and
scaled. -/
def reread (x : Double) : Double :=
  ofParts x.negative
    ((Json.Numeral.scale (ofNatMagnitude x.written.digits) x.written.exponent).getD infMagnitude)

/-- The digits of the two greatest finite doubles, computed, and what they are scaled to. -/
lemma top_computed :
    Decimal.shortest .even (infMagnitude - 1) = ⟨17976931348623157, 292⟩ ∧
    Decimal.shortest .even (infMagnitude - 2) = ⟨17976931348623155, 292⟩ ∧
    nearest (units (ofNatMagnitude 17976931348623157) * units (Json.Numeral.powerOfTen 292)) one =
      infMagnitude - 1 ∧
    nearest (units (ofNatMagnitude 17976931348623155) * units (Json.Numeral.powerOfTen 292)) one =
      infMagnitude - 1 := by
  decide +kernel

lemma scale_written_of_product {x : Double} {n m : Nat} (hzero : x.magnitude ≠ 0)
    (hdigits : Decimal.shortest .even x.magnitude = ⟨n, 292⟩)
    (hproduct : nearest (units (ofNatMagnitude n) * units (Json.Numeral.powerOfTen 292)) one = m)
    (hm : m < infMagnitude) :
    Json.Numeral.scale (ofNatMagnitude x.written.digits) x.written.exponent = some m := by
  have hleading : ¬(-5 ≤ Decimal.leading ⟨n, 292⟩ ∧ Decimal.leading ⟨n, 292⟩ < 16) := by
    have hlength := List.length_pos_of_ne_nil (Decimal.digitsOf_ne_nil n)
    have hexponent : Decimal.leading ⟨n, 292⟩ = 292 + (Decimal.digitsOf n).length - 1 := rfl
    omega
  have hw : x.written = ⟨n, (292 : Nat)⟩ := by
    rw [written, hdigits, if_neg hzero, if_neg fun h => hleading h.1]
    rfl
  have hscale := Json.Numeral.scale_of_nonneg (k := 292) (ofNatMagnitude n) (by norm_num)
    (hproduct.trans_lt hm)
  rw [hproduct] at hscale
  rw [hw]
  exact hscale

/-- Both of the two greatest finite doubles, after which two steps might lead out of the finite
range, come out as the greatest one. -/
lemma scale_written_top {x : Double} (h : infMagnitude ≤ x.magnitude + 2)
    (hfinite : x.magnitude < infMagnitude) :
    Json.Numeral.scale (ofNatMagnitude x.written.digits) x.written.exponent =
      some (infMagnitude - 1) := by
  obtain ⟨hfirst, hsecond, hproduct, hproduct'⟩ := top_computed
  have hzero : x.magnitude ≠ 0 := by
    rw [infMagnitude] at h
    omega
  obtain hm | hm : x.magnitude = infMagnitude - 1 ∨ x.magnitude = infMagnitude - 2 := by omega
  · rw [← hm] at hfirst
    exact scale_written_of_product hzero hfirst hproduct (by decide)
  · rw [← hm] at hsecond
    exact scale_written_of_product hzero hsecond hproduct' (by decide)

/-- What is written is scaled to a finite magnitude at most two steps away. -/
lemma scale_written {x : Double} (hfinite : x.magnitude < infMagnitude) :
    ∃ m < infMagnitude, Nat.dist m x.magnitude ≤ 2 ∧
      Json.Numeral.scale (ofNatMagnitude x.written.digits) x.written.exponent = some m := by
  have hmagnitude := magnitude_written hfinite
  by_cases hzero : x.magnitude = 0
  · have hw : x.written = ⟨0, -1⟩ := if_pos hzero
    have hexact := Json.Numeral.scale_exact (d := x.written) (by rw [hw]; decide)
      (by rw [hw]; decide) (hmagnitude.trans_lt hfinite)
    rw [hmagnitude] at hexact
    exact ⟨_, hfinite, by rw [Nat.dist_self]; omega, hexact⟩
  · rcases Nat.lt_or_ge (x.magnitude + 2) infMagnitude with hlow | htop
    · obtain ⟨m, hdist, hscale⟩ := Json.Numeral.scale_near (bounded_written hzero hfinite)
        (hmagnitude.trans_lt hfinite)
      rw [hmagnitude] at hdist
      have hm : m < infMagnitude := by
        rw [Nat.dist] at hdist
        omega
      exact ⟨m, hm, hdist, hscale hm⟩
    · refine ⟨infMagnitude - 1, by decide, ?_, scale_written_top htop hfinite⟩
      rw [Nat.dist]
      omega

/-- The parts of the double that comes out. -/
lemma reread_parts {x : Double} (hfinite : x.magnitude < infMagnitude) :
    x.reread.negative = x.negative ∧ x.reread.magnitude < infMagnitude ∧
      Nat.dist x.reread.magnitude x.magnitude ≤ 2 ∧
      Json.Numeral.scale (ofNatMagnitude x.written.digits) x.written.exponent =
        some x.reread.magnitude := by
  obtain ⟨m, hm, hdist, hscale⟩ := scale_written hfinite
  have hlt : m < 2 ^ 63 := hm.trans (by decide)
  have hreread : x.reread = ofParts x.negative m := by rw [reread, hscale, Option.getD_some]
  rw [hreread, negative_ofParts _ hlt, magnitude_ofParts _ hlt]
  exact ⟨rfl, hm, hdist, hscale⟩

lemma isFinite_reread {x : Double} (h : x.isFinite = true) : x.reread.isFinite = true :=
  decide_eq_true (reread_parts (of_decide_eq_true h)).2.1

/-- **If at most `2 ^ 53` is written, with an exponent between `-22` and `22`, the same double comes
out.** -/
lemma reread_eq_self {x : Double} (hfinite : x.magnitude < infMagnitude)
    (hdigits : x.written.digits ≤ 2 ^ 53) (hexponent : x.written.exponent.natAbs ≤ 22) :
    x.reread = x := by
  have hmagnitude := magnitude_written hfinite
  rw [reread, Json.Numeral.scale_exact hdigits hexponent (hmagnitude.trans_lt hfinite), hmagnitude,
    Option.getD_some, ofParts_self]

end BootLayer.Double

namespace BootLayer.Json.Numeral

/-- **The JSON text of a finite double after its sign is read** up to the next token. -/
lemma read_jsonDigits {x : Double} (finite : x.isFinite = true) {rest : List Char}
    (hrest : Follows rest) :
    read x.negative (x.jsonDigits ++ rest) =
      some (num x.reread (Double.isFinite_reread finite), rest) := by
  have hfinite : x.magnitude < Double.infMagnitude := of_decide_eq_true finite
  obtain ⟨p, hp, htext, hvalue⟩ := Double.exists_parts_jsonDigits hfinite
  obtain ⟨hnegative, -, -, hscale⟩ := Double.reread_parts hfinite
  have hfin := Double.isFinite_reread finite
  have hself : Double.ofParts x.negative x.reread.magnitude = x.reread := by
    rw [← hnegative, Double.ofParts_self]
  have hdouble : double? x.negative x.written.digits x.written.exponent =
      some (num x.reread hfin) := by
    rw [double?, hscale, Option.bind_some]
    simp only [hself, dif_pos hfin]
  rw [← htext, hp.read_text x.negative hrest, hvalue, hdouble]
  rfl

end BootLayer.Json.Numeral
