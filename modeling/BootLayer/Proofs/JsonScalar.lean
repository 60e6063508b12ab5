import Mathlib.Tactic.NormNum
import BootLayer.Json.Printer
import BootLayer.Json.Reader
import BootLayer.Proofs.IntegerText

/-!
Strings and integers in JSON text read back.

* `escape_cases`: the three ways to write a character.
* `readString_flatMap`: a written string is read up to its closing quote.
* `read_digits`: the digits of an integer of 64 bits are read up to the next token.
-/

namespace BootLayer.Json

/-! ### Strings -/

/-- The letters after the backslash of a short escape. -/
def shortLetters : List Char := ['"', '\\', 'b', 'f', 'n', 'r', 't']

/-- The characters with a short escape. -/
def shortEscaped : List Char := ['"', '\\', '\x08', '\x0c', '\n', '\r', '\t']

lemma escape_short {c : Char} (h : c ∈ shortEscaped) :
    ∃ e ∈ shortLetters, escaped? e = some c ∧ escape c = ['\\', e] := by
  simp only [shortEscaped, List.mem_cons, List.not_mem_nil, or_false] at h
  rcases h with rfl | rfl | rfl | rfl | rfl | rfl | rfl
  · exact ⟨'"', by simp [shortLetters], rfl, rfl⟩
  · exact ⟨'\\', by simp [shortLetters], rfl, rfl⟩
  · exact ⟨'b', by simp [shortLetters], rfl, rfl⟩
  · exact ⟨'f', by simp [shortLetters], rfl, rfl⟩
  · exact ⟨'n', by simp [shortLetters], rfl, rfl⟩
  · exact ⟨'r', by simp [shortLetters], rfl, rfl⟩
  · exact ⟨'t', by simp [shortLetters], rfl, rfl⟩

lemma escape_of_not_short {c : Char} (h : c ∉ shortEscaped) :
    escape c = if c.toNat < 0x20 then
        ['\\', 'u', '0', '0', Nat.digitChar (c.toNat / 16), Nat.digitChar (c.toNat % 16)]
      else [c] := by
  simp only [shortEscaped, List.mem_cons, List.not_mem_nil, or_false, not_or] at h
  obtain ⟨hquote, hbackslash, hb, hf, hn, hr, ht⟩ := h
  rw [escape, if_neg hquote, if_neg hbackslash, if_neg hb, if_neg hf, if_neg hn, if_neg hr,
    if_neg ht]

/-- A character is written by a short escape, by its number, or as it is. -/
lemma escape_cases (c : Char) :
    (∃ e ∈ shortLetters, escaped? e = some c ∧ escape c = ['\\', e]) ∨
    (c.toNat < 0x20 ∧ escape c =
      ['\\', 'u', '0', '0', Nat.digitChar (c.toNat / 16), Nat.digitChar (c.toNat % 16)]) ∨
    (c ≠ '"' ∧ c ≠ '\\' ∧ 0x20 ≤ c.toNat ∧ escape c = [c]) := by
  by_cases hshort : c ∈ shortEscaped
  · exact .inl (escape_short hshort)
  · have hescape := escape_of_not_short hshort
    by_cases hcontrol : c.toNat < 0x20
    · rw [if_pos hcontrol] at hescape
      exact .inr (.inl ⟨hcontrol, hescape⟩)
    · rw [if_neg hcontrol] at hescape
      refine .inr (.inr ⟨?_, ?_, Nat.not_lt.1 hcontrol, hescape⟩)
      · rintro rfl
        exact hshort (by decide)
      · rintro rfl
        exact hshort (by decide)

lemma readString_short {e c : Char} (he : e ∈ shortLetters) (h : escaped? e = some c)
    (rest : List Char) : readString ('\\' :: e :: rest) = prepend c (readString rest) := by
  simp only [shortLetters, List.mem_cons, List.not_mem_nil, or_false] at he
  rcases he with rfl | rfl | rfl | rfl | rfl | rfl | rfl <;> cases h <;> rfl

lemma codeUnit?_control : ∀ n < 0x20,
    codeUnit? '0' '0' (Nat.digitChar (n / 16)) (Nat.digitChar (n % 16)) = some n ∧
      isLowSurrogate n = false ∧ isHighSurrogate n = false := by
  decide

/-- The number of a character that is no half of a pair. -/
lemma readString_codeUnit {a b c d : Char} {unit : Nat} (h : codeUnit? a b c d = some unit)
    (hlow : isLowSurrogate unit = false) (hhigh : isHighSurrogate unit = false)
    (rest : List Char) :
    readString ('\\' :: 'u' :: a :: b :: c :: d :: rest) =
      prepend (Char.ofNat unit) (readString rest) := by
  rw [readString.eq_def ('\\' :: 'u' :: _)]
  simp only [h, hlow, hhigh, Bool.false_eq_true, if_false]

lemma readString_control {c : Char} (h : c.toNat < 0x20) (rest : List Char) :
    readString ('\\' :: 'u' :: '0' :: '0' :: Nat.digitChar (c.toNat / 16) ::
      Nat.digitChar (c.toNat % 16) :: rest) = prepend c (readString rest) := by
  obtain ⟨hunit, hlow, hhigh⟩ := codeUnit?_control c.toNat h
  rw [readString_codeUnit hunit hlow hhigh, Char.ofNat_toNat]

lemma readString_plain {c : Char} (hquote : c ≠ '"') (hbackslash : c ≠ '\\')
    (hcontrol : 0x20 ≤ c.toNat) (rest : List Char) :
    readString (c :: rest) = prepend c (readString rest) := by
  have hplain : ¬(c.toNat < 0x20 ∨ c = '\\') := not_or.2 ⟨Nat.not_lt.2 hcontrol, hbackslash⟩
  rw [readString.eq_def (c :: rest)]
  split
  case h_1 heq => exact absurd (List.cons.inj heq).1 hquote
  case h_2 heq => exact absurd (List.cons.inj heq).1 hbackslash
  case h_3 heq => exact absurd (List.cons.inj heq).1 hbackslash
  case h_4 heq =>
    cases heq
    exact if_neg hplain
  case h_5 heq => cases heq

/-- A written character is read. -/
lemma readString_escape (c : Char) (rest : List Char) :
    readString (escape c ++ rest) = prepend c (readString rest) := by
  rcases escape_cases c with
    ⟨e, he, hchar, hescape⟩ | ⟨hcontrol, hescape⟩ | ⟨hq, hb, hc, hescape⟩
  · rw [hescape]
    exact readString_short he hchar rest
  · rw [hescape]
    exact readString_control hcontrol rest
  · rw [hescape]
    exact readString_plain hq hb hc rest

/-- **A written string is read** up to its closing quote. -/
lemma readString_flatMap (text rest : List Char) :
    readString (text.flatMap escape ++ '"' :: rest) = some (text, rest) := by
  induction text with
  | nil => rfl
  | cons c text ih =>
      rw [List.flatMap_cons, List.append_assoc, readString_escape, ih]
      rfl

/-! ### Integers -/

/-- What may stand after a complete document: nothing, a comma or a closing bracket. -/
def Follows (rest : List Char) : Prop := ∀ c ∈ rest.head?, c = ',' ∨ c = ']' ∨ c = '\x7d'

lemma Follows.not_digit {rest : List Char} (h : Follows rest) :
    ∀ c ∈ rest.head?, c.isDigit = false := by
  intro c hc
  rcases h c hc with rfl | rfl | rfl <;> decide

namespace Numeral

lemma splitFraction_of_follows {rest : List Char} (h : Follows rest) :
    splitFraction rest = some (none, rest) := by
  rw [splitFraction]
  rintro tail rfl
  exact absurd (h '.' rfl) (by decide)

lemma splitExponent_of_follows {rest : List Char} (h : Follows rest) :
    splitExponent rest = some (none, rest) := by
  cases rest with
  | nil => rfl
  | cons c rest =>
      rw [splitExponent, if_neg]
      rcases h c rfl with rfl | rfl | rfl <;> decide

/-- One more digit never makes a number smaller. -/
lemma le_foldl_digits (start : Nat) (ds : List Char) :
    start ≤ ds.foldl (fun n c => 10 * n + (c.toNat - 48)) start := by
  induction ds generalizing start with
  | nil => exact Nat.le_refl start
  | cons c ds ih => exact Nat.le_trans (by omega) (ih (10 * start + (c.toNat - 48)))

/-- Digits of a number that fits an unsigned word are all absorbed. -/
lemma absorb_of_lt {start : Nat} {ds : List Char}
    (h : ds.foldl (fun n c => 10 * n + (c.toNat - 48)) start < 2 ^ 64) :
    absorb start ds = (ds.foldl (fun n c => 10 * n + (c.toNat - 48)) start, ds.length) := by
  induction ds generalizing start with
  | nil => rfl
  | cons c ds ih =>
      have hnext : 10 * start + (c.toNat - 48) < Nat.pow 2 64 :=
        lt_of_le_of_lt (le_foldl_digits _ ds) h
      rw [absorb, if_pos hnext, ih h]
      rfl

lemma absorb_digitsOf {n : Nat} (h : n < 2 ^ 64) :
    absorb 0 (Decimal.digitsOf n) = (n, (Decimal.digitsOf n).length) := by
  have hvalue : (Decimal.digitsOf n).foldl (fun n c => 10 * n + (c.toNat - 48)) 0 = n :=
    Decimal.ofDigits_digitsOf n
  rw [absorb_of_lt (by rwa [hvalue]), hvalue]

lemma digitChar_ne_zero : ∀ n < 10, n ≠ 0 → Nat.digitChar n ≠ '0' := by
  decide

/-- No digits but those of zero start with a zero. -/
lemma head?_digitsOf_ne {n : Nat} (hn : n ≠ 0) : (Decimal.digitsOf n).head? ≠ some '0' := by
  induction n using Nat.strong_induction_on with
  | _ n ih =>
      rw [Decimal.digitsOf]
      rcases Nat.lt_or_ge n 10 with hlt | hge
      · rw [Nat.toDigits_of_lt_base hlt]
        simpa using digitChar_ne_zero n hlt hn
      · rw [Nat.toDigits_of_base_le (by norm_num) hge,
          List.head?_append_of_ne_nil _ Nat.toDigits_ne_nil]
        exact ih (n / 10) (by omega) (by omega)

lemma noLeadingZero (n : Nat) :
    ¬(Decimal.digitsOf n = [] ∨
      1 < (Decimal.digitsOf n).length ∧ (Decimal.digitsOf n).head? = some '0') := by
  rintro (h | ⟨hlength, hhead⟩)
  · exact Decimal.digitsOf_ne_nil n h
  · by_cases hn : n = 0
    · subst hn
      exact absurd hlength (by decide)
    · exact head?_digitsOf_ne hn hhead

/-- **The digits of an integer of 64 bits are read** up to the next token. -/
lemma read_digits (negative : Bool) {n : Nat} (hn : n < 2 ^ 64) {rest : List Char}
    (h : Follows rest) :
    read negative (Decimal.digitsOf n ++ rest) =
      (integer negative n.toUInt64).map fun number => (number, rest) := by
  have hdigits := Decimal.digits_digitsOf n
  have hsplit : splitDigits (Decimal.digitsOf n ++ rest) = (Decimal.digitsOf n, rest) := by
    rw [splitDigits, hdigits.takeWhile_append h.not_digit, hdigits.dropWhile_append h.not_digit]
  have hassemble : assemble negative (Decimal.digitsOf n) none none =
      integer negative n.toUInt64 := by
    simp only [assemble, absorb_digitsOf hn, Nat.sub_self, if_true]
  simp only [read, hsplit, if_neg (noLeadingZero n), splitFraction_of_follows h,
    splitExponent_of_follows h, hassemble, Option.bind_eq_bind, Option.bind_some]
  cases integer negative n.toUInt64 <;> rfl

lemma integer_of_neg {n : UInt64} (hpos : 0 < n.toNat) (hle : n.toNat ≤ 2 ^ 63) :
    integer true n = some (int (Int64.ofInt (-n.toNat))) := by
  have hsize : 0 < n.toNat ∧ n.toNat ≤ Nat.pow 2 63 := ⟨hpos, hle⟩
  rw [integer, if_pos rfl, if_pos hsize]

lemma integer_of_lt {n : UInt64} (hlt : n.toNat < 2 ^ 63) :
    integer false n = some (int n.toInt64) := by
  have hsize : ¬Nat.pow 2 63 ≤ n.toNat := Nat.not_le.2 hlt
  rw [integer, if_neg (by decide), dif_neg hsize]

/-- The sign and the size of an integer with sign make it. -/
lemma integer_int (k : Int64) :
    integer (k.toInt < 0) k.toInt.natAbs.toUInt64 = some (int k) := by
  have hlow := k.le_toInt
  have hhigh := k.toInt_lt
  have hsize : k.toInt.natAbs.toUInt64.toNat = k.toInt.natAbs := Nat.mod_eq_of_lt (by omega)
  by_cases hneg : k.toInt < 0
  · rw [decide_eq_true hneg, integer_of_neg (by omega) (by omega), hsize,
      show -(k.toInt.natAbs : Int) = k.toInt by omega, Int64.ofInt_toInt]
  · have hcast : k.toInt.natAbs.toUInt64.toInt64 = Int64.ofInt k.toInt.natAbs := rfl
    rw [decide_eq_false hneg, integer_of_lt (by omega), hcast,
      show (k.toInt.natAbs : Int) = k.toInt by omega, Int64.ofInt_toInt]

/-- A large integer without sign is made of its size. -/
lemma integer_nat {n : UInt64} (large : Nat.pow 2 63 ≤ n.toNat) :
    integer false n.toNat.toUInt64 = some (nat n large) := by
  have hvalue : n.toNat.toUInt64 = n := UInt64.ofNat_toNat
  rw [integer, hvalue, if_neg (by decide), dif_pos large]

end Numeral

end BootLayer.Json
