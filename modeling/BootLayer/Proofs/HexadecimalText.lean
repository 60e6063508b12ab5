import Mathlib.Data.Nat.Digits.Defs
import Mathlib.Tactic.IntervalCases
import BootLayer.Proofs.IntegerText
import BootLayer.Proofs.Nearest

/-!
Numbers in base sixteen: which texts there are, and the double that each of them denotes.

`Spells` says which characters spell a natural number, `SpellsInt` puts a sign before it, and
`Denotes` blanks around it.

* `readNat_eq_some_iff`, `readInt_eq_some_iff`, `denotes_iff`: the reader accepts exactly these
  texts, as the number they spell.
* `hexadecimal_number_iff`: a text after `0x` is a number exactly if it denotes an integer below the
  middle between the greatest finite double and `2 ^ 1024`, and then the nearest double; every other
  text is refused.
-/

namespace BootLayer

/-- Digits in the order of reading give the number that they spell. -/
lemma ofDigits_reverse (base : Nat) (ds : List Nat) :
    Nat.ofDigits base ds.reverse = ds.foldl (fun acc d => base * acc + d) 0 := by
  rw [Nat.ofDigits_eq_foldr, List.foldr_reverse]
  congr 1
  funext acc d
  exact Nat.add_comm ..

namespace Hexadecimal

/-! ### The grammar -/

/-- The sixteen digits, each at the place of its value. -/
def digits : List Char :=
  ['0', '1', '2', '3', '4', '5', '6', '7', '8', '9', 'a', 'b', 'c', 'd', 'e', 'f']

/-- A digit of either case. -/
def IsDigit (c : Char) : Prop := c.toLower ∈ digits

instance : DecidablePred IsDigit := fun c => inferInstanceAs (Decidable (c.toLower ∈ digits))

/-- The value of a digit. -/
def digitValue (c : Char) : Nat := digits.idxOf c.toLower

/-- The values of the digits among the characters, the most significant first; underscores do not
count. -/
def digitValues (cs : List Char) : List Nat := (cs.filter (· ≠ '_')).map digitValue

/-- The characters spell a natural number: a digit, then digits and underscores. -/
structure Spells (cs : List Char) (n : Nat) : Prop where
  first : ∃ c ∈ cs.head?, IsDigit c
  all : ∀ c ∈ cs, IsDigit c ∨ c = '_'
  value : Nat.ofDigits 16 (digitValues cs).reverse = n

/-- The characters spell an integer: at most one sign, then a natural number. -/
inductive SpellsInt : List Char → Int → Prop where
  | plain {cs : List Char} {n : Nat} (h : Spells cs n) : SpellsInt cs n
  | plus {cs : List Char} {n : Nat} (h : Spells cs n) : SpellsInt ('+' :: cs) n
  | minus {cs : List Char} {n : Nat} (h : Spells cs n) : SpellsInt ('-' :: cs) (-n)

/-- The characters denote an integer: they spell it, with any blanks around. -/
def Denotes (cs : List Char) (n : Int) : Prop :=
  ∃ before body after, cs = before ++ body ++ after ∧ (∀ c ∈ before, Text.isBlank c = true) ∧
    (∀ c ∈ after, Text.isBlank c = true) ∧ SpellsInt body n

/-! ### Digits -/

lemma digit?_of_mem_digits : ∀ c ∈ digits, digit? c = some (digits.idxOf c) := by
  -- decided for the members of the list, not for all characters
  rw [← List.forall_iff_forall_mem]
  decide

lemma ofNat_mem_digits {k : Nat} (h : 48 ≤ k ∧ k ≤ 57 ∨ 97 ≤ k ∧ k ≤ 102) :
    Char.ofNat k ∈ digits := by
  rcases h with ⟨hlow, hhigh⟩ | ⟨hlow, hhigh⟩ <;> interval_cases k <;> decide

/-- The reader knows the digits of either case and their values. -/
lemma digit?_eq_some_iff {c : Char} {d : Nat} :
    digit? c = some d ↔ IsDigit c ∧ digitValue c = d := by
  rw [← digit?_toLower, IsDigit, digitValue]
  constructor
  · intro h
    have hmem : c.toLower ∈ digits := by
      rw [← Char.ofNat_toNat c.toLower]
      refine ofNat_mem_digits ?_
      have hlower := Text.toNat_toLower c
      rw [digit?_eq] at h
      split_ifs at h <;> split_ifs at hlower <;> omega
    rw [digit?_of_mem_digits _ hmem, Option.some.injEq] at h
    exact ⟨hmem, h⟩
  · rintro ⟨hmem, rfl⟩
    exact digit?_of_mem_digits _ hmem

lemma IsDigit.digit? {c : Char} (h : IsDigit c) : digit? c = some (digitValue c) :=
  digit?_eq_some_iff.2 ⟨h, rfl⟩

lemma digit?_eq_none_iff {c : Char} : digit? c = none ↔ ¬IsDigit c := by
  rw [Option.eq_none_iff_forall_ne_some]
  exact ⟨fun h hdigit => h _ hdigit.digit?, fun h d hd => h (digit?_eq_some_iff.1 hd).1⟩

lemma IsDigit.ne_underscore {c : Char} (h : IsDigit c) : c ≠ '_' := by
  rintro rfl
  exact absurd h (by decide)

/-- What is read after `acc`: digits and underscores, the digits one after the other. -/
lemma readDigits_eq_some_iff {acc n : Nat} {cs : List Char} :
    readDigits acc cs = some n ↔ (∀ c ∈ cs, IsDigit c ∨ c = '_') ∧
      (digitValues cs).foldl (fun acc d => 16 * acc + d) acc = n := by
  induction cs generalizing acc with
  | nil => simp [readDigits, digitValues]
  | cons c cs ih =>
      rw [readDigits, List.forall_mem_cons]
      split_ifs with hc
      · subst hc
        rw [ih]
        simp [digitValues]
      · by_cases hdigit : IsDigit c
        · have hvalues : digitValues (c :: cs) = digitValue c :: digitValues cs := by
            simp [digitValues, hc]
          rw [hdigit.digit?, hvalues, List.foldl_cons]
          simp only [ih, hdigit, true_or, true_and]
        · rw [digit?_eq_none_iff.2 hdigit]
          simp [hdigit, hc]

/-! ### Numbers -/

/-- A number is read from its first digit on. -/
lemma readNat_cons {c : Char} (h : IsDigit c) (cs : List Char) :
    readNat (c :: cs) = readDigits 0 (c :: cs) := by
  rw [readNat, readDigits, if_neg h.ne_underscore, h.digit?]
  simp

/-- **The reader accepts exactly the spellings of natural numbers.** -/
lemma readNat_eq_some_iff {cs : List Char} {n : Nat} : readNat cs = some n ↔ Spells cs n := by
  constructor
  · intro h
    cases cs with
    | nil => cases h
    | cons c cs =>
        by_cases hdigit : IsDigit c
        · rw [readNat_cons hdigit, readDigits_eq_some_iff, ← ofDigits_reverse] at h
          exact ⟨⟨c, rfl, hdigit⟩, h.1, h.2⟩
        · rw [readNat, digit?_eq_none_iff.2 hdigit] at h
          cases h
  · intro h
    obtain ⟨c, hc, hdigit⟩ := h.first
    obtain ⟨rest, rfl⟩ := List.head?_eq_some_iff.1 hc
    rw [readNat_cons hdigit, readDigits_eq_some_iff, ← ofDigits_reverse]
    exact ⟨h.all, h.value⟩

/-- A spelling starts with a digit, hence with no sign. -/
lemma Spells.head_ne_sign {cs : List Char} {n : Nat} (h : Spells cs n) (rest : List Char) :
    cs ≠ '-' :: rest ∧ cs ≠ '+' :: rest := by
  obtain ⟨c, hc, hdigit⟩ := h.first
  constructor <;> rintro rfl <;> cases hc <;> exact absurd hdigit (by decide)

lemma readInt_minus (cs : List Char) :
    readInt ('-' :: cs) = (readNat cs).map fun n : Nat => -(n : Int) := by
  rw [readInt]
  cases readNat cs <;> rfl

/-- **The reader accepts exactly the spellings of integers.** -/
lemma readInt_eq_some_iff {cs : List Char} {n : Int} : readInt cs = some n ↔ SpellsInt cs n := by
  constructor
  · intro h
    unfold readInt at h
    split at h
    · rw [← readInt, readInt_minus] at h
      obtain ⟨m, hm, rfl⟩ := Option.map_eq_some_iff.1 h
      exact .minus (readNat_eq_some_iff.1 hm)
    · obtain ⟨m, hm, rfl⟩ := Option.map_eq_some_iff.1 h
      exact .plus (readNat_eq_some_iff.1 hm)
    · obtain ⟨m, hm, rfl⟩ := Option.map_eq_some_iff.1 h
      exact .plain (readNat_eq_some_iff.1 hm)
  · rintro (h | h | h)
    · rw [readInt, readNat_eq_some_iff.2 h]
      · rfl
      · exact fun rest => (h.head_ne_sign rest).1
      · exact fun rest => (h.head_ne_sign rest).2
    · rw [readInt, readNat_eq_some_iff.2 h]
      rfl
    · rw [readInt_minus, readNat_eq_some_iff.2 h]
      rfl

/-- There is no blank in a spelling. -/
lemma Spells.not_blank {cs : List Char} {n : Nat} (h : Spells cs n) :
    ∀ c ∈ cs, Text.isBlank c = false := by
  intro c hc
  rcases h.all c hc with hdigit | rfl
  · exact not_blank_of_digit? hdigit.digit?
  · decide

lemma SpellsInt.not_blank {cs : List Char} {n : Int} (h : SpellsInt cs n) :
    ∀ c ∈ cs, Text.isBlank c = false := by
  cases h with
  | plain h => exact h.not_blank
  | plus h => exact List.forall_mem_cons.2 ⟨by decide, h.not_blank⟩
  | minus h => exact List.forall_mem_cons.2 ⟨by decide, h.not_blank⟩

/-- **The reader accepts exactly what denotes an integer**, once it is trimmed. -/
lemma denotes_iff {cs : List Char} {n : Int} :
    Denotes cs n ↔ readInt (Text.trim cs) = some n := by
  rw [readInt_eq_some_iff]
  exact Text.exists_surrounded_iff (fun _ h => h.not_blank) cs

end Hexadecimal

/-! ### The double that a text denotes -/

namespace Host

/-- A text after `0x` is read in base sixteen. -/
lemma number_hexadecimal (u : String) :
    number (.str ("0x" ++ u)) =
      match Hexadecimal.readInt (Text.trim u.toList) with
      | none => .error (.parse (.badHexadecimal ("0x" ++ u)))
      | some n =>
        if (Double.ofInt n).isFinite then .ok (Double.ofInt n)
        else .error (.parse (.hugeHexadecimal ("0x" ++ u))) := by
  have htext : ("0x" ++ u).toList = '0' :: 'x' :: u.toList := String.toList_append
  simp only [number, readNumber, htext]
  cases Hexadecimal.readInt (Text.trim u.toList) with
  | none => rfl
  | some n =>
      simp only
      split_ifs <;> rfl

lemma number_of_denotes {u : String} {n : Int} (h : Hexadecimal.Denotes u.toList n)
    (hlt : n.natAbs < 2 ^ 1024 - 2 ^ 970) :
    number (.str ("0x" ++ u)) = .ok (Double.ofInt n) := by
  rw [number_hexadecimal, Hexadecimal.denotes_iff.1 h]
  exact if_pos ((Double.isFinite_ofInt_iff n).2 hlt)

lemma number_of_denotes_huge {u : String} {n : Int} (h : Hexadecimal.Denotes u.toList n)
    (hge : 2 ^ 1024 - 2 ^ 970 ≤ n.natAbs) :
    number (.str ("0x" ++ u)) = .error (.parse (.hugeHexadecimal ("0x" ++ u))) := by
  rw [number_hexadecimal, Hexadecimal.denotes_iff.1 h]
  exact if_neg (mt (Double.isFinite_ofInt_iff n).1 (Nat.not_lt.2 hge))

lemma number_of_not_denotes {u : String} (h : ∀ n, ¬Hexadecimal.Denotes u.toList n) :
    number (.str ("0x" ++ u)) = .error (.parse (.badHexadecimal ("0x" ++ u))) := by
  have hnone : Hexadecimal.readInt (Text.trim u.toList) = none :=
    Option.eq_none_iff_forall_ne_some.2 fun n hn => h n (Hexadecimal.denotes_iff.2 hn)
  rw [number_hexadecimal, hnone]

/-- A text after `0x` denotes a small integer, a huge one, or none. -/
lemma number_hexadecimal_cases (u : String) :
    (∃ n, Hexadecimal.Denotes u.toList n ∧ n.natAbs < 2 ^ 1024 - 2 ^ 970 ∧
      number (.str ("0x" ++ u)) = .ok (Double.ofInt n)) ∨
    (∃ n, Hexadecimal.Denotes u.toList n ∧ 2 ^ 1024 - 2 ^ 970 ≤ n.natAbs ∧
      number (.str ("0x" ++ u)) = .error (.parse (.hugeHexadecimal ("0x" ++ u)))) ∨
    ((∀ n, ¬Hexadecimal.Denotes u.toList n) ∧
      number (.str ("0x" ++ u)) = .error (.parse (.badHexadecimal ("0x" ++ u)))) := by
  by_cases h : ∃ n, Hexadecimal.Denotes u.toList n
  · obtain ⟨n, hn⟩ := h
    rcases Nat.lt_or_ge n.natAbs (2 ^ 1024 - 2 ^ 970) with hlt | hge
    · exact .inl ⟨n, hn, hlt, number_of_denotes hn hlt⟩
    · exact .inr (.inl ⟨n, hn, hge, number_of_denotes_huge hn hge⟩)
  · have hnone := not_exists.1 h
    exact .inr (.inr ⟨hnone, number_of_not_denotes hnone⟩)

end Host

/-- **Numbers in base sixteen: exact grammar and correct rounding.**  A text after `0x` is a number
exactly if it is, up to blanks around it, an optional sign, a digit, and then digits and
underscores, and the integer so written is smaller than `2 ^ 1024 - 2 ^ 970` in size.  The number is
then the nearest double, a tie going to the even one, and the positive zero for zero.  Every other
text is refused, as no integer or as one too large. -/
theorem hexadecimal_number_iff (u : String) :
    (∀ x, Host.number (.str ("0x" ++ u)) = .ok x ↔
      ∃ n : Int, Hexadecimal.Denotes u.toList n ∧ n.natAbs < 2 ^ 1024 - 2 ^ 970 ∧
        x.IsNearest n ∧ x.negative = decide (n < 0)) ∧
    (Hexadecimal.Denotes u.toList 0 →
      Host.number (.str ("0x" ++ u)) = .ok (Double.zero false)) ∧
    (∀ e, Host.number (.str ("0x" ++ u)) = .error e ↔
      (∀ n, ¬Hexadecimal.Denotes u.toList n) ∧ e = .parse (.badHexadecimal ("0x" ++ u)) ∨
      (∃ n, Hexadecimal.Denotes u.toList n ∧ 2 ^ 1024 - 2 ^ 970 ≤ n.natAbs) ∧
        e = .parse (.hugeHexadecimal ("0x" ++ u))) := by
  have hcases := Host.number_hexadecimal_cases u
  refine ⟨fun x => ⟨fun hx => ?_, ?_⟩, fun hzero => ?_, fun e => ⟨fun he => ?_, ?_⟩⟩
  · rcases hcases with ⟨n, hn, hlt, h⟩ | ⟨n, hn, hge, h⟩ | ⟨hnone, h⟩ <;> rw [h] at hx <;> cases hx
    exact ⟨n, hn, hlt, (Double.eq_ofInt_iff hlt _).1 rfl⟩
  · rintro ⟨n, hn, hlt, hx⟩
    rw [Host.number_of_denotes hn hlt, (Double.eq_ofInt_iff hlt x).2 hx]
  · have hlt : (0 : Int).natAbs < 2 ^ 1024 - 2 ^ 970 := by decide +kernel
    have hvalue : Double.ofInt 0 = Double.zero false := by decide +kernel
    rw [Host.number_of_denotes hzero hlt, hvalue]
  · rcases hcases with ⟨n, hn, hlt, h⟩ | ⟨n, hn, hge, h⟩ | ⟨hnone, h⟩ <;> rw [h] at he <;> cases he
    · exact .inr ⟨⟨n, hn, hge⟩, rfl⟩
    · exact .inl ⟨hnone, rfl⟩
  · rintro (⟨hnone, rfl⟩ | ⟨⟨n, hn, hge⟩, rfl⟩)
    · exact Host.number_of_not_denotes hnone
    · exact Host.number_of_denotes_huge hn hge

/-- A negative zero among blanks, and an integer in the middle of two doubles, which goes to the
even one. -/
theorem zero_and_tie_in_base_sixteen :
    let zero := " -0_0\u2003"
    let middle := "+20_0000_0000_0001"
    Hexadecimal.Denotes zero.toList 0 ∧
    Host.number (.str ("0x" ++ zero)) = .ok (Double.zero false) ∧
    Hexadecimal.Denotes middle.toList (2 ^ 53 + 1) ∧
    Host.number (.str ("0x" ++ middle)) = .ok ⟨0x4340000000000000⟩ := by
  intro zero middle
  have hzero : Hexadecimal.Denotes zero.toList 0 := Hexadecimal.denotes_iff.2 (by decide +kernel)
  have hmiddle : Hexadecimal.Denotes middle.toList (2 ^ 53 + 1) :=
    Hexadecimal.denotes_iff.2 (by decide +kernel)
  have hlt : (2 ^ 53 + 1 : Int).natAbs < 2 ^ 1024 - 2 ^ 970 := by decide +kernel
  have hvalue : Double.ofInt (2 ^ 53 + 1) = ⟨0x4340000000000000⟩ := by decide +kernel
  exact ⟨hzero, (hexadecimal_number_iff zero).2.1 hzero, hmiddle,
    ((hexadecimal_number_iff middle).1 _).2
      ⟨_, hmiddle, hlt, (Double.eq_ofInt_iff hlt _).1 hvalue⟩⟩

end BootLayer
