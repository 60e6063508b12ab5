import Mathlib.Tactic.NormNum
import BootLayer.Proofs.NumberText
import BootLayer.Proofs.Packing
import BootLayer.Proofs.Run

/-!
The texts of an integer in base ten and in base sixteen, and the double that all of them denote.

* `readNumber_toString`: the decimal text of an integer is the double nearest to it.
* `Hexadecimal.IsText`: the texts of an integer in base sixteen, with digits of either case and any
  number of zeros in front; `readNumber_hex` says what they denote.
* `integer_paths_agree`: both texts and the integer itself give the same double, as far as there is
  a finite one; from `2 ^ 1024 - 2 ^ 970` on the decimal text is an infinity and the other one is
  refused.
-/

namespace BootLayer

/-! ### Base ten -/

/-- The decimal text of an integer: a hyphen for a negative one, then the digits of its size. -/
lemma toList_toString (n : Int) :
    (toString n).toList =
      if n < 0 then '-' :: Decimal.digitsOf n.natAbs else Decimal.digitsOf n.natAbs := by
  cases n with
  | ofNat m =>
      rw [if_neg (by simp)]
      exact String.toList_ofList
  | negSucc m =>
      rw [if_pos (by omega)]
      show ("-" ++ Nat.repr (m + 1)).toList = _
      rw [String.toList_append, Nat.repr, String.toList_ofList, String.toList_ofList]
      rfl

/-- The decimal text of an integer is a numeral. -/
lemma Numeral.read_toString (n : Int) :
    Numeral.read (toString n).toList = some (.finite (n < 0) ⟨n.natAbs, 0⟩) := by
  have hdigits := Decimal.digits_digitsOf n.natAbs
  have hne := Decimal.digitsOf_ne_nil n.natAbs
  have hstart := hdigits.startsWithDigit hne []
  have hwhole := Numeral.readDecimal_whole hdigits hne
  rw [Decimal.ofDigits_digitsOf] at hwhole
  rw [List.append_nil] at hstart
  have hread := Numeral.read_signed (decide (n < 0)) hstart hwhole
  simp only [decide_eq_true_eq] at hread
  rw [toList_toString, hread]

lemma plain_of_mem_toString {n : Int} {c : Char} (hc : c ∈ (toString n).toList) :
    Double.Plain c := by
  rw [toList_toString] at hc
  split_ifs at hc with hneg
  · rcases List.mem_cons.1 hc with rfl | h
    · exact .inr (by decide)
    · exact .inl (Decimal.digits_digitsOf _ c h)
  · exact .inl (Decimal.digits_digitsOf _ c hc)

/-- **The decimal text of an integer is the double nearest to it.** -/
lemma readNumber_toString (n : Int) : readNumber (toString n) = .ok (Double.ofInt n) := by
  have hmagnitude : Decimal.magnitude ⟨n.natAbs, 0⟩ = Double.ofNatMagnitude n.natAbs := by
    rw [Decimal.magnitude_eq]
    simp only [Decimal.numerator, Decimal.denominator, Int.toNat_zero, Int.neg_zero, pow_zero,
      Nat.mul_one]
    rfl
  rw [readNumber_of_plain (fun _ hc => (plain_of_mem_toString hc).not_blank)
    (fun hc => (plain_of_mem_toString hc).ne_x rfl) (Numeral.read_toString n), Numeral.toDouble,
    hmagnitude]
  rfl

/-! ### Base sixteen -/

namespace Hexadecimal

/-- The characters write a number in base sixteen: its digits, each of either case, after any number
of zeros. -/
def Writes (cs : List Char) (n : Nat) : Prop :=
  ∃ zeros, cs.map Char.toLower = List.replicate zeros '0' ++ Nat.toDigits 16 n

/-- The text is one of an integer in base sixteen: the mark, a hyphen for a negative integer, and
digits of its size. -/
def IsText (n : Int) (text : String) : Prop :=
  ∃ digits, Writes digits n.natAbs ∧
    text.toList = '0' :: 'x' :: if n < 0 then '-' :: digits else digits

lemma digit?_eq (c : Char) :
    digit? c =
      if 48 ≤ c.toNat ∧ c.toNat ≤ 57 then some (c.toNat - 48)
      else if 97 ≤ c.toNat ∧ c.toNat ≤ 102 then some (c.toNat - 87)
      else if 65 ≤ c.toNat ∧ c.toNat ≤ 70 then some (c.toNat - 55)
      else none := rfl

/-- The case of a digit does not count. -/
lemma digit?_toLower (c : Char) : digit? c.toLower = digit? c := by
  simp only [digit?_eq, Text.toNat_toLower]
  grind

lemma toLower_eq_underscore_iff (c : Char) : c.toLower = '_' ↔ c = '_' := by
  rw [← Char.toNat_inj, ← Char.toNat_inj, Text.toNat_toLower]
  show _ = 95 ↔ c.toNat = 95
  split_ifs <;> omega

lemma readDigits_map_toLower (acc : Nat) (cs : List Char) :
    readDigits acc (cs.map Char.toLower) = readDigits acc cs := by
  induction cs generalizing acc with
  | nil => rfl
  | cons c cs ih =>
      simp only [List.map_cons, readDigits, toLower_eq_underscore_iff, digit?_toLower, ih]

lemma digit?_digitChar : ∀ n < 16, n.digitChar ≠ '_' ∧ digit? n.digitChar = some n := by
  decide

/-- A digit in front is read first. -/
lemma readDigits_digitChar (acc : Nat) {d : Nat} (hd : d < 16) (rest : List Char) :
    readDigits acc (d.digitChar :: rest) = readDigits (16 * acc + d) rest := by
  obtain ⟨hne, hdigit⟩ := digit?_digitChar d hd
  rw [readDigits, if_neg hne, hdigit]

/-- The digits of a number are read as it. -/
lemma readDigits_toDigits (n : Nat) (rest : List Char) :
    readDigits 0 (Nat.toDigits 16 n ++ rest) = readDigits n rest := by
  induction n using Nat.strong_induction_on generalizing rest with
  | _ n ih =>
      rcases Nat.lt_or_ge n 16 with hlt | hge
      · rw [Nat.toDigits_of_lt_base hlt, List.singleton_append, readDigits_digitChar 0 hlt]
        congr 1
        omega
      · have hmod : n % 16 < 16 := Nat.mod_lt n (by norm_num)
        rw [Nat.toDigits_of_base_le (by norm_num) hge, List.append_assoc, List.singleton_append,
          ih (n / 16) (by omega), readDigits_digitChar _ hmod, Nat.div_add_mod]

/-- Zeros in front do not count. -/
lemma readDigits_replicate_zero (zeros : Nat) (cs : List Char) :
    readDigits 0 (List.replicate zeros '0' ++ cs) = readDigits 0 cs := by
  induction zeros with
  | zero => rfl
  | succ zeros ih =>
      rw [List.replicate_succ, List.cons_append]
      exact (readDigits_digitChar 0 (d := 0) (by norm_num) _).trans ih

lemma readDigits_of_writes {cs : List Char} {n : Nat} (h : Writes cs n) :
    readDigits 0 cs = some n := by
  obtain ⟨zeros, hcs⟩ := h
  rw [← readDigits_map_toLower, hcs, readDigits_replicate_zero,
    ← List.append_nil (Nat.toDigits 16 n), readDigits_toDigits]
  rfl

/-- Every character of a written number is a digit. -/
lemma digit?_of_mem_toDigits {n : Nat} {c : Char} (hc : c ∈ Nat.toDigits 16 n) :
    ∃ d, digit? c = some d := by
  induction n using Nat.strong_induction_on with
  | _ n ih =>
      rcases Nat.lt_or_ge n 16 with hlt | hge
      · rw [Nat.toDigits_of_lt_base hlt, List.mem_singleton] at hc
        exact ⟨n, hc ▸ (digit?_digitChar n hlt).2⟩
      · rw [Nat.toDigits_of_base_le (by norm_num) hge, List.mem_append, List.mem_singleton] at hc
        rcases hc with hc | hc
        · exact ih (n / 16) (by omega) hc
        · exact ⟨n % 16, hc ▸ (digit?_digitChar _ (Nat.mod_lt n (by norm_num))).2⟩

lemma Writes.digit? {cs : List Char} {n : Nat} (h : Writes cs n) {c : Char} (hc : c ∈ cs) :
    ∃ d, digit? c = some d := by
  obtain ⟨zeros, hcs⟩ := h
  have hmem : c.toLower ∈ List.replicate zeros '0' ++ Nat.toDigits 16 n := by
    rw [← hcs]
    exact List.mem_map_of_mem hc
  rw [← digit?_toLower]
  rcases List.mem_append.1 hmem with hzero | hdigit
  · rw [List.eq_of_mem_replicate hzero]
    exact ⟨0, rfl⟩
  · exact digit?_of_mem_toDigits hdigit

lemma Writes.ne_nil {cs : List Char} {n : Nat} (h : Writes cs n) : cs ≠ [] := by
  rintro rfl
  obtain ⟨zeros, hcs⟩ := h
  have hnil := (List.append_eq_nil_iff.1 hcs.symm).2
  exact Nat.toDigits_ne_nil hnil

lemma not_blank_of_digit? {c : Char} {d : Nat} (h : digit? c = some d) :
    Text.isBlank c = false := by
  refine Text.not_blank_of_visible ?_
  rw [digit?_eq] at h
  split_ifs at h <;> omega

/-- A written number is read. -/
lemma readNat_of_writes {cs : List Char} {n : Nat} (h : Writes cs n) : readNat cs = some n := by
  obtain ⟨c, rest, rfl⟩ := List.exists_cons_of_ne_nil h.ne_nil
  obtain ⟨d, hd⟩ := h.digit? (List.mem_cons_self ..)
  have hne : c ≠ '_' := by
    rintro rfl
    cases hd
  have hread := readDigits_of_writes h
  rw [readDigits, if_neg hne, hd] at hread
  rw [readNat, hd]
  simpa using hread

/-- A written number is read under either sign. -/
lemma readInt_of_writes {cs : List Char} {n : Int} (h : Writes cs n.natAbs) :
    readInt (if n < 0 then '-' :: cs else cs) = some n := by
  have hnat := readNat_of_writes h
  split_ifs with hneg
  · rw [readInt, hnat]
    show some (-(n.natAbs : Int)) = some n
    congr 1
    omega
  · obtain ⟨c, rest, rfl⟩ := List.exists_cons_of_ne_nil h.ne_nil
    obtain ⟨d, hd⟩ := h.digit? (List.mem_cons_self ..)
    rw [readInt, hnat]
    · show some (n.natAbs : Int) = some n
      congr 1
      omega
    -- a sign is no digit
    · rintro _ ⟨⟩
      cases hd
    · rintro _ ⟨⟩
      cases hd

end Hexadecimal

/-- **What a text in base sixteen denotes**: the double nearest to its integer, if that is
finite. -/
lemma readNumber_hex {n : Int} {text : String} (h : Hexadecimal.IsText n text) :
    readNumber text =
      if (Double.ofInt n).isFinite then .ok (Double.ofInt n)
      else .error (.hugeHexadecimal text) := by
  obtain ⟨digits, hdigits, htext⟩ := h
  have hblank : ∀ c ∈ (if n < 0 then '-' :: digits else digits), Text.isBlank c = false := by
    intro c hc
    have hmem : c = '-' ∨ c ∈ digits := by
      split_ifs at hc
      · exact List.mem_cons.1 hc
      · exact .inr hc
    rcases hmem with rfl | hmem
    · decide
    · obtain ⟨d, hd⟩ := hdigits.digit? hmem
      exact Hexadecimal.not_blank_of_digit? hd
  simp only [readNumber, htext, Text.trim_of_not_blank hblank,
    Hexadecimal.readInt_of_writes hdigits]

/-! ### The three paths -/

namespace Host

lemma number_str (text : String) (world : World) :
    primitives.number (.str text) world = ((readNumber text).mapError .parse, world) := rfl

/-- An integer is packed as the double it widens to. -/
lemma call_fpack_int (n : Int64) (world : World) :
    primitives.call "fpack" [.int n] world =
      (.ok (.bytes (Value.widen n).pack.toList), world) := rfl

end Host

/-- **The three ways from an integer to a double agree.**  Below `2 ^ 1024 - 2 ^ 970` the decimal
text and every text in base sixteen denote the same finite double; from there on the decimal text
denotes the infinity of the integer's sign, and the texts in base sixteen are refused.  For an
integer of 64 bits the integer itself, as a number and packed, is that double too. -/
theorem integer_paths_agree (n : Int) (world : World) :
    (n.natAbs < 2 ^ 1024 - 2 ^ 970 →
      ∃ x : Double, x.isFinite = true ∧
        Host.primitives.number (.str (toString n)) world = (.ok x, world) ∧
        ∀ text, Hexadecimal.IsText n text →
          Host.primitives.number (.str text) world = (.ok x, world)) ∧
    (2 ^ 1024 - 2 ^ 970 ≤ n.natAbs →
      Host.primitives.number (.str (toString n)) world =
        (.ok (Double.infinity (n < 0)), world) ∧
      ∀ text, Hexadecimal.IsText n text →
        ∃ fault, Host.primitives.number (.str text) world = (.error (.parse fault), world)) ∧
    (∀ k : Int64, k.toInt = n →
      ∃ x : Double, x.isFinite = true ∧
        Host.primitives.number (.str (toString n)) world = (.ok x, world) ∧
        (∀ text, Hexadecimal.IsText n text →
          Host.primitives.number (.str text) world = (.ok x, world)) ∧
        Host.primitives.number (.int k) world = (.ok x, world) ∧
        (Value.int k).number? = some x ∧
        Host.primitives.call "fpack" [.int k] world = (.ok (.bytes x.pack.toList), world) ∧
        Double.unpack? x.pack.toList = some x) := by
  have hdecimal : Host.primitives.number (.str (toString n)) world =
      (.ok (Double.ofInt n), world) := by
    rw [Host.number_str, readNumber_toString]
    rfl
  have hbelow : n.natAbs < 2 ^ 1024 - 2 ^ 970 → (Double.ofInt n).isFinite = true ∧
      ∀ text, Hexadecimal.IsText n text →
        Host.primitives.number (.str text) world = (.ok (Double.ofInt n), world) := by
    intro hlt
    have hfinite := (Double.isFinite_ofInt_iff n).2 hlt
    refine ⟨hfinite, fun text htext => ?_⟩
    rw [Host.number_str, readNumber_hex htext, if_pos hfinite]
    rfl
  refine ⟨fun hlt => ?_, fun hge => ⟨?_, fun text htext => ?_⟩, ?_⟩
  · exact ⟨_, (hbelow hlt).1, hdecimal, (hbelow hlt).2⟩
  · rw [hdecimal, Double.ofInt_of_le hge]
  · have hhuge := mt (Double.isFinite_ofInt_iff n).1 (Nat.not_lt.2 hge)
    refine ⟨.hugeHexadecimal text, ?_⟩
    rw [Host.number_str, readNumber_hex htext, if_neg hhuge]
    rfl
  · rintro k rfl
    have hlt : k.toInt.natAbs < 2 ^ 1024 - 2 ^ 970 := by
      have hlow := k.le_toInt
      have hhigh := k.toInt_lt
      refine lt_of_lt_of_le (b := 2 ^ 64) (by omega) ?_
      decide +kernel
    obtain ⟨hfinite, hhex⟩ := hbelow hlt
    exact ⟨_, hfinite, hdecimal, hhex, rfl, rfl, Host.call_fpack_int k world,
      Double.unpack?_pack _⟩

/-- An odd integer past `2 ^ 53`, written with digits of both cases; the first integer whose decimal
text is infinite; and the least integer of 64 bits. -/
theorem odd_integer_paths_agree :
    let world : World := { tree := .emptyDir }
    let edge : Int := 2 ^ 1024 - 2 ^ 970
    let edgeDigits := List.replicate 13 'F' ++ 'c' :: List.replicate 242 '0'
    let edgeText := String.ofList ('0' :: 'x' :: edgeDigits)
    ((-9007199254741163 : Int).natAbs < 2 ^ 1024 - 2 ^ 970 ∧
      Hexadecimal.IsText (-9007199254741163) "0x-00200000000000aB" ∧
      ∃ x : Double, x.isFinite = true ∧
        Host.primitives.number (.str (toString (-9007199254741163 : Int))) world =
          (.ok x, world) ∧
        Host.primitives.number (.str "0x-00200000000000aB") world = (.ok x, world)) ∧
    (2 ^ 1024 - 2 ^ 970 ≤ edge.natAbs ∧
      Hexadecimal.IsText edge edgeText ∧
      Host.primitives.number (.str (toString edge)) world = (.ok (Double.infinity false), world) ∧
      ∃ fault, Host.primitives.number (.str edgeText) world = (.error (.parse fault), world)) ∧
    ∃ x : Double, Host.primitives.number (.str (toString Int64.minValue.toInt)) world =
        (.ok x, world) ∧
      Host.primitives.number (.int Int64.minValue) world = (.ok x, world) := by
  intro world edge edgeDigits edgeText
  have hlt : (-9007199254741163 : Int).natAbs < 2 ^ 1024 - 2 ^ 970 := by decide +kernel
  have htext : Hexadecimal.IsText (-9007199254741163) "0x-00200000000000aB" :=
    ⟨"00200000000000aB".toList, ⟨2, by decide +kernel⟩, by decide⟩
  have hedge : 2 ^ 1024 - 2 ^ 970 ≤ edge.natAbs := by decide +kernel
  have hpositive : ¬edge < 0 := by decide +kernel
  have hedgeText : Hexadecimal.IsText edge edgeText := by
    refine ⟨edgeDigits, ⟨0, by decide +kernel⟩, ?_⟩
    rw [if_neg hpositive]
    exact String.toList_ofList
  obtain ⟨x, hfinite, hdecimal, hhex⟩ := (integer_paths_agree (-9007199254741163) world).1 hlt
  obtain ⟨hinfinite, hrefused⟩ := (integer_paths_agree edge world).2.1 hedge
  obtain ⟨y, -, hleast, -, hint, -⟩ :=
    (integer_paths_agree Int64.minValue.toInt world).2.2 Int64.minValue rfl
  rw [decide_eq_false hpositive] at hinfinite
  exact ⟨⟨hlt, htext, x, hfinite, hdecimal, hhex _ htext⟩,
    ⟨hedge, hedgeText, hinfinite, hrefused _ hedgeText⟩, y, hleast, hint⟩

end BootLayer
