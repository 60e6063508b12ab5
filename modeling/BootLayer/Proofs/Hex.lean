import Mathlib.Data.List.Induction
import Mathlib.Tactic.Common
import BootLayer.Proofs.Utf8
import BootLayer.Text.Hex

/-!
Bytes written in hexadecimal digits, and the texts that are read as bytes.

* `decodePairs_eq_ok_iff`: pairs of characters are read as the bytes that are written with them in
  lower case, wherever they stand.
* `decode_eq_ok_iff`: a text is read as a byte string exactly if in lower case, and without the
  blanks around it, it is what is written for that byte string.
* `exists_decode_iff`: these are the texts of an even number of digits of either case.
* `decode_surrounded`, `decode_encode`: what is written reads back, also with blanks around it.
-/

namespace BootLayer.Text.Hex

/-! ### Digits -/

/-- The digits are visible characters of ASCII, and in lower case. -/
lemma digit_visible : ∀ n < 16,
    (digit n).toNat < 128 ∧ isBlank (digit n) = false ∧ (digit n).toLower = digit n := by
  decide

/-- Every character of written bytes is a digit. -/
lemma exists_digit_of_mem {bytes : Bytes} {c : Char} (hc : c ∈ bytes.flatMap pair) :
    ∃ n < 16, c = digit n := by
  obtain ⟨b, -, hpair⟩ := List.mem_flatMap.1 hc
  have hlt : b.toNat < 256 := b.toNat_lt
  rcases List.mem_cons.1 hpair with rfl | hlow
  · exact ⟨b.toNat / 16, by omega, rfl⟩
  · rw [List.mem_singleton] at hlow
    exact ⟨b.toNat % 16, by omega, hlow⟩

lemma not_blank_of_mem {bytes : Bytes} {c : Char} (hc : c ∈ bytes.flatMap pair) :
    isBlank c = false := by
  obtain ⟨n, hn, rfl⟩ := exists_digit_of_mem hc
  exact (digit_visible n hn).2.1

/-- Written bytes have no hyphen. -/
lemma hyphen_not_mem_encode (bytes : Bytes) : '-' ∉ (encode bytes).toList := by
  rw [encode, String.toList_ofList]
  intro hmem
  obtain ⟨n, hn, hdigit⟩ := exists_digit_of_mem hmem
  revert n
  decide

/-- Written bytes are in lower case. -/
lemma map_toLower_flatMap_pair (bytes : Bytes) :
    (bytes.flatMap pair).map Char.toLower = bytes.flatMap pair := by
  refine (List.map_congr_left fun c hc => ?_).trans (List.map_id _)
  obtain ⟨n, hn, rfl⟩ := exists_digit_of_mem hc
  exact (digit_visible n hn).2.2

lemma length_flatMap_pair (bytes : Bytes) : (bytes.flatMap pair).length = 2 * bytes.length := by
  induction bytes with
  | nil => rfl
  | cons b bytes ih =>
      rw [List.flatMap_cons, List.length_append, ih, List.length_cons, pair, List.length_cons,
        List.length_singleton]
      omega

/-- A digit of either case. -/
def IsDigit (c : Char) : Prop := c ∈ "0123456789abcdefABCDEF".toList

instance : DecidablePred IsDigit := fun c => inferInstanceAs (Decidable (c ∈ _))

lemma exists_code {c : Char} (hc : c.toNat < 128) : ∃ k < 128, c = Char.ofNat k :=
  ⟨c.toNat, hc, (Char.ofNat_toNat c).symm⟩

/-- Only ASCII characters are digits in lower case. -/
lemma toNat_lt_of_toLower {c : Char} {n : Nat} (hn : n < 16) (h : c.toLower = digit n) :
    c.toNat < 128 := by
  have hlower := toNat_toLower c
  have hdigit := (digit_visible n hn).1
  rw [← h] at hdigit
  split_ifs at hlower <;> omega

/-- Only ASCII codes have a value, and it is below sixteen. -/
lemma lt_of_value? {b : UInt8} {n : Nat} (h : value? b = some n) : n < 16 ∧ b.toNat < 128 := by
  simp only [value?] at h
  split_ifs at h <;> simp only [Option.some.injEq] at h <;> omega

/-- The value of an ASCII character is that of the digit that it is in lower case. -/
lemma value?_eq_some_iff {c : Char} (hc : c.toNat < 128) {n : Nat} :
    value? c.toNat.toUInt8 = some n ↔ n < 16 ∧ c.toLower = digit n := by
  have hcodes : ∀ k < 128, ∀ n < 16,
      value? (Char.ofNat k).toNat.toUInt8 = some n ↔ (Char.ofNat k).toLower = digit n := by
    decide +kernel
  obtain ⟨k, hk, rfl⟩ := exists_code hc
  constructor
  · intro h
    have hn := (lt_of_value? h).1
    exact ⟨hn, (hcodes k hk n hn).1 h⟩
  · rintro ⟨hn, h⟩
    exact (hcodes k hk n hn).2 h

/-- The digits of either case are those that are digits in lower case. -/
lemma isDigit_iff {c : Char} : IsDigit c ↔ ∃ n < 16, c.toLower = digit n := by
  have hdigits : "0123456789abcdefABCDEF".toList.all
      (fun c => (List.range 16).any fun n => c.toLower == digit n) = true := by
    decide +kernel
  have hcodes : ∀ k < 128, ∀ n < 16, (Char.ofNat k).toLower = digit n → IsDigit (Char.ofNat k) := by
    decide +kernel
  refine ⟨fun hc => ?_, ?_⟩
  · obtain ⟨n, hn, hdigit⟩ := List.any_eq_true.1 (List.all_eq_true.1 hdigits c hc)
    exact ⟨n, List.mem_range.1 hn, beq_iff_eq.1 hdigit⟩
  · rintro ⟨n, hn, h⟩
    obtain ⟨k, hk, rfl⟩ := exists_code (toNat_lt_of_toLower hn h)
    exact hcodes k hk n hn h

/-! ### Pairs -/

/-- A byte is made of its two digits. -/
lemma toUInt8_halves (b : UInt8) : (16 * (b.toNat / 16) + b.toNat % 16).toUInt8 = b := by
  rw [Nat.div_add_mod]
  exact UInt8.ofNat_toNat

/-- Pairs of digits have ASCII codes. -/
lemma lt_of_decodePairs {position : Nat} {ds bytes : Bytes} (heven : ds.length % 2 = 0)
    (h : decodePairs position ds = .ok bytes) : ∀ d ∈ ds, d.toNat < 128 := by
  induction ds using List.twoStepInduction generalizing position bytes with
  | nil => simp
  | singleton d => simp at heven
  | cons_cons a b rest ih _ =>
      rw [List.length_cons, List.length_cons] at heven
      rw [decodePairs] at h
      split at h
      · next x y hx hy =>
          split at h
          · next read hread =>
              simp only [List.mem_cons, forall_eq_or_imp]
              exact ⟨(lt_of_value? hx).2, (lt_of_value? hy).2, ih (by omega) hread⟩
          · cases h
      · cases h
      · cases h

/-- Two values below sixteen are the halves of one byte. -/
lemma pair_toUInt8 {x y : Nat} (hx : x < 16) (hy : y < 16) :
    pair (16 * x + y).toUInt8 = [digit x, digit y] := by
  have hbyte : (16 * x + y).toUInt8.toNat = 16 * x + y :=
    UInt8.toNat_ofNat_of_lt' (by show _ < 256; omega)
  rw [pair, hbyte, show (16 * x + y) / 16 = x by omega, show (16 * x + y) % 16 = y by omega]

/-- **Pairs of ASCII characters are read as the bytes that are written with them in lower case.** -/
lemma decodePairs_eq_ok_iff (position : Nat) {cs : List Char} (hascii : Utf8.Ascii cs)
    (heven : cs.length % 2 = 0) {bytes : Bytes} :
    decodePairs position (cs.map fun c => c.toNat.toUInt8) = .ok bytes ↔
      cs.map Char.toLower = bytes.flatMap pair := by
  induction cs using List.twoStepInduction generalizing position bytes with
  | nil => cases bytes <;> simp [decodePairs, pair]
  | singleton c => simp at heven
  | cons_cons a b rest ih _ =>
      rw [List.length_cons, List.length_cons] at heven
      obtain ⟨ha, hb, hrest⟩ : a.toNat < 128 ∧ b.toNat < 128 ∧ Utf8.Ascii rest := by
        simpa [Utf8.Ascii] using hascii
      have htail : ∀ read : Bytes,
          decodePairs (position + 2) (rest.map fun c => c.toNat.toUInt8) = .ok read ↔
            rest.map Char.toLower = read.flatMap pair :=
        fun read => ih (position + 2) hrest (by omega)
      rw [List.map_cons, List.map_cons, List.map_cons, List.map_cons, decodePairs]
      constructor
      · intro h
        split at h
        · next x y hx hy =>
            obtain ⟨hxlt, hax⟩ := (value?_eq_some_iff ha).1 hx
            obtain ⟨hylt, hby⟩ := (value?_eq_some_iff hb).1 hy
            split at h
            · next read hread =>
                cases h
                rw [List.flatMap_cons, pair_toUInt8 hxlt hylt, ← (htail read).1 hread, hax, hby]
                rfl
            · cases h
        · cases h
        · cases h
      · intro h
        cases bytes with
        | nil => cases h
        | cons byte read =>
            rw [List.flatMap_cons, pair] at h
            obtain ⟨hax, hby, hread⟩ : _ ∧ _ ∧ _ := by simpa using h
            have hlt : byte.toNat < 256 := byte.toNat_lt
            have hx := (value?_eq_some_iff ha).2 ⟨by omega, hax⟩
            have hy := (value?_eq_some_iff hb).2 ⟨by omega, hby⟩
            simp only [hx, hy, (htail read).2 hread, toUInt8_halves]

/-! ### Texts -/

/-- **A text is read as the bytes that are written like it**, in lower case and without the blanks
around it. -/
theorem decode_eq_ok_iff {text : String} {bytes : Bytes} :
    decode text = .ok bytes ↔ (trim text.toList).map Char.toLower = bytes.flatMap pair := by
  constructor
  · intro h
    rw [decode] at h
    split at h
    · cases h
    · next heven =>
        have hascii := Utf8.ascii_of_encode (lt_of_decodePairs (by omega) h)
        rw [String.toList_ofList] at hascii
        rw [Utf8.encode_ascii hascii] at h heven
        rw [List.length_map] at heven
        exact (decodePairs_eq_ok_iff 0 hascii (by omega)).1 h
  · intro h
    have hascii : Utf8.Ascii (trim text.toList) := by
      intro c hc
      have hmem : c.toLower ∈ bytes.flatMap pair := h ▸ List.mem_map_of_mem hc
      obtain ⟨n, hn, hdigit⟩ := exists_digit_of_mem hmem
      exact toNat_lt_of_toLower hn hdigit
    have hlength : (trim text.toList).length = 2 * bytes.length := by
      rw [← length_flatMap_pair, ← h, List.length_map]
    rw [decode]
    simp only [Utf8.encode_ascii hascii, List.length_map]
    rw [if_neg (by omega)]
    exact (decodePairs_eq_ok_iff 0 hascii (by omega)).2 h

/-- Characters are written for some bytes, up to their case, exactly if they are digits and there is
an even number of them. -/
lemma exists_flatMap_pair_iff {cs : List Char} :
    (∃ bytes : Bytes, cs.map Char.toLower = bytes.flatMap pair) ↔
      cs.length % 2 = 0 ∧ ∀ c ∈ cs, IsDigit c := by
  constructor
  · rintro ⟨bytes, h⟩
    constructor
    · have hlength := congrArg List.length h
      rw [List.length_map, length_flatMap_pair] at hlength
      omega
    · intro c hc
      exact isDigit_iff.2 (exists_digit_of_mem (h ▸ List.mem_map_of_mem hc))
  · rintro ⟨heven, hdigits⟩
    induction cs using List.twoStepInduction with
    | nil => exact ⟨[], rfl⟩
    | singleton c => simp at heven
    | cons_cons a b rest ih _ =>
        rw [List.length_cons, List.length_cons] at heven
        obtain ⟨ha, hb, hrest⟩ : IsDigit a ∧ IsDigit b ∧ ∀ c ∈ rest, IsDigit c := by
          simpa using hdigits
        obtain ⟨x, hx, hax⟩ := isDigit_iff.1 ha
        obtain ⟨y, hy, hby⟩ := isDigit_iff.1 hb
        obtain ⟨bytes, hbytes⟩ := ih (by omega) hrest
        refine ⟨(16 * x + y).toUInt8 :: bytes, ?_⟩
        rw [List.flatMap_cons, pair_toUInt8 hx hy, ← hbytes, List.map_cons, List.map_cons, hax, hby]
        rfl

/-- **The texts that are read are those of an even number of digits**, blanks around them left
out. -/
theorem exists_decode_iff {text : String} :
    (∃ bytes, decode text = .ok bytes) ↔
      (trim text.toList).length % 2 = 0 ∧ ∀ c ∈ trim text.toList, IsDigit c := by
  simp only [decode_eq_ok_iff]
  exact exists_flatMap_pair_iff

/-- **Blanks around what is written do not count.** -/
theorem decode_surrounded {before after : String} (bytes : Bytes)
    (hbefore : ∀ c ∈ before.toList, isBlank c = true)
    (hafter : ∀ c ∈ after.toList, isBlank c = true) :
    decode (before ++ encode bytes ++ after) = .ok bytes := by
  rw [decode_eq_ok_iff, String.toList_append, String.toList_append, encode, String.toList_ofList,
    trim_surrounded hbefore (fun c hc => not_blank_of_mem hc) hafter, map_toLower_flatMap_pair]

/-- **What is written in hexadecimal digits reads back.** -/
theorem decode_encode (bytes : Bytes) : decode (encode bytes) = .ok bytes := by
  have hread : decode ("" ++ encode bytes ++ "") = .ok bytes :=
    decode_surrounded bytes (by simp) (by simp)
  rwa [String.empty_append, String.append_empty] at hread

end BootLayer.Text.Hex
