import Mathlib.Algebra.Order.BigOperators.Group.List
import Mathlib.Algebra.Order.Ring.Nat
import Mathlib.Tactic.Common
import BootLayer.Proofs.Latin1
import BootLayer.Proofs.Text

/-!
UTF-8 byte by byte.

`scalarBytes` writes a scalar value with one to four bytes.  `IsSequence` tells from the bytes alone
which sequences stand for a character, and `WellFormed` puts such sequences one after the other.

* `isSequence_iff`, `wellFormed_iff`: the bytes of scalar values are exactly these sequences.
* `decode_eq_some_iff`: bytes read as a text exactly if they are the bytes of its characters' codes.
* `exists_decode_iff`: bytes read as some text exactly if they are well formed.
* `ascii_of_encode`: only ASCII characters have bytes below 0x80.
* `decode_latin1_ascii`, `length_lt_of_decode_latin1`: text with one byte a character reads as
  itself if it is ASCII, and as nothing or as a shorter text if it is not.
-/

namespace BootLayer.Text.Utf8

/-! ### Scalar values -/

/-- A code point that is no surrogate. -/
def IsScalar (n : Nat) : Prop := n < 0xD800 ∨ 0xDFFF < n ∧ n < 0x110000

/-- The bytes of a scalar value, with six bits in each byte after the first. -/
def scalarBytes (n : Nat) : List Nat :=
  if n ≤ 0x7F then [n]
  else if n ≤ 0x7FF then [0xC0 + n / 64, 0x80 + n % 64]
  else if n ≤ 0xFFFF then [0xE0 + n / 4096, 0x80 + n / 64 % 64, 0x80 + n % 64]
  else [0xF0 + n / 262144, 0x80 + n / 4096 % 64, 0x80 + n / 64 % 64, 0x80 + n % 64]

lemma isScalar_toNat (c : Char) : IsScalar c.toNat := c.valid

lemma scalarBytes_of_le {n : Nat} (h : n ≤ 0x7F) : scalarBytes n = [n] := if_pos h

lemma one_le_length_scalarBytes (n : Nat) : 1 ≤ (scalarBytes n).length := by
  rw [scalarBytes]
  split_ifs <;> simp

/-- Only ASCII characters have a single byte. -/
lemma two_le_length_scalarBytes {n : Nat} (h : 0x80 ≤ n) : 2 ≤ (scalarBytes n).length := by
  rw [scalarBytes, if_neg (by omega)]
  split_ifs <;> simp

/-! ### Sequences -/

/-- A byte that goes on with a character. -/
def IsTail (b : Nat) : Prop := 0x80 ≤ b ∧ b ≤ 0xBF

/-- The bytes stand for one character.  The number of bytes is told by the first one. -/
inductive IsSequence : List Nat → Prop where
  | one {a : Nat} (first : a ≤ 0x7F) : IsSequence [a]
  | two {a b : Nat} (first : 0xC0 ≤ a ∧ a ≤ 0xDF) (second : IsTail b)
      (not_overlong : 0xC2 ≤ a) : IsSequence [a, b]
  | three {a b c : Nat} (first : 0xE0 ≤ a ∧ a ≤ 0xEF) (second : IsTail b) (third : IsTail c)
      (not_overlong : a = 0xE0 → 0xA0 ≤ b) (not_surrogate : a = 0xED → b ≤ 0x9F) :
      IsSequence [a, b, c]
  | four {a b c d : Nat} (first : 0xF0 ≤ a ∧ a ≤ 0xF4) (second : IsTail b) (third : IsTail c)
      (fourth : IsTail d) (not_overlong : a = 0xF0 → 0x90 ≤ b)
      (not_above : a = 0xF4 → b ≤ 0x8F) : IsSequence [a, b, c, d]

/-- The bytes are sequences one after the other, the last of them complete. -/
inductive WellFormed : List Nat → Prop where
  | nil : WellFormed []
  | cons {unit rest : List Nat} (h : IsSequence unit) (hrest : WellFormed rest) :
      WellFormed (unit ++ rest)

/-- **The sequences of one character are the bytes of the scalar values.** -/
lemma isSequence_iff {bs : List Nat} : IsSequence bs ↔ ∃ n, IsScalar n ∧ bs = scalarBytes n := by
  constructor
  · intro h
    cases h with
    | @one a first => exact ⟨a, .inl (by omega), (scalarBytes_of_le first).symm⟩
    | @two a b first second not_overlong =>
        obtain ⟨hlow, hhigh⟩ := second
        refine ⟨(a - 0xC0) * 64 + (b - 0x80), .inl (by omega), ?_⟩
        rw [scalarBytes, if_neg (by omega), if_pos (by omega)]
        simp only [List.cons.injEq, and_true]
        omega
    | @three a b c first second third not_overlong not_surrogate =>
        obtain ⟨hb, hb'⟩ := second
        obtain ⟨hc, hc'⟩ := third
        refine ⟨(a - 0xE0) * 4096 + (b - 0x80) * 64 + (c - 0x80), ?_, ?_⟩
        · rw [IsScalar]
          omega
        · rw [scalarBytes, if_neg (by omega), if_neg (by omega), if_pos (by omega)]
          simp only [List.cons.injEq, and_true]
          omega
    | @four a b c d first second third fourth not_overlong not_above =>
        obtain ⟨hb, hb'⟩ := second
        obtain ⟨hc, hc'⟩ := third
        obtain ⟨hd, hd'⟩ := fourth
        refine ⟨(a - 0xF0) * 262144 + (b - 0x80) * 4096 + (c - 0x80) * 64 + (d - 0x80), ?_, ?_⟩
        · exact .inr (by omega)
        · rw [scalarBytes, if_neg (by omega), if_neg (by omega), if_neg (by omega)]
          simp only [List.cons.injEq, and_true]
          omega
  · rintro ⟨n, hn, rfl⟩
    rw [IsScalar] at hn
    rw [scalarBytes]
    split_ifs
    · exact .one (by omega)
    · exact .two (by omega) ⟨by omega, by omega⟩ (by omega)
    · exact .three (by omega) ⟨by omega, by omega⟩ ⟨by omega, by omega⟩ (by omega) (by omega)
    · exact .four (by omega) ⟨by omega, by omega⟩ ⟨by omega, by omega⟩ ⟨by omega, by omega⟩
        (by omega) (by omega)

/-- **The well-formed byte strings are those of sequences of scalar values.** -/
lemma wellFormed_iff {bs : List Nat} :
    WellFormed bs ↔ ∃ ns : List Nat, (∀ n ∈ ns, IsScalar n) ∧ bs = ns.flatMap scalarBytes := by
  constructor
  · intro h
    induction h with
    | nil => exact ⟨[], by simp, rfl⟩
    | cons hunit _ ih =>
        obtain ⟨n, hn, rfl⟩ := isSequence_iff.1 hunit
        obtain ⟨ns, hns, rfl⟩ := ih
        exact ⟨n :: ns, List.forall_mem_cons.2 ⟨hn, hns⟩, List.flatMap_cons.symm⟩
  · rintro ⟨ns, hns, rfl⟩
    induction ns with
    | nil => exact .nil
    | cons n ns ih =>
        obtain ⟨hn, hrest⟩ := List.forall_mem_cons.1 hns
        exact .cons (isSequence_iff.2 ⟨n, hn, rfl⟩) (ih hrest)

/-! ### Texts -/

lemma map_toNat_utf8EncodeChar (c : Char) :
    (String.utf8EncodeChar c).map UInt8.toNat = scalarBytes c.toNat := by
  have hlt : c.toNat < 0x110000 := by
    rcases isScalar_toNat c with h | h <;> omega
  have hval : c.val.toNat = c.toNat := rfl
  unfold String.utf8EncodeChar
  simp only [hval]
  rw [scalarBytes]
  -- both definitions split at the same codes
  split_ifs <;>
    simp only [List.map_cons, List.map_nil, UInt8.toNat_ofNat', List.cons.injEq, and_true] <;>
    omega

/-- The bytes of a text are those of its characters' codes. -/
lemma map_toNat_encode (text : String) :
    (encode text).map UInt8.toNat = text.toList.flatMap fun c => scalarBytes c.toNat := by
  rw [← String.ofList_toList (s := text), encode_ofList, String.toList_ofList, List.map_flatMap]
  simp only [map_toNat_utf8EncodeChar]

lemma decode_eq_some_iff_encode {bytes : Bytes} {text : String} :
    decode bytes = some text ↔ encode text = bytes := by
  refine ⟨encode_decode, ?_⟩
  rintro rfl
  exact decode_encode text

/-- **Bytes read as a text exactly if they are the bytes of its characters' codes.** -/
lemma decode_eq_some_iff {bytes : Bytes} {text : String} :
    decode bytes = some text ↔
      bytes.map UInt8.toNat = text.toList.flatMap fun c => scalarBytes c.toNat := by
  rw [decode_eq_some_iff_encode, ← map_toNat_encode]
  constructor
  · rintro rfl
    rfl
  · intro h
    exact (map_toNat_injective h).symm

/-- **Bytes read as some text exactly if they are well formed.** -/
lemma exists_decode_iff {bytes : Bytes} :
    (∃ text, decode bytes = some text) ↔ WellFormed (bytes.map UInt8.toNat) := by
  rw [wellFormed_iff]
  constructor
  · rintro ⟨text, h⟩
    refine ⟨text.toList.map Char.toNat, ?_, ?_⟩
    · simp only [List.forall_mem_map]
      exact fun c _ => isScalar_toNat c
    · rw [decode_eq_some_iff.1 h, List.flatMap_map]
  · rintro ⟨ns, hns, hbytes⟩
    have hcodes : (ns.map Char.ofNat).map Char.toNat = ns := by
      rw [List.map_map]
      exact (List.map_congr_left fun n hn => toNat_ofNat (hns n hn)).trans (List.map_id ns)
    refine ⟨String.ofList (ns.map Char.ofNat), decode_eq_some_iff.2 ?_⟩
    rw [String.toList_ofList, ← List.flatMap_map (f := Char.toNat) (g := scalarBytes), hcodes,
      hbytes]

/-! ### Text with one byte a character -/

/-- Every character of the text is below U+0080. -/
def Ascii (cs : List Char) : Prop := ∀ c ∈ cs, c.toNat < 0x80

/-- Every byte of a character that is not ASCII is above 0x7F. -/
lemma le_of_mem_scalarBytes {n b : Nat} (hn : 0x80 ≤ n) (hb : b ∈ scalarBytes n) : 0x80 ≤ b := by
  rw [scalarBytes, if_neg (by omega)] at hb
  split_ifs at hb <;>
    simp only [List.mem_cons, List.not_mem_nil, or_false] at hb <;>
    omega

/-- A text whose bytes are all below 0x80 is ASCII. -/
lemma ascii_of_encode {text : String} (h : ∀ b ∈ encode text, b.toNat < 0x80) :
    Ascii text.toList := by
  intro c hc
  by_contra hwide
  obtain ⟨n, hn⟩ := List.exists_mem_of_length_pos (one_le_length_scalarBytes c.toNat)
  have hmem : n ∈ (encode text).map UInt8.toNat := by
    rw [map_toNat_encode]
    exact List.mem_flatMap.2 ⟨c, hc, hn⟩
  obtain ⟨b, hb, rfl⟩ := List.mem_map.1 hmem
  have hlow := h b hb
  have hhigh := le_of_mem_scalarBytes (by omega) hn
  omega

/-- A text that is not all ASCII has more bytes than characters. -/
lemma length_lt_encode {text : String} (h : ¬Ascii text.toList) :
    text.length < (encode text).length := by
  simp only [Ascii, not_forall, Nat.not_lt] at h
  obtain ⟨c, hc, hwide⟩ := h
  have hsum := List.sum_lt_sum (fun _ => 1) (fun c : Char => (scalarBytes c.toNat).length)
    (fun c _ => one_le_length_scalarBytes c.toNat) ⟨c, hc, two_le_length_scalarBytes hwide⟩
  rw [← List.length_map (f := UInt8.toNat), map_toNat_encode, List.length_flatMap,
    ← String.length_toList]
  simpa using hsum

/-- ASCII text with one byte a character reads as itself. -/
lemma decode_latin1_ascii {text : String} (h : Ascii text.toList) :
    decode (text.toList.map Latin1.byte) = some text := by
  have hencode := encode_ascii h
  rw [String.ofList_toList] at hencode
  exact decode_eq_some_iff_encode.2 hencode

/-- **Text with one byte a character that is not all ASCII reads as a shorter text**, if it reads as
text at all. -/
lemma length_lt_of_decode_latin1 {text shorter : String} (hnarrow : Latin1.Narrow text.toList)
    (hwide : ¬Ascii text.toList) (h : decode (text.toList.map Latin1.byte) = some shorter) :
    shorter.length < text.length := by
  have hencode := decode_eq_some_iff_encode.1 h
  have hlength : (encode shorter).length = text.length := by
    rw [hencode, List.length_map, String.length_toList]
  rw [← hlength]
  refine length_lt_encode fun hascii => hwide ?_
  -- an ASCII text has the codes of its characters as bytes, and they are those of the other text
  have hbytes : shorter.toList.map Latin1.byte = text.toList.map Latin1.byte := by
    rw [← hencode, ← String.ofList_toList (s := shorter), encode_ascii hascii,
      String.toList_ofList]
    rfl
  have hcodes := congrArg (List.map UInt8.toNat) hbytes
  rw [Latin1.map_toNat_map_byte hnarrow,
    Latin1.map_toNat_map_byte fun c hc => Nat.le_of_lt (Nat.lt_trans (hascii c hc) (by decide))]
    at hcodes
  intro c hc
  have hmem : c.toNat ∈ shorter.toList.map Char.toNat := hcodes ▸ List.mem_map_of_mem hc
  obtain ⟨c', hc', heq⟩ := List.mem_map.1 hmem
  exact heq ▸ hascii c' hc'

end BootLayer.Text.Utf8
