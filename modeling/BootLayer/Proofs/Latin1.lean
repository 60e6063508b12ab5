import Mathlib.Data.List.TakeWhile
import BootLayer.Error
import BootLayer.Proofs.Text

/-!
What the encoding with one byte a character gives.  Every text is narrow throughout, or has a first
wide character (`narrow_or_wide`); in the first case all of it is encoded (`encodeInto_narrow`), in
the second what stands before that character, which is reported (`encodeInto_wide`).  The byte of a
narrow character is its code (`toNat_byte`).

* `encodeInto_eq_encodeFrom`: the buffer is what a loop over the characters leaves in it.
* `encodeInto_eq_none_iff`, `encodeInto_eq_some_iff`: all that a buffer can hold afterwards.
* `encode_eq_ok_iff`: the bytes of a text are the bytes that decode to it.
-/

namespace BootLayer.Text.Latin1

/-- Every character of the text has a single-byte form. -/
def Narrow (cs : List Char) : Prop := ∀ c ∈ cs, c.toNat ≤ 0xFF

lemma isNarrow_iff {c : Char} : isNarrow c = true ↔ c.toNat ≤ 0xFF := by
  simp [isNarrow]

/-- The byte of a narrow character is its code. -/
lemma toNat_byte {c : Char} (h : c.toNat ≤ 0xFF) : (byte c).toNat = c.toNat :=
  UInt8.toNat_ofNat_of_lt' (Nat.lt_succ_of_le h)

lemma map_toNat_map_byte {cs : List Char} (h : Narrow cs) :
    (cs.map byte).map UInt8.toNat = cs.map Char.toNat := by
  rw [List.map_map]
  exact List.map_congr_left fun c hc => toNat_byte (h c hc)

/-- Every text is narrow throughout or has a first wide character. -/
lemma narrow_or_wide (cs : List Char) :
    Narrow cs ∨ ∃ before c after, cs = before ++ c :: after ∧ Narrow before ∧ 0xFF < c.toNat := by
  induction cs with
  | nil => exact Or.inl (by simp [Narrow])
  | cons a cs ih =>
      by_cases ha : a.toNat ≤ 0xFF
      · rcases ih with h | ⟨before, c, after, rfl, hb, hc⟩
        · exact Or.inl (by simpa [Narrow, ha] using h)
        · exact Or.inr ⟨a :: before, c, after, rfl, by simpa [Narrow, ha] using hb, hc⟩
      · exact Or.inr ⟨[], a, cs, rfl, by simp [Narrow], by omega⟩

/-- A narrow text is encoded whole. -/
lemma encodeInto_narrow (buffer : Bytes) {text : String} (h : Narrow text.toList) :
    encodeInto buffer text = (buffer ++ text.toList.map byte, none) := by
  have hall : ∀ c ∈ text.toList, isNarrow c = true := fun c hc => isNarrow_iff.2 (h c hc)
  have htake : text.toList.takeWhile isNarrow = text.toList := List.takeWhile_eq_self_iff.2 hall
  have hdrop : text.toList.dropWhile isNarrow = [] := List.dropWhile_eq_nil_iff.2 hall
  simp only [encodeInto, htake, hdrop, List.head?_nil, Option.map_none]

/-- A text with a wide character is encoded up to the first one, which is reported. -/
lemma encodeInto_wide (buffer : Bytes) {text : String} {before after : List Char} {c : Char}
    (htext : text.toList = before ++ c :: after) (hb : Narrow before) (hc : 0xFF < c.toNat) :
    encodeInto buffer text = (buffer ++ before.map byte, some ⟨c, before.length⟩) := by
  have hall : ∀ b ∈ before, isNarrow b = true := fun b hmem => isNarrow_iff.2 (hb b hmem)
  have hwide : ¬isNarrow c = true := fun h => absurd (isNarrow_iff.1 h) (by omega)
  have htake : text.toList.takeWhile isNarrow = before := by
    rw [htext, List.takeWhile_append_of_pos hall, List.takeWhile_cons_of_neg hwide,
      List.append_nil]
  have hdrop : text.toList.dropWhile isNarrow = c :: after := by
    rw [htext, List.dropWhile_append_of_pos hall, List.dropWhile_cons_of_neg hwide]
  simp only [encodeInto, htake, hdrop, List.head?_cons, Option.map_some]

lemma encode_narrow {text : String} (h : Narrow text.toList) :
    encode text = .ok (text.toList.map byte) := by
  simp only [encode, encodeInto_narrow [] h, List.nil_append]

lemma encode_wide {text : String} {before after : List Char} {c : Char}
    (htext : text.toList = before ++ c :: after) (hb : Narrow before) (hc : 0xFF < c.toNat) :
    encode text = .error ⟨c, before.length⟩ := by
  simp only [encode, encodeInto_wide [] htext hb hc]

/-! ### One character at a time -/

/-- The encoding as a loop over the characters, `position` of which were taken before: the byte of a
narrow one goes to the end of the buffer, and a wide one ends the loop. -/
def encodeFrom (position : Nat) (buffer : Bytes) : List Char → Bytes × Option Wide
  | [] => (buffer, none)
  | c :: cs =>
    if isNarrow c then encodeFrom (position + 1) (buffer ++ [byte c]) cs
    else (buffer, some ⟨c, position⟩)

/-- The loop over narrow characters: the position goes up with the length of the buffer. -/
lemma encodeFrom_append {before : List Char} (h : Narrow before) (position : Nat) (buffer : Bytes)
    (rest : List Char) :
    encodeFrom position buffer (before ++ rest) =
      encodeFrom (position + before.length) (buffer ++ before.map byte) rest := by
  induction before generalizing position buffer with
  | nil => simp
  | cons c before ih =>
      obtain ⟨hc, hbefore⟩ := List.forall_mem_cons.1 h
      rw [List.cons_append, encodeFrom, if_pos (isNarrow_iff.2 hc), ih hbefore, List.length_cons,
        List.map_cons, List.append_assoc, List.singleton_append, Nat.add_assoc, Nat.add_comm 1]

/-- The buffer and the fault are those of the loop from the first character on. -/
lemma encodeInto_eq_encodeFrom (buffer : Bytes) (text : String) :
    encodeInto buffer text = encodeFrom 0 buffer text.toList := by
  rcases narrow_or_wide text.toList with h | ⟨before, c, after, htext, hb, hc⟩
  · have hloop := encodeFrom_append h 0 buffer []
    rw [List.append_nil] at hloop
    rw [encodeInto_narrow buffer h, hloop, encodeFrom]
  · have hwide : ¬isNarrow c = true := fun h => absurd (isNarrow_iff.1 h) (by omega)
    rw [encodeInto_wide buffer htext hb hc, htext, encodeFrom_append hb, encodeFrom, if_neg hwide,
      Nat.zero_add]

/-! ### What a buffer holds -/

/-- The codes of bytes are those of narrow characters, each of which has its byte. -/
lemma map_toNat_eq_iff {cs : List Char} {bytes : Bytes} :
    bytes.map UInt8.toNat = cs.map Char.toNat ↔ Narrow cs ∧ bytes = cs.map byte := by
  constructor
  · intro h
    have hnarrow : Narrow cs := by
      intro c hc
      have hmem : c.toNat ∈ bytes.map UInt8.toNat := h ▸ List.mem_map_of_mem hc
      obtain ⟨b, -, hb⟩ := List.mem_map.1 hmem
      have hlt := b.toNat_lt
      omega
    exact ⟨hnarrow, map_toNat_injective (h.trans (map_toNat_map_byte hnarrow).symm)⟩
  · rintro ⟨hnarrow, rfl⟩
    exact map_toNat_map_byte hnarrow

/-- A text is encoded whole exactly if the buffer gets the codes of all its characters. -/
lemma encodeInto_eq_none_iff {buffer after : Bytes} {text : String} :
    encodeInto buffer text = (after, none) ↔
      ∃ bytes, after = buffer ++ bytes ∧ bytes.map UInt8.toNat = text.toList.map Char.toNat := by
  simp only [map_toNat_eq_iff]
  constructor
  · intro h
    rcases narrow_or_wide text.toList with hn | ⟨before, c, rest, htext, hb, hc⟩
    · rw [encodeInto_narrow buffer hn, Prod.mk.injEq] at h
      exact ⟨_, h.1.symm, hn, rfl⟩
    · rw [encodeInto_wide buffer htext hb hc] at h
      cases h
  · rintro ⟨_, rfl, hn, rfl⟩
    exact encodeInto_narrow buffer hn

/-- A text is given up exactly at a wide character behind narrow ones, and the buffer gets the codes
of those. -/
lemma encodeInto_eq_some_iff {buffer after : Bytes} {text : String} {wide : Wide} :
    encodeInto buffer text = (after, some wide) ↔
      ∃ before rest bytes, text.toList = before ++ wide.char :: rest ∧ Narrow before ∧
        0xFF < wide.char.toNat ∧ after = buffer ++ bytes ∧
        bytes.map UInt8.toNat = before.map Char.toNat ∧ wide.position = bytes.length := by
  simp only [map_toNat_eq_iff]
  constructor
  · intro h
    rcases narrow_or_wide text.toList with hn | ⟨before, c, rest, htext, hb, hc⟩
    · rw [encodeInto_narrow buffer hn] at h
      cases h
    · rw [encodeInto_wide buffer htext hb hc] at h
      cases h
      exact ⟨before, rest, _, htext, hb, hc, rfl, ⟨hb, rfl⟩, (List.length_map byte).symm⟩
  · rintro ⟨before, rest, _, htext, hb, hc, rfl, ⟨-, rfl⟩, hposition⟩
    rw [encodeInto_wide buffer htext hb hc, ← List.length_map byte, ← hposition]

/-! ### Texts and their bytes -/

/-- The encoding of a text is that into an empty buffer, if it is encoded whole. -/
lemma encode_eq_ok_iff {text : String} {bytes : Bytes} :
    encode text = .ok bytes ↔ encodeInto [] text = (bytes, none) := by
  rw [encode]
  rcases encodeInto [] text with ⟨after, _ | wide⟩ <;> simp

/-- The fault of a text is that of the encoding into an empty buffer. -/
lemma encode_eq_error_iff {text : String} {wide : Wide} :
    encode text = .error wide ↔ ∃ bytes, encodeInto [] text = (bytes, some wide) := by
  rw [encode]
  rcases encodeInto [] text with ⟨after, _ | wide'⟩ <;> simp

/-- The characters of decoded bytes have the codes of the bytes. -/
lemma map_toNat_decode (bytes : Bytes) :
    (decode bytes).toList.map Char.toNat = bytes.map UInt8.toNat := by
  rw [decode, String.toList_ofList, List.map_map]
  refine List.map_congr_left fun b _ => ?_
  have hvalid : b.toNat.isValidChar := .inl (Nat.lt_trans b.toNat_lt (by decide))
  exact toNat_ofNat hvalid

/-- Bytes decode to a text exactly if they have the codes of its characters. -/
lemma decode_eq_iff {text : String} {bytes : Bytes} :
    decode bytes = text ↔ bytes.map UInt8.toNat = text.toList.map Char.toNat := by
  rw [← map_toNat_decode, List.map_inj_right fun _ _ => Char.toNat_inj.1, String.toList_inj]

/-- **The bytes of a text are those that decode to it.** -/
lemma encode_eq_ok_iff_decode {text : String} {bytes : Bytes} :
    encode text = .ok bytes ↔ decode bytes = text := by
  simp [encode_eq_ok_iff, encodeInto_eq_none_iff, decode_eq_iff]

/-- **The encoding appends one byte a character, up to the first wide character.**  It takes the
characters one after the other and succeeds exactly if none is above U+00FF.  The buffer then holds
its old content and behind it the codes of all characters, and decodes to them; else it holds its
old content and behind it the codes of the characters before the first wide one, whose position,
also in the words of the fault, is the number of bytes appended.  Encoding alone is encoding into an
empty buffer; it tells texts apart and reaches all byte strings. -/
theorem encodeInto_appends_up_to_wide (buffer : Bytes) (text : String) :
    encodeInto buffer text = encodeFrom 0 buffer text.toList ∧
    ((encodeInto buffer text).2 = none ↔ ∀ c ∈ text.toList, c.toNat ≤ 0xFF) ∧
    (∀ after, encodeInto buffer text = (after, none) ↔
      ∃ bytes, after = buffer ++ bytes ∧ bytes.map UInt8.toNat = text.toList.map Char.toNat ∧
        decode bytes = text) ∧
    (∀ after wide, encodeInto buffer text = (after, some wide) ↔
      ∃ before rest bytes, text.toList = before ++ wide.char :: rest ∧
        (∀ c ∈ before, c.toNat ≤ 0xFF) ∧ 0xFF < wide.char.toNat ∧ after = buffer ++ bytes ∧
        bytes.map UInt8.toNat = before.map Char.toNat ∧ wide.position = bytes.length ∧
        (TypeFault.wideCharacter wide).message = "character " ++ quoted wide.char ++
          " at position " ++ toString bytes.length ++ " has no latin-1 encoding") ∧
    (∀ bytes, encode text = .ok bytes ↔ encodeInto [] text = (bytes, none)) ∧
    (∀ wide, encode text = .error wide ↔ ∃ bytes, encodeInto [] text = (bytes, some wide)) ∧
    (∀ other bytes, encode text = .ok bytes → encode other = .ok bytes → text = other) ∧
    ∀ bytes, encode (decode bytes) = .ok bytes := by
  refine ⟨encodeInto_eq_encodeFrom buffer text, ?_, fun after => ?_, fun after wide => ?_,
    fun bytes => encode_eq_ok_iff, fun wide => encode_eq_error_iff, fun other bytes h h' => ?_,
    fun bytes => encode_eq_ok_iff_decode.2 rfl⟩
  · rcases narrow_or_wide text.toList with hn | ⟨before, c, rest, htext, hb, hc⟩
    · exact iff_of_true (by rw [encodeInto_narrow buffer hn]) hn
    · have hmem : c ∈ text.toList := by simp [htext]
      exact iff_of_false (by simp [encodeInto_wide buffer htext hb hc])
        fun hn => absurd (hn c hmem) (by omega)
  · simp only [encodeInto_eq_none_iff, decode_eq_iff, and_self]
  · rw [encodeInto_eq_some_iff]
    constructor
    · rintro ⟨before, rest, bytes, htext, hb, hc, hafter, hcodes, hposition⟩
      refine ⟨before, rest, bytes, htext, hb, hc, hafter, hcodes, hposition, ?_⟩
      rw [← hposition]
      rfl
    · rintro ⟨before, rest, bytes, htext, hb, hc, hafter, hcodes, hposition, -⟩
      exact ⟨before, rest, bytes, htext, hb, hc, hafter, hcodes, hposition⟩
  · rw [encode_eq_ok_iff_decode] at h h'
    exact h.symm.trans h'

/-- A text encoded whole behind a byte, and one that is given up in the middle. -/
theorem accents_behind_a_byte :
    (∀ c ∈ "cafÿ".toList, c.toNat ≤ 0xFF) ∧ (encodeInto [1] "cafÿ").2 = none ∧
    encodeInto [1] "cafÿ" = ([1, 0x63, 0x61, 0x66, 0xFF], none) ∧
    decode [0x63, 0x61, 0x66, 0xFF] = "cafÿ" ∧
    encode "cafÿ" = .ok [0x63, 0x61, 0x66, 0xFF] ∧
    (∀ other, encode other = .ok [0x63, 0x61, 0x66, 0xFF] → "cafÿ" = other) ∧
    encodeInto [1] "éÿ€a" = ([1, 0xE9, 0xFF], some ⟨'€', 2⟩) ∧
    (TypeFault.wideCharacter ⟨'€', 2⟩).message =
      "character '€' at position 2 has no latin-1 encoding" := by
  have hnarrow : ∀ c ∈ "cafÿ".toList, c.toNat ≤ 0xFF := by simp
  have hdecode : decode [0x63, 0x61, 0x66, 0xFF] = "cafÿ" := rfl
  obtain ⟨-, hsucceeds, hwhole, -, -, -, htells, honto⟩ := encodeInto_appends_up_to_wide [1] "cafÿ"
  have hencode := honto [0x63, 0x61, 0x66, 0xFF]
  rw [hdecode] at hencode
  obtain ⟨-, -, -, hstops, -⟩ := encodeInto_appends_up_to_wide [1] "éÿ€a"
  refine ⟨hnarrow, hsucceeds.2 hnarrow, (hwhole _).2 ⟨_, rfl, rfl, hdecode⟩, hdecode, hencode,
    fun other => htells other _ hencode, (hstops _ _).2 ?_, by decide +kernel⟩
  exact ⟨['é', 'ÿ'], ['a'], [0xE9, 0xFF], rfl, by simp, by decide, rfl, rfl, rfl, rfl⟩

end BootLayer.Text.Latin1
