import Mathlib.Data.List.TakeWhile
import BootLayer.Text.Blank
import BootLayer.Text.Utf8

/-!
Texts without blanks, and texts of one byte a character in UTF-8.

* `toNat_toLower`: which characters change in lower case.
* `trim_of_not_blank`: trimming leaves a text without blanks as it is.
* `exists_trim`, `trim_surrounded`, `exists_surrounded_iff`: trimming takes off blanks only, and all
  of them around a text without blanks.
* `trim_blank_append`, `trim_append_blank`, `trim_eq_nil_iff`: blanks before and after a text do not
  count, and nothing is left of a text exactly if there is nothing else.
* `trimRight_line`: trimming takes off no more than the line feed after a character.
* `Utf8.encode_injective`: the encoding tells texts apart.
* `Utf8.encode_ascii`: a text of ASCII characters is encoded by their codes.
-/

namespace BootLayer.Text

/-- The codes of bytes tell byte strings apart. -/
lemma map_toNat_injective : Function.Injective (List.map UInt8.toNat) :=
  fun _ _ h => (List.map_inj_right fun _ _ => UInt8.toNat_inj.1).1 h

/-- The character of a scalar value has it for its code. -/
lemma toNat_ofNat {n : Nat} (h : n.isValidChar) : (Char.ofNat n).toNat = n := by
  have hchar : Char.ofNat n = Char.ofNatAux n h := dif_pos h
  rw [hchar]
  rfl

/-- The code of a character in lower case: only the capitals of ASCII change. -/
lemma toNat_toLower (c : Char) :
    c.toLower.toNat = if 65 ≤ c.toNat ∧ c.toNat ≤ 90 then c.toNat + 32 else c.toNat := by
  delta Char.toLower
  split_ifs with h h' h'
  · show (c.val + 32).toNat = c.val.toNat + 32
    have hhigh : c.val.toNat ≤ 90 := h'.2
    rw [UInt32.toNat_add]
    exact Nat.mod_eq_of_lt (by show c.val.toNat + 32 < _; omega)
  · exact absurd h h'
  · exact absurd h' h
  · rfl

/-- The visible characters of ASCII are no blanks. -/
lemma not_blank_of_visible {c : Char} (h : 33 ≤ c.toNat ∧ c.toNat ≤ 126) : isBlank c = false := by
  simp only [isBlank, Bool.or_eq_false_iff, Bool.and_eq_false_iff, decide_eq_false_iff_not,
    beq_eq_false_iff_ne]
  omega

lemma not_blank_of_isDigit {c : Char} (h : c.isDigit = true) : isBlank c = false := by
  obtain ⟨hlow, hhigh⟩ := Char.isDigit_iff_toNat.1 h
  have hlow' : 48 ≤ c.toNat := hlow
  have hhigh' : c.toNat ≤ 57 := hhigh
  exact not_blank_of_visible (by omega)

lemma dropWhile_of_not_blank {cs : List Char} (h : ∀ c ∈ cs, isBlank c = false) :
    cs.dropWhile isBlank = cs := by
  cases cs with
  | nil => rfl
  | cons c rest =>
      have hc := h c (by simp)
      rw [List.dropWhile_cons_of_neg (by simp [hc])]

/-- Trimming leaves a text without blanks as it is. -/
lemma trim_of_not_blank {cs : List Char} (h : ∀ c ∈ cs, isBlank c = false) : trim cs = cs := by
  have hreverse : ∀ c ∈ cs.reverse, isBlank c = false := fun c hc => h c (List.mem_reverse.1 hc)
  rw [trim, trimLeft, dropWhile_of_not_blank h, trimRight, trimLeft,
    dropWhile_of_not_blank hreverse, List.reverse_reverse]

lemma trimRight_append (cs : List Char) :
    trimRight cs ++ (cs.reverse.takeWhile isBlank).reverse = cs := by
  rw [trimRight, ← List.reverse_append, trimLeft, List.takeWhile_append_dropWhile,
    List.reverse_reverse]

/-- Trimming takes nothing but blanks off both ends. -/
lemma exists_trim (cs : List Char) :
    ∃ before after, cs = before ++ trim cs ++ after ∧ (∀ c ∈ before, isBlank c = true) ∧
      ∀ c ∈ after, isBlank c = true := by
  have hleft : cs.takeWhile isBlank ++ trimLeft cs = cs := List.takeWhile_append_dropWhile
  have hright : trim cs ++ ((trimLeft cs).reverse.takeWhile isBlank).reverse = trimLeft cs :=
    trimRight_append (trimLeft cs)
  refine ⟨cs.takeWhile isBlank, ((trimLeft cs).reverse.takeWhile isBlank).reverse, ?_, ?_, ?_⟩
  · rw [List.append_assoc, hright, hleft]
  · exact fun c hc => List.mem_takeWhile_imp hc
  · exact fun c hc => List.mem_takeWhile_imp (List.mem_reverse.1 hc)

/-- Trimming takes off all blanks around a text without blanks. -/
lemma trim_surrounded {before body after : List Char} (hbefore : ∀ c ∈ before, isBlank c = true)
    (hbody : ∀ c ∈ body, isBlank c = false) (hafter : ∀ c ∈ after, isBlank c = true) :
    trim (before ++ body ++ after) = body := by
  have hreverse : ∀ c ∈ body.reverse, isBlank c = false :=
    fun c hc => hbody c (List.mem_reverse.1 hc)
  have hlast : ∀ c ∈ after.reverse, isBlank c = true :=
    fun c hc => hafter c (List.mem_reverse.1 hc)
  rw [trim, trimLeft, List.append_assoc, List.dropWhile_append_of_pos hbefore]
  cases body with
  | nil =>
      rw [List.nil_append, List.dropWhile_eq_nil_iff.2 hafter]
      rfl
  | cons c rest =>
      rw [List.cons_append, List.dropWhile_cons_of_neg (by simp [hbody c (by simp)]), trimRight,
        trimLeft, ← List.cons_append, List.reverse_append, List.dropWhile_append_of_pos hlast,
        dropWhile_of_not_blank hreverse, List.reverse_reverse]

/-- Texts of a form without blanks, put among blanks, are those that trimming brings into that
form. -/
lemma exists_surrounded_iff {P : List Char → Prop}
    (hP : ∀ body, P body → ∀ c ∈ body, isBlank c = false) (cs : List Char) :
    (∃ before body after, cs = before ++ body ++ after ∧ (∀ c ∈ before, isBlank c = true) ∧
      (∀ c ∈ after, isBlank c = true) ∧ P body) ↔ P (trim cs) := by
  constructor
  · rintro ⟨before, body, after, rfl, hbefore, hafter, h⟩
    rwa [trim_surrounded hbefore (hP body h) hafter]
  · intro h
    obtain ⟨before, after, hcs, hbefore, hafter⟩ := exists_trim cs
    exact ⟨before, _, after, hcs, hbefore, hafter, h⟩

lemma trimRight_append_blank (cs : List Char) {after : List Char}
    (hafter : ∀ c ∈ after, isBlank c = true) : trimRight (cs ++ after) = trimRight cs := by
  have hlast : ∀ c ∈ after.reverse, isBlank c = true :=
    fun c hc => hafter c (List.mem_reverse.1 hc)
  rw [trimRight, trimLeft, List.reverse_append, List.dropWhile_append_of_pos hlast]
  rfl

/-- Trimming keeps what stands before the blanks at the end. -/
lemma trimRight_cons {c : Char} (hc : isBlank c = false) (cs : List Char) :
    trimRight (c :: cs) = c :: trimRight cs := by
  have hkeep : [c].dropWhile isBlank = [c] := List.dropWhile_cons_of_neg (by simp [hc])
  simp only [trimRight, trimLeft]
  rw [List.reverse_cons, List.dropWhile_append, hkeep]
  split_ifs with hempty
  · rw [List.isEmpty_iff.1 hempty]
    rfl
  · rw [List.reverse_append]
    rfl

/-- Blanks before a text do not count. -/
lemma trim_blank_append {before : List Char} (hbefore : ∀ c ∈ before, isBlank c = true)
    (cs : List Char) : trim (before ++ cs) = trim cs := by
  rw [trim, trim, trimLeft, List.dropWhile_append_of_pos hbefore]
  rfl

/-- Blanks after a text do not count. -/
lemma trim_append_blank (cs : List Char) {after : List Char}
    (hafter : ∀ c ∈ after, isBlank c = true) : trim (cs ++ after) = trim cs := by
  rw [trim, trim, trimLeft, List.dropWhile_append, List.dropWhile_eq_nil_iff.2 hafter]
  split_ifs with hempty
  · rw [trimLeft, List.isEmpty_iff.1 hempty]
  · exact trimRight_append_blank _ hafter

/-- Nothing is left exactly if there is nothing but blanks. -/
lemma trim_eq_nil_iff {cs : List Char} : trim cs = [] ↔ ∀ c ∈ cs, isBlank c = true := by
  constructor
  · intro h
    obtain ⟨before, after, hcs, hbefore, hafter⟩ := exists_trim cs
    rw [h, List.append_nil] at hcs
    rw [hcs]
    exact List.forall_mem_append.2 ⟨hbefore, hafter⟩
  · intro h
    exact trim_append_blank [] h

/-- Trimming takes a line feed off the end of a text, and nothing before it that is not blank. -/
lemma trimRight_line {cs : List Char} {c : Char} (hlast : cs.getLast? = some c)
    (hc : isBlank c = false) : trimRight (cs ++ ['\n']) = cs := by
  obtain ⟨init, rfl⟩ := List.getLast?_eq_some_iff.1 hlast
  rw [trimRight, trimLeft, List.reverse_append, List.reverse_singleton, List.singleton_append,
    List.dropWhile_cons_of_pos rfl, List.reverse_append, List.reverse_singleton,
    List.singleton_append, List.dropWhile_cons_of_neg (by simp [hc]), List.reverse_cons,
    List.reverse_reverse]

namespace Utf8

/-- The encoding tells texts apart. -/
lemma encode_injective : Function.Injective encode := by
  intro text text' h
  have hdecode := decode_encode text
  rw [h, decode_encode] at hdecode
  exact (Option.some.inj hdecode).symm

lemma encode_ofList (cs : List Char) :
    encode (String.ofList cs) = cs.flatMap String.utf8EncodeChar := by
  show (String.ofList cs).toByteArray.data.toList = _
  rw [String.toByteArray_ofList, List.utf8Encode, List.toList_data_toByteArray]

/-- A text of ASCII characters is encoded by their codes. -/
lemma encode_ascii {cs : List Char} (h : ∀ c ∈ cs, c.toNat < 128) :
    encode (String.ofList cs) = cs.map fun c => c.toNat.toUInt8 := by
  rw [encode_ofList]
  induction cs with
  | nil => rfl
  | cons c rest ih =>
      have hc : c.val ≤ 127 := by
        rw [UInt32.le_iff_toNat_le]
        exact Nat.le_of_lt_succ (h c (by simp))
      rw [List.flatMap_cons, String.utf8EncodeChar_eq_singleton (Char.utf8Size_eq_one_iff.2 hc),
        ih fun d hd => h d (List.mem_cons_of_mem c hd)]
      rfl

end Utf8

end BootLayer.Text
