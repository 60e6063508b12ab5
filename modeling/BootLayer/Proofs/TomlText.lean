import Mathlib.Data.List.TakeWhile
import BootLayer.Toml.Writer

/-!
Quoted text read back.

* `Spells`: a reader takes a piece of text for one character, whatever follows.
* `Body.read_eq`: text between three quotes is read up to the closing ones, however many bare quotes
  stand at its end; `Body` counts the bare quotes in a row.
* `readQuoted_writeText`: text in the form that the writer chooses reads back as that text, to the
  very end of its quotes.
-/

namespace BootLayer.Toml

/-- What reads quoted text up to its closing quotes, with a bound on the characters. -/
abbrev QuotedReader : Type := Nat → List Char → Option (List Char × List Char)

/-- Whatever follows, the reader takes the piece for the character. -/
def Spells (read : QuotedReader) (c : Char) (piece : List Char) : Prop :=
  ∀ fuel rest, read (fuel + 1) (piece ++ rest) = prepend c (read fuel rest)

/-! ### Characters -/

lemma ne_breaks_of_isPlain {c : Char} (h : isPlain c = true) : c ≠ '\n' ∧ c ≠ '\r' := by
  constructor <;> (rintro rfl; revert h; decide)

lemma isPlain_of_not_isControl {c : Char} (h : isControl c = false) : isPlain c = true := by
  simp only [isControl, Bool.or_eq_false_iff, decide_eq_false_iff_not, beq_eq_false_iff_ne] at h
  simp only [isPlain, Bool.or_eq_true, Bool.and_eq_true, decide_eq_true_eq, bne_iff_ne]
  exact .inr ⟨by omega, h.2⟩

/-- What a text without other control characters than the allowed ones holds. -/
lemma isPlain_or_mem_of_controlsOnly {allowed cs : List Char} (h : controlsOnly allowed cs = true)
    {c : Char} (hc : c ∈ cs) : isPlain c = true ∨ c ∈ allowed := by
  have hc := List.all_eq_true.1 h c hc
  rw [Bool.or_eq_true, Bool.not_eq_true', List.contains_iff_mem] at hc
  exact hc.imp_left isPlain_of_not_isControl

/-! ### Escapes -/

/-- What stands after a backslash for a character.  It does not start as the rest of a line that
the backslash would fold. -/
structure Escapes (c : Char) (letters : List Char) : Prop where
  starts : ∃ d rest, letters = d :: rest ∧ isSpace d = false ∧ isPlain d = true
  reads : ∀ rest, readEscape (letters ++ rest) = some (c, rest)

namespace Escapes

/-- The letters of the short escapes. -/
lemma letter {c d : Char} (h : shortEscape? d = some c) : Escapes c [d] := by
  rw [shortEscape?] at h
  split_ifs at h with hd hd hd hd hd hd hd
  all_goals
    obtain rfl := Option.some.inj h
    subst hd
    exact ⟨⟨_, [], rfl, rfl, rfl⟩, fun _ => rfl⟩

lemma hexNumber?_upperDigits : ∀ n < 128,
    hexNumber? ['0', '0', upperDigit (n / 16), upperDigit (n % 16)] = some n := by
  decide

/-- Four digits spell the code of a character below 128. -/
lemma code {c : Char} (h : c.toNat < 128) :
    Escapes c ['u', '0', '0', upperDigit (c.toNat / 16), upperDigit (c.toNat % 16)] := by
  refine ⟨⟨'u', _, rfl, rfl, rfl⟩, fun rest => ?_⟩
  have hcode : scalar? c.toNat = some c := by
    rw [scalar?, if_pos (.inl (by omega)), Char.ofNat_toNat]
  simp only [List.cons_append, List.nil_append, readEscape, hexNumber?_upperDigits _ h,
    Option.bind_some, hcode, Option.map_some]

/-- A backslash or control character is written with an escape of its own. -/
lemma escapeControl {c : Char} (h : c = '\\' ∨ isControl c = true) :
    ∃ letters, Toml.escapeControl c = '\\' :: letters ∧ Escapes c letters := by
  rw [Toml.escapeControl]
  split_ifs with hb ht hn hf hr hs
  · exact ⟨['b'], rfl, letter (congrArg some hb.symm)⟩
  · exact ⟨['t'], rfl, letter (congrArg some ht.symm)⟩
  · exact ⟨['n'], rfl, letter (congrArg some hn.symm)⟩
  · exact ⟨['f'], rfl, letter (congrArg some hf.symm)⟩
  · exact ⟨['r'], rfl, letter (congrArg some hr.symm)⟩
  · exact ⟨['\\'], rfl, letter (congrArg some hs.symm)⟩
  · have hcontrol := h.resolve_left hs
    simp only [isControl, Bool.or_eq_true, decide_eq_true_eq, beq_iff_eq] at hcontrol
    exact ⟨_, rfl, code (by omega)⟩

end Escapes

/-! ### One line -/

lemma spells_readBasic_escape {c : Char} {letters : List Char} (h : Escapes c letters) :
    Spells readBasic c ('\\' :: letters) := by
  intro fuel rest
  rw [List.cons_append, readBasic, if_neg (by decide), if_pos rfl, h.reads]

lemma spells_readBasic_plain {c : Char} (hq : c ≠ '"') (hb : c ≠ '\\') (hp : isPlain c = true) :
    Spells readBasic c [c] := by
  intro fuel rest
  rw [List.singleton_append, readBasic, if_neg hq, if_neg hb, if_pos hp]

/-- How one character is written between double quotes on one line. -/
lemma escapeLine_cons (c : Char) (cs : List Char) :
    ∃ d piece, escapeLine (c :: cs) = d :: piece ++ escapeLine cs ∧ d ≠ '"' ∧
      Spells readBasic c (d :: piece) := by
  rw [escapeLine, List.flatMap_cons]
  split_ifs with hq hb
  · exact ⟨'\\', ['"'], rfl, by decide, spells_readBasic_escape (.letter (congrArg some hq.symm))⟩
  · obtain ⟨letters, hpiece, hletters⟩ := Escapes.escapeControl hb
    exact ⟨'\\', letters, by rw [hpiece]; rfl, by decide, spells_readBasic_escape hletters⟩
  · obtain ⟨hb, hc⟩ := not_or.1 hb
    have hp := isPlain_of_not_isControl (Bool.eq_false_iff.2 hc)
    exact ⟨c, [], rfl, hq, spells_readBasic_plain hq hb hp⟩

lemma head?_escapeLine_ne (cs : List Char) : (escapeLine cs).head? ≠ some '"' := by
  cases cs with
  | nil => exact nofun
  | cons c cs =>
      obtain ⟨d, piece, heq, hd, -⟩ := escapeLine_cons c cs
      rw [heq]
      simpa using hd

lemma length_le_escapeLine (cs : List Char) : cs.length ≤ (escapeLine cs).length := by
  induction cs with
  | nil => exact Nat.le_refl 0
  | cons c cs ih =>
      obtain ⟨d, piece, heq, -⟩ := escapeLine_cons c cs
      rw [heq, List.length_cons, List.length_append, List.length_cons]
      omega

/-- Escaped text is read up to the closing double quote. -/
lemma readBasic_escapeLine (cs rest : List Char) :
    ∀ fuel, cs.length < fuel → readBasic fuel (escapeLine cs ++ '"' :: rest) = some (cs, rest) := by
  induction cs with
  | nil =>
      rintro (_ | fuel) hfuel
      · omega
      · rw [escapeLine, List.flatMap_nil, List.nil_append, readBasic, if_pos rfl]
  | cons c cs ih =>
      rintro (_ | fuel) hfuel
      · omega
      · obtain ⟨d, piece, heq, -, hspells⟩ := escapeLine_cons c cs
        rw [heq, List.append_assoc, hspells, ih fuel (by simpa using hfuel)]
        rfl

/-- Plain text is read up to the closing single quote. -/
lemma readLiteral_plain {cs : List Char} (h : ∀ c ∈ cs, isPlain c = true ∧ c ≠ '\'')
    (rest : List Char) : readLiteral (cs ++ '\'' :: rest) = some (cs, rest) := by
  induction cs with
  | nil => rw [List.nil_append, readLiteral, if_pos rfl]
  | cons c cs ih =>
      obtain ⟨hp, hq⟩ := h c (List.mem_cons_self ..)
      rw [List.cons_append, readLiteral, if_neg hq, if_pos hp,
        ih fun d hd => h d (List.mem_cons_of_mem _ hd)]
      rfl

/-! ### Several lines -/

lemma afterTriple?_of_ne {quote c : Char} (h : c ≠ quote) (rest : List Char) :
    afterTriple? quote (c :: rest) = none := by
  unfold afterTriple?
  split
  · next heq => rw [if_neg]; rintro ⟨rfl, -⟩; exact h (List.cons.inj heq).1
  · rfl

lemma afterTriple?_of_second_ne {quote c : Char} (h : c ≠ quote) (rest : List Char) :
    afterTriple? quote (quote :: c :: rest) = none := by
  cases rest with
  | nil => rfl
  | cons d rest => rw [afterTriple?, if_neg fun hq => h hq.2.1]

lemma afterTriple?_of_third_ne {quote c : Char} (h : c ≠ quote) (rest : List Char) :
    afterTriple? quote (quote :: quote :: c :: rest) = none := by
  rw [afterTriple?, if_neg fun hq => h hq.2.2]

lemma afterTriple?_triple (quote : Char) (rest : List Char) :
    afterTriple? quote (quote :: quote :: quote :: rest) = some rest := by
  rw [afterTriple?, if_pos ⟨rfl, rfl, rfl⟩]

lemma closing_of_ne {quote : Char} {rest : List Char} (stop : rest.head? ≠ some quote) :
    closing quote rest = ([], rest) := by
  match rest with
  | [] => rfl
  | [a] => rw [closing, if_neg (by simpa using stop)]
  | a :: b :: rest => rw [closing, if_neg (by simpa using stop)]

lemma closing_quote {quote : Char} {rest : List Char} (stop : rest.head? ≠ some quote) :
    closing quote (quote :: rest) = ([quote], rest) := by
  match rest with
  | [] => rw [closing, if_pos rfl]
  | a :: rest => rw [closing, if_pos rfl, if_neg (by simpa using stop)]

lemma afterBreak?_of_ne {c : Char} (hn : c ≠ '\n') (hr : c ≠ '\r') (rest : List Char) :
    afterBreak? (c :: rest) = none := by
  unfold afterBreak?
  split
  · next heq => exact absurd (List.cons.inj heq).1 hn
  · next heq => exact absurd (List.cons.inj heq).1 hr
  · rfl

lemma afterBreak?_of_isPlain {c : Char} (h : isPlain c = true) (rest : List Char) :
    afterBreak? (c :: rest) = none := by
  obtain ⟨hn, hr⟩ := ne_breaks_of_isPlain h
  exact afterBreak?_of_ne hn hr rest

/-- A reader of text between three quotes: three quotes close it, and otherwise a quote is text. -/
structure ReadsLines (quote : Char) (read : QuotedReader) : Prop where
  close : ∀ fuel rest,
    read (fuel + 1) (quote :: quote :: quote :: rest) = some (closing quote rest)
  bare : ∀ fuel rest, afterTriple? quote (quote :: rest) = none →
    read (fuel + 1) (quote :: rest) = prepend quote (read fuel rest)

/-- The inside of three quotes, after `run` bare quotes in a row.  A third quote in a row is never
bare; every other character is spelled by a piece that does not start with a quote. -/
inductive Body (quote : Char) (read : QuotedReader) : Nat → List Char → List Char → Prop
  | nil {run : Nat} : Body quote read run [] []
  | bare {run : Nat} {text body : List Char} (few : run < 2)
      (tail : Body quote read (run + 1) text body) :
      Body quote read run (quote :: text) (quote :: body)
  | spelled {run : Nat} {c d : Char} {piece text body : List Char} (other : d ≠ quote)
      (spells : Spells read c (d :: piece)) (tail : Body quote read 0 text body) :
      Body quote read run (c :: text) (d :: piece ++ body)

namespace Body

variable {quote : Char} {read : QuotedReader} {run : Nat} {text body rest : List Char}

lemma length_le (h : Body quote read run text body) : text.length ≤ body.length := by
  induction h with
  | nil => exact Nat.le_refl 0
  | bare few tail ih => simpa using ih
  | spelled other spells tail ih =>
      rw [List.length_cons, List.length_append, List.length_cons]
      omega

/-- After a bare quote either the text ends, with no further or one further quote, or the three
characters from that quote on do not close it. -/
lemma ahead (h : Body quote read (run + 1) text body) :
    (text = [] ∧ body = []) ∨ (text = [quote] ∧ body = [quote]) ∨
      ∀ rest, afterTriple? quote (quote :: (body ++ rest)) = none := by
  cases h with
  | nil => exact .inl ⟨rfl, rfl⟩
  | spelled other => exact .inr (.inr fun rest => afterTriple?_of_second_ne other _)
  | bare _ tail =>
      cases tail with
      | nil => exact .inr (.inl ⟨rfl, rfl⟩)
      | spelled other => exact .inr (.inr fun rest => afterTriple?_of_third_ne other _)
      | bare few => omega

/-- The reader returns the text and what follows the closing quotes. -/
theorem read_eq (reader : ReadsLines quote read) (h : Body quote read run text body)
    (stop : rest.head? ≠ some quote) :
    ∀ fuel, text.length < fuel →
      read fuel (body ++ quote :: quote :: quote :: rest) = some (text, rest) := by
  induction h with
  | nil =>
      rintro (_ | fuel) hfuel
      · omega
      · rw [List.nil_append, reader.close, closing_of_ne stop]
  | spelled other spells tail ih =>
      rintro (_ | fuel) hfuel
      · omega
      · rw [List.append_assoc, spells, ih fuel (by simpa using hfuel)]
        rfl
  | bare few tail ih =>
      rintro (_ | fuel) hfuel
      · omega
      · -- With the closing quotes a quote at the end makes four in a row, and two make five: the
        -- first three close, and the reader gives back those that follow.
        obtain ⟨rfl, rfl⟩ | ⟨rfl, rfl⟩ | hopen := tail.ahead
        · rw [List.singleton_append, reader.close, closing_quote stop]
        · rw [List.cons_append, List.singleton_append, reader.close]
          rw [closing, if_pos rfl, if_pos rfl]
        · rw [List.cons_append, reader.bare _ _ (hopen _), ih fuel (by simpa using hfuel)]
          rfl

end Body

/-! ### The readers between three quotes -/

lemma readsLines_readBasicLines : ReadsLines '"' readBasicLines where
  close fuel rest := by
    rw [readBasicLines.eq_def, afterTriple?_triple]
  bare fuel rest h := by
    rw [readBasicLines.eq_def, h, afterBreak?_of_isPlain rfl]
    rfl

lemma readsLines_readLiteralLines : ReadsLines '\'' readLiteralLines where
  close fuel rest := by
    rw [readLiteralLines.eq_def, afterTriple?_triple]
  bare fuel rest h := by
    rw [readLiteralLines.eq_def, h, afterBreak?_of_isPlain rfl]
    rfl

lemma spells_readBasicLines_break : Spells readBasicLines '\n' ['\n'] := by
  intro fuel rest
  rw [readBasicLines.eq_def, List.singleton_append, afterTriple?_of_ne (by decide)]
  rfl

lemma spells_readLiteralLines_break : Spells readLiteralLines '\n' ['\n'] := by
  intro fuel rest
  rw [readLiteralLines.eq_def, List.singleton_append, afterTriple?_of_ne (by decide)]
  rfl

lemma spells_readLiteralLines_plain {c : Char} (hq : c ≠ '\'') (hp : isPlain c = true) :
    Spells readLiteralLines c [c] := by
  intro fuel rest
  rw [readLiteralLines.eq_def, List.singleton_append, afterTriple?_of_ne hq,
    afterBreak?_of_isPlain hp]
  simp only [hp, if_true]

lemma spells_readBasicLines_plain {c : Char} (hq : c ≠ '"') (hb : c ≠ '\\')
    (hp : isPlain c = true) : Spells readBasicLines c [c] := by
  intro fuel rest
  rw [readBasicLines.eq_def, List.singleton_append, afterTriple?_of_ne hq,
    afterBreak?_of_isPlain hp]
  simp only [hp, if_true]

/-- No escape folds a line. -/
lemma Escapes.fold?_eq_none {c : Char} {letters : List Char} (h : Escapes c letters)
    (rest : List Char) : fold? (letters ++ rest) = none := by
  obtain ⟨d, more, rfl, hs, hp⟩ := h.starts
  rw [fold?, List.cons_append, List.dropWhile_cons_of_neg (by simp [hs]),
    afterBreak?_of_isPlain hp]
  rfl

lemma spells_readBasicLines_escape {c : Char} {letters : List Char} (h : Escapes c letters) :
    Spells readBasicLines c ('\\' :: letters) := by
  intro fuel rest
  rw [readBasicLines.eq_def, List.cons_append, afterTriple?_of_ne (by decide),
    afterBreak?_of_isPlain rfl]
  simp only [h.fold?_eq_none, h.reads]

/-! ### What the writer puts between three quotes -/

/-- Escaped text over several lines: the writer counts the quotes in a row as `Body` does. -/
lemma body_escapeLines (run : Nat) (cs : List Char) :
    Body '"' readBasicLines run cs (escapeLines run cs) := by
  induction cs generalizing run with
  | nil => exact .nil
  | cons c cs ih =>
      rw [escapeLines]
      split_ifs with hq hrun hb
      · subst hq
        exact .bare hrun (ih (run + 1))
      · have hletter : Escapes c ['"'] := .letter (congrArg some hq.symm)
        exact .spelled (by decide) (spells_readBasicLines_escape hletter) (ih 0)
      · obtain ⟨letters, hpiece, hletters⟩ := Escapes.escapeControl hb.2
        rw [hpiece]
        exact .spelled (by decide) (spells_readBasicLines_escape hletters) (ih 0)
      · have hspells : Spells readBasicLines c [c] := by
          by_cases hn : c = '\n'
          · exact hn ▸ spells_readBasicLines_break
          · obtain ⟨hb, hc⟩ := not_or.1 fun h => hb ⟨hn, h⟩
            have hp := isPlain_of_not_isControl (Bool.eq_false_iff.2 hc)
            exact spells_readBasicLines_plain hq hb hp
        exact .spelled hq hspells (ih 0)

lemma le_longestRun (quote : Char) (run : Nat) (cs : List Char) :
    run ≤ longestRun quote run cs := by
  induction cs generalizing run with
  | nil => exact Nat.le_refl run
  | cons c cs ih =>
      rw [longestRun]
      split_ifs
      · exact Nat.le_of_succ_le (ih (run + 1))
      · exact Nat.le_max_left ..

/-- Text without three single quotes in a row stands for itself. -/
lemma body_plain {run : Nat} {cs : List Char} (plain : ∀ c ∈ cs, isPlain c = true ∨ c = '\n')
    (runs : longestRun '\'' run cs ≤ 2) : Body '\'' readLiteralLines run cs cs := by
  induction cs generalizing run with
  | nil => exact .nil
  | cons c cs ih =>
      have hplain : ∀ d ∈ cs, isPlain d = true ∨ d = '\n' :=
        fun d hd => plain d (List.mem_cons_of_mem _ hd)
      rw [longestRun] at runs
      split_ifs at runs with hq
      · subst hq
        have hrun := le_longestRun '\'' (run + 1) cs
        exact .bare (by omega) (ih hplain runs)
      · have hspells : Spells readLiteralLines c [c] := by
          rcases plain c (List.mem_cons_self ..) with hp | rfl
          · exact spells_readLiteralLines_plain hq hp
          · exact spells_readLiteralLines_break
        exact .spelled hq hspells (ih hplain (Nat.max_le.1 runs).2)

/-! ### The quoted forms -/

/-- The forms in which a text may be quoted, each with what it asks of the text. -/
inductive Quotes (cs : List Char) : List Char → Prop
  | line : Quotes cs (enclose "\"" (escapeLine cs))
  | literal (plain : ∀ c ∈ cs, isPlain c = true ∧ c ≠ '\'') : Quotes cs (enclose "'" cs)
  | lines : Quotes cs (encloseLines "\"\"\"" (cs.contains '\n') (escapeLines 0 cs))
  | literalLines (plain : ∀ c ∈ cs, isPlain c = true ∨ c = '\n')
      (runs : longestRun '\'' 0 cs ≤ 2) :
      Quotes cs (encloseLines "'''" (cs.contains '\n') cs)

/-- The writer takes one of the forms that suit the text. -/
theorem quotes_writeText (text : String) : Quotes text.toList (writeText text).toList := by
  rw [writeText, String.toList_ofList]
  split_ifs with h₁ h₂ h₃ h₄ h₅
  · exact .line
  · refine .literal fun c hc => ⟨?_, ?_⟩
    · rcases isPlain_or_mem_of_controlsOnly h₂.1 hc with hp | ht
      · exact hp
      · rw [List.mem_singleton.1 ht]
        rfl
    · rintro rfl
      simp [hc] at h₂
  · exact .lines
  · refine .literalLines (fun c hc => ?_) h₄.2
    rcases isPlain_or_mem_of_controlsOnly h₄.1 hc with hp | ht
    · exact .inl hp
    · rcases List.mem_cons.1 ht with rfl | ht
      · exact .inl rfl
      · exact .inr (List.mem_singleton.1 ht)
  · rw [← h₅]
    exact .lines
  · exact .line

/-- The text does not start with a quote of either kind. -/
def Unquoted (rest : List Char) : Prop := rest.head? ≠ some '"' ∧ rest.head? ≠ some '\''

/-- One quote around text that does not start with it is no three quotes. -/
lemma afterTriple?_enclosed {quote : Char} {inner rest : List Char}
    (hinner : inner.head? ≠ some quote) (hrest : rest.head? ≠ some quote) :
    afterTriple? quote (quote :: (inner ++ quote :: rest)) = none := by
  match inner, rest with
  | [], [] => rfl
  | [], c :: rest => exact afterTriple?_of_third_ne (by simpa using hrest) rest
  | c :: inner, rest => exact afterTriple?_of_second_ne (by simpa using hinner) _

/-- Escaped text without a line feed starts with no line break. -/
lemma isPlain_head_escapeLines {run : Nat} {cs : List Char} (h : '\n' ∉ cs) :
    ∀ c ∈ (escapeLines run cs).head?, isPlain c = true := by
  cases cs with
  | nil => exact nofun
  | cons c cs =>
      have hn : c ≠ '\n' := fun heq => h (heq ▸ List.mem_cons_self ..)
      rw [escapeLines]
      split_ifs with hq hrun hb
      · rintro _ ⟨⟩
        rfl
      · rintro _ ⟨⟩
        rfl
      · obtain ⟨letters, hpiece, -⟩ := Escapes.escapeControl hb.2
        rw [hpiece]
        rintro _ ⟨⟩
        rfl
      · rintro _ ⟨⟩
        obtain ⟨-, hc⟩ := not_or.1 fun h => hb ⟨hn, h⟩
        exact isPlain_of_not_isControl (Bool.eq_false_iff.2 hc)

/-- The line break that the writer puts in front of several lines is left out again, and without
one nothing is. -/
lemma skipBreak_lines {multiline : Bool} {body : List Char}
    (hbody : multiline = false → ∀ c ∈ body.head?, isPlain c = true) {quote : Char}
    (hquote : isPlain quote = true) (rest : List Char) :
    skipBreak ((if multiline then '\n' :: body else body) ++ quote :: rest) =
      body ++ quote :: rest := by
  cases multiline with
  | true => rfl
  | false =>
      have hnone : afterBreak? (body ++ quote :: rest) = none := by
        cases body with
        | nil => exact afterBreak?_of_isPlain hquote _
        | cons c body => exact afterBreak?_of_isPlain (hbody rfl c rfl) _
      rw [if_neg (by decide), skipBreak, hnone, Option.getD_none]

/-- Everything after the opening quotes is read up to the closing ones. -/
lemma Body.read_inside {quote : Char} {read : QuotedReader} {text body rest : List Char}
    {multiline : Bool} (h : Body quote read 0 text body) (reader : ReadsLines quote read)
    (hbody : multiline = false → ∀ c ∈ body.head?, isPlain c = true)
    (hquote : isPlain quote = true) (stop : rest.head? ≠ some quote) :
    let inside := (if multiline then '\n' :: body else body) ++ quote :: quote :: quote :: rest
    read (inside.length + 1) (skipBreak inside) = some (text, rest) := by
  intro inside
  have hlength : text.length < inside.length + 1 := by
    have hle : text.length ≤ body.length := h.length_le
    have hinside : body.length ≤ inside.length := by
      cases multiline <;> simp [inside]; omega
    omega
  rw [skipBreak_lines hbody hquote, h.read_eq reader stop _ hlength]

lemma enclose_doubles (inner rest : List Char) :
    enclose "\"\"\"" inner ++ rest =
      '"' :: '"' :: '"' :: (inner ++ '"' :: '"' :: '"' :: rest) := by
  simp [enclose]

lemma enclose_singles (inner rest : List Char) :
    enclose "'''" inner ++ rest =
      '\'' :: '\'' :: '\'' :: (inner ++ '\'' :: '\'' :: '\'' :: rest) := by
  simp [enclose]

lemma getLast?_enclose {quotes : String} {quote : Char} (h : quotes.toList.getLast? = some quote)
    (inner : List Char) : (enclose quotes inner).getLast? = some quote := by
  rw [enclose, List.getLast?_append, h, Option.some_or]

namespace Quotes

variable {cs out rest : List Char}

/-- Quoted text starts and ends with a quote. -/
lemma enclosed (h : Quotes cs out) :
    ∃ quote, (quote = '"' ∨ quote = '\'') ∧ out.head? = some quote ∧
      out.getLast? = some quote := by
  cases h with
  | line => exact ⟨'"', .inl rfl, rfl, getLast?_enclose rfl _⟩
  | literal => exact ⟨'\'', .inr rfl, rfl, getLast?_enclose rfl _⟩
  | lines => exact ⟨'"', .inl rfl, rfl, getLast?_enclose rfl _⟩
  | literalLines => exact ⟨'\'', .inr rfl, rfl, getLast?_enclose rfl _⟩

/-- The reader tells the forms apart by their first three characters, and reads each up to its
closing quotes. -/
theorem readQuoted_eq (h : Quotes cs out) (stop : Unquoted rest) :
    readQuoted (out ++ rest) = some (String.ofList cs, rest) := by
  cases h with
  | line =>
      have hout : enclose "\"" (escapeLine cs) ++ rest = '"' :: (escapeLine cs ++ '"' :: rest) := by
        simp [enclose]
      have hlength : cs.length < (escapeLine cs ++ '"' :: rest).length + 1 := by
        have := length_le_escapeLine cs
        rw [List.length_append]
        omega
      rw [hout, readQuoted, afterTriple?_enclosed (head?_escapeLine_ne cs) stop.1,
        afterTriple?_of_ne (by decide)]
      show (readBasic _ _).map _ = _
      rw [readBasic_escapeLine cs rest _ hlength]
      rfl
  | literal plain =>
      have hout : enclose "'" cs ++ rest = '\'' :: (cs ++ '\'' :: rest) := by
        simp [enclose]
      have hhead : cs.head? ≠ some '\'' := fun h => (plain _ (List.mem_of_head? h)).2 rfl
      rw [hout, readQuoted, afterTriple?_of_ne (by decide), afterTriple?_enclosed hhead stop.2]
      show (readLiteral _).map _ = _
      rw [readLiteral_plain plain]
      rfl
  | lines =>
      have hplain : cs.contains '\n' = false →
          ∀ c ∈ (escapeLines 0 cs).head?, isPlain c = true := by
        intro h
        exact isPlain_head_escapeLines fun hn => by simp [hn] at h
      rw [encloseLines, enclose_doubles, readQuoted, afterTriple?_triple]
      show (readBasicLines _ _).map _ = _
      rw [(body_escapeLines 0 cs).read_inside readsLines_readBasicLines hplain rfl stop.1]
      rfl
  | literalLines plain runs =>
      have hplain : cs.contains '\n' = false → ∀ c ∈ cs.head?, isPlain c = true := by
        intro h c hc
        have hmem := List.mem_of_head? hc
        refine (plain c hmem).resolve_right ?_
        rintro rfl
        simp [hmem] at h
      rw [encloseLines, enclose_singles, readQuoted, afterTriple?_of_ne (by decide),
        afterTriple?_triple]
      show (readLiteralLines _ _).map _ = _
      rw [(body_plain plain runs).read_inside readsLines_readLiteralLines hplain rfl stop.2]
      rfl

end Quotes

/-- Quoted text reads back as it is, and reading stops right after its quotes. -/
theorem readQuoted_writeText (text : String) {rest : List Char} (stop : Unquoted rest) :
    readQuoted ((writeText text).toList ++ rest) = some (text, rest) := by
  rw [(quotes_writeText text).readQuoted_eq stop, String.ofList_toList]

end BootLayer.Toml
