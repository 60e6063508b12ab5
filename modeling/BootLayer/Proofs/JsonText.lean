import Mathlib.Tactic.Common
import BootLayer.CommandLine.Execute
import BootLayer.Proofs.Insertion
import BootLayer.Proofs.JsonDouble
import BootLayer.Proofs.JsonTree

/-!
The compact text of a document reads back up to its doubles, as far as the reader goes down.

* `reread`: the document with every double in it read again.
* `Reads`: what it means that a written document is read, whatever follows it and however much fuel
  and depth is left.
* `readItems_chars`, `readMembers_chars`: arrays and objects inherit it from what stands in them.
* `reads`: all documents are read.
* `json_text_reads_back`: so the text of a value without doubles is read as that value, or is
  refused if the value has more than 127 containers inside one another.
-/

namespace BootLayer.Json

/-- The document itself, whatever stands in it, is no double. -/
def NoDouble : Json → Prop
  | num .. => False
  | _ => True

mutual

/-- The document with every double in it replaced by the one that its text is read as. -/
def reread : Json → Json
  | num x finite => num x.reread (Double.isFinite_reread finite)
  | array l => array (rereadItems l)
  | object m => object (rereadMembers m)
  | other => other

/-- The items of an array, each read again. -/
def rereadItems : List Json → List Json
  | [] => []
  | j :: rest => reread j :: rereadItems rest

/-- The members of an object, each read again. -/
def rereadMembers {lo : Option String} : Entries Json lo → Entries Json lo
  | .nil => .nil
  | .cons k h j rest => .cons k h (reread j) (rereadMembers rest)

end

lemma rereadItems_eq_map (l : List Json) : rereadItems l = l.map reread := by
  induction l with
  | nil => rfl
  | cons j rest ih => rw [rereadItems, ih, List.map_cons]

lemma toList_rereadMembers {lo : Option String} : (m : Entries Json lo) →
    (rereadMembers m).toList = m.toList.map fun e => (e.1, e.2.reread)
  | .nil => rfl
  | .cons _ _ _ rest => congrArg (List.cons _) (toList_rereadMembers rest)

/-- A document without doubles is left alone. -/
lemma reread_eq_self {j : Json} (h : j.Everywhere NoDouble) : j.reread = j := by
  induction j using Json.ind with
  | _ j ih =>
      have hchildren : ∀ c ∈ j.children, c.reread = c := fun c hc => ih c hc (h.child hc)
      cases j with
      | num x finite => exact absurd (everywhere_iff.1 h).1 id
      | array l =>
          rw [reread, rereadItems_eq_map]
          exact congrArg array (map_eq_self_iff.2 hchildren)
      | object m =>
          exact congrArg object ((Entries.map_eq_self_iff (toList_rereadMembers m)).2 hchildren)
      | _ => rfl

/-- The written document is read, its doubles as far as they come back, whatever follows it, if it
is not too deep; otherwise it is refused. -/
def Reads (j : Json) : Prop :=
  ∀ (fuel limit : Nat) (rest : List Char), 2 * (chars j).length ≤ fuel → Follows rest →
    readValue fuel limit (chars j ++ rest) = if j.depth ≤ limit then some (j.reread, rest) else none

/-! ### The printer -/

lemma stringText_append (text : String) (rest : List Char) :
    stringText text ++ rest = '"' :: (text.toList.flatMap escape ++ '"' :: rest) := by
  rw [stringText, List.cons_append, List.append_assoc]
  rfl

lemma chars_int (n : Int64) : chars (int n) = (toString n.toInt).toList := rfl

lemma chars_nat (n : UInt64) (large : Nat.pow 2 63 ≤ n.toNat) :
    chars (nat n large) = Decimal.digitsOf n.toNat := String.toList_ofList

lemma chars_num (x : Double) (finite : x.isFinite = true) :
    chars (num x finite) = x.signed x.jsonDigits := Double.toList_jsonText x

lemma chars_str_append (text : String) (rest : List Char) :
    chars (str text) ++ rest = '"' :: (text.toList.flatMap escape ++ '"' :: rest) := by
  rw [show chars (str text) = stringText text from rfl, stringText_append]

lemma chars_array_append (l : List Json) (rest : List Char) :
    chars (array l) ++ rest = '[' :: (itemChars l ++ ']' :: rest) := by
  rw [show chars (array l) = '[' :: itemChars l ++ [']'] from rfl, List.append_assoc]
  rfl

lemma chars_object_append (m : Dict Json) (rest : List Char) :
    chars (object m) ++ rest = '\x7b' :: (memberChars m ++ '\x7d' :: rest) := by
  rw [show chars (object m) = '\x7b' :: memberChars m ++ ['\x7d'] from rfl, List.append_assoc]
  rfl

/-! ### Blanks -/

lemma skipSpace_cons {c : Char} (h : isSpace c = false) (cs : List Char) :
    skipSpace (c :: cs) = c :: cs := List.dropWhile_cons_of_neg (by simp [h])

lemma isSpace_of_isDigit {c : Char} (h : c.isDigit = true) : isSpace c = false := by
  rw [isSpace]
  by_contra hspace
  simp only [Bool.or_eq_true, beq_iff_eq, Bool.not_eq_false] at hspace
  rcases hspace with ((rfl | rfl) | rfl) | rfl <;> exact absurd h (by decide)

/-! ### The reader by the first character -/

section

variable (fuel limit : Nat) (rest : List Char)

lemma readValue_quote :
    readValue (fuel + 1) limit ('"' :: rest) =
      (readString rest).map fun (text, rest) => (str (String.ofList text), rest) := rfl

lemma readValue_minus :
    readValue (fuel + 1) limit ('-' :: rest) = Numeral.read true rest := rfl

lemma readValue_bracket :
    readValue (fuel + 1) (limit + 1) ('[' :: rest) =
      match skipSpace rest with
      | ']' :: rest => some (array [], rest)
      | rest => (readItems fuel limit rest).map fun (items, rest) => (array items, rest) := rfl

lemma readValue_brace :
    readValue (fuel + 1) (limit + 1) ('\x7b' :: rest) =
      match skipSpace rest with
      | '\x7d' :: rest => some (object .nil, rest)
      | rest =>
        (readMembers fuel limit rest).map fun (members, rest) =>
          (object (Entries.ofList members), rest) := rfl

end

/-- A digit starts a number. -/
lemma readValue_digit (fuel limit : Nat) {c : Char} (h : c.isDigit = true) (cs : List Char) :
    readValue (fuel + 1) limit (c :: cs) = Numeral.read false (c :: cs) := by
  rw [readValue, skipSpace_cons (isSpace_of_isDigit h)]
  split
  case h_8 => rfl
  all_goals
    next heq =>
      cases heq
      exact absurd h (by decide)

/-! ### What follows, and what comes first -/

lemma follows_nil : Follows [] := by
  rintro c ⟨⟩

lemma follows_cons {c : Char} (h : c = ',' ∨ c = ']' ∨ c = '\x7d') (rest : List Char) :
    Follows (c :: rest) := by
  rintro d ⟨⟩
  exact h

/-- The digits of a number start with a digit. -/
lemma digitsOf_eq_cons (n : Nat) :
    ∃ c cs, Decimal.digitsOf n = c :: cs ∧ c.isDigit = true := by
  obtain ⟨c, cs, hcs⟩ := List.exists_cons_of_ne_nil (Decimal.digitsOf_ne_nil n)
  exact ⟨c, cs, hcs, Decimal.digits_digitsOf n c (by simp [hcs])⟩

/-- The text of a document starts with a token that closes nothing. -/
lemma chars_eq_cons (j : Json) : ∃ c cs, chars j = c :: cs ∧ isSpace c = false ∧ c ≠ ']' := by
  have hdigit : ∀ {ds : List Char}, StartsWithDigit ds →
      ∃ c cs, ds = c :: cs ∧ isSpace c = false ∧ c ≠ ']' := by
    rintro _ ⟨c, cs, rfl, hc⟩
    refine ⟨c, cs, rfl, isSpace_of_isDigit hc, ?_⟩
    rintro rfl
    exact absurd hc (by decide)
  have hdigits : ∀ n, ∃ c cs, Decimal.digitsOf n = c :: cs ∧ isSpace c = false ∧ c ≠ ']' :=
    fun n => hdigit (digitsOf_eq_cons n)
  cases j with
  | null => exact ⟨'n', _, rfl, by decide, by decide⟩
  | bool b => cases b <;> exact ⟨_, _, rfl, by decide, by decide⟩
  | int n =>
      rw [chars_int, toList_toString]
      split_ifs
      · exact ⟨'-', _, rfl, by decide, by decide⟩
      · exact hdigits _
  | nat n large =>
      obtain ⟨c, cs, hcs, hc⟩ := hdigits n.toNat
      exact ⟨c, cs, (chars_nat n large).trans hcs, hc⟩
  | num x finite =>
      rw [chars_num, Double.signed]
      split_ifs
      · exact ⟨'-', _, rfl, by decide, by decide⟩
      · exact hdigit (Double.startsWithDigit_jsonDigits (of_decide_eq_true finite))
  | str s => exact ⟨'"', _, rfl, by decide, by decide⟩
  | array l => exact ⟨'[', _, rfl, by decide, by decide⟩
  | object m => exact ⟨'\x7b', _, rfl, by decide, by decide⟩

/-! ### One item, one member -/

section

variable {fuel limit d : Nat} {cs rest : List Char} {j : Json}

/-- An item and what comes after it. -/
lemma readItems_of_readValue
    (h : readValue fuel limit cs = if d ≤ limit then some (j, rest) else none) :
    readItems (fuel + 1) limit cs =
      if d ≤ limit then
        match skipSpace rest with
        | ',' :: rest => (readItems fuel limit rest).map fun (items, rest) => (j :: items, rest)
        | ']' :: rest => some ([j], rest)
        | _ => none
      else none := by
  rw [readItems, h]
  split_ifs <;> rfl

lemma readItems_comma
    (h : readValue fuel limit cs = if d ≤ limit then some (j, ',' :: rest) else none) :
    readItems (fuel + 1) limit cs =
      if d ≤ limit then
        (readItems fuel limit rest).map fun (items, rest) => (j :: items, rest)
      else none := readItems_of_readValue h

lemma readItems_close
    (h : readValue fuel limit cs = if d ≤ limit then some (j, ']' :: rest) else none) :
    readItems (fuel + 1) limit cs = if d ≤ limit then some ([j], rest) else none :=
  readItems_of_readValue h

/-- A member and what comes after it. -/
lemma readMembers_of_readValue (key : String)
    (h : readValue fuel limit cs = if d ≤ limit then some (j, rest) else none) :
    readMembers (fuel + 1) limit (stringText key ++ ':' :: cs) =
      if d ≤ limit then
        match skipSpace rest with
        | ',' :: rest =>
          (readMembers fuel limit rest).map fun (members, rest) => ((key, j) :: members, rest)
        | '\x7d' :: rest => some ([(key, j)], rest)
        | _ => none
      else none := by
  rw [stringText_append, readMembers, skipSpace_cons (by decide)]
  simp only [readString_flatMap, skipSpace_cons (show isSpace ':' = false by decide), h,
    String.ofList_toList]
  split_ifs <;> rfl

lemma readMembers_comma (key : String)
    (h : readValue fuel limit cs = if d ≤ limit then some (j, ',' :: rest) else none) :
    readMembers (fuel + 1) limit (stringText key ++ ':' :: cs) =
      if d ≤ limit then
        (readMembers fuel limit rest).map fun (members, rest) => ((key, j) :: members, rest)
      else none := readMembers_of_readValue key h

lemma readMembers_close (key : String)
    (h : readValue fuel limit cs = if d ≤ limit then some (j, '\x7d' :: rest) else none) :
    readMembers (fuel + 1) limit (stringText key ++ ':' :: cs) =
      if d ≤ limit then some ([(key, j)], rest) else none :=
  readMembers_of_readValue key h

end

/-! ### All items, all members -/

/-- Two depths keep to a limit exactly if the greater one does. -/
lemma ite_ite_max {α : Type} (a b limit : Nat) (x : Option α) :
    (if a ≤ limit then if b ≤ limit then x else none else none) =
      if max a b ≤ limit then x else none := by
  simp only [Nat.max_le, ite_and]

/-- **The items of an array are read** if each of them is. -/
lemma readItems_chars {l : List Json} (hne : l ≠ []) (h : ∀ j ∈ l, Reads j) (limit : Nat)
    (rest : List Char) {fuel : Nat} (hfuel : 2 * (itemChars l).length + 1 ≤ fuel) :
    readItems fuel limit (itemChars l ++ ']' :: rest) =
      if depthOfItems l ≤ limit then some (rereadItems l, rest) else none := by
  induction l generalizing fuel with
  | nil => exact absurd rfl hne
  | cons j l ih =>
      -- one step of fuel is for the list itself, hence one more than for the item
      obtain ⟨fuel, rfl⟩ : ∃ f, fuel = f + 1 := ⟨fuel - 1, by omega⟩
      have hj := h j (List.mem_cons_self ..)
      cases l with
      | nil =>
          rw [itemChars] at hfuel ⊢
          have hread := hj fuel limit (']' :: rest) (by omega) (follows_cons (.inr (.inl rfl)) rest)
          rw [readItems_close hread, depthOfItems, depthOfItems, Nat.max_zero]
          rfl
      | cons k l =>
          rw [itemChars, List.length_append, List.length_cons] at hfuel
          rw [itemChars, List.append_assoc, List.cons_append]
          have hread := hj fuel limit (',' :: (itemChars (k :: l) ++ ']' :: rest)) (by omega)
            (follows_cons (.inl rfl) _)
          have hrest : readItems fuel limit (itemChars (k :: l) ++ ']' :: rest) = _ :=
            ih (by simp) (fun i hi => h i (List.mem_cons_of_mem j hi)) (by omega)
          have hdepth : depthOfItems (j :: k :: l) = max j.depth (depthOfItems (k :: l)) := by
            rw [depthOfItems]
          rw [readItems_comma hread, hrest, hdepth, ← ite_ite_max]
          split_ifs <;> rfl

/-- **The members of an object are read** if the value of each of them is. -/
lemma readMembers_chars {lo : Option String} (limit : Nat) (rest : List Char) :
    (m : Entries Json lo) → m.toList ≠ [] → (∀ j ∈ m.values, Reads j) →
    ∀ {fuel : Nat}, 2 * (memberChars m).length + 1 ≤ fuel →
      readMembers fuel limit (memberChars m ++ '\x7d' :: rest) =
        if depthOfMembers m ≤ limit then some ((rereadMembers m).toList, rest) else none
  | .nil, hne, _, _, _ => absurd rfl hne
  | .cons key _ j .nil, _, h, fuel, hfuel => by
      obtain ⟨fuel, rfl⟩ : ∃ f, fuel = f + 1 := ⟨fuel - 1, by omega⟩
      rw [memberChars, List.length_append, List.length_cons] at hfuel
      rw [memberChars, List.append_assoc, List.cons_append]
      have hread := h j (List.mem_cons_self ..) fuel limit ('\x7d' :: rest) (by omega)
        (follows_cons (.inr (.inr rfl)) rest)
      rw [readMembers_close key hread, depthOfMembers, depthOfMembers, Nat.max_zero]
      rfl
  | .cons key habove j (.cons key' above k m), _, h, fuel, hfuel => by
      obtain ⟨fuel, rfl⟩ : ∃ f, fuel = f + 1 := ⟨fuel - 1, by omega⟩
      rw [memberChars, List.length_append, List.length_cons, List.length_append,
        List.length_cons] at hfuel
      rw [memberChars, List.append_assoc, List.cons_append, List.append_assoc, List.cons_append]
      have hread := h j (List.mem_cons_self ..) fuel limit
        (',' :: (memberChars (.cons key' above k m) ++ '\x7d' :: rest)) (by omega)
        (follows_cons (.inl rfl) _)
      have hrest : readMembers fuel limit (memberChars (.cons key' above k m) ++ _) = _ :=
        readMembers_chars limit rest (.cons key' above k m) (by simp)
          (fun i hi => h i (List.mem_cons_of_mem j hi)) (by omega)
      have hdepth : depthOfMembers (.cons key habove j (.cons key' above k m)) =
          max j.depth (depthOfMembers (.cons key' above k m)) := by
        rw [depthOfMembers]
      rw [readMembers_comma key hread, hrest, hdepth, ← ite_ite_max]
      split_ifs <;> rfl

/-! ### Documents -/

/-- A document is written with at least one character, so there is fuel to read it. -/
lemma exists_fuel {j : Json} {fuel : Nat} (h : 2 * (chars j).length ≤ fuel) :
    ∃ f, fuel = f + 1 := by
  obtain ⟨c, cs, hcs, -⟩ := chars_eq_cons j
  rw [hcs, List.length_cons] at h
  exact ⟨fuel - 1, by omega⟩

/-- Documents without depth are read as soon as there is fuel. -/
lemma reads_of_flat {j : Json} (hdepth : j.depth = 0)
    (h : ∀ fuel limit rest, Follows rest →
      readValue (fuel + 1) limit (chars j ++ rest) = some (j.reread, rest)) : Reads j := by
  intro fuel limit rest hfuel hrest
  obtain ⟨fuel, rfl⟩ := exists_fuel hfuel
  rw [h fuel limit rest hrest, hdepth, if_pos (Nat.zero_le limit)]

lemma readValue_digits {n : Nat} (hn : n < 2 ^ 64) {rest : List Char} (hrest : Follows rest)
    (fuel limit : Nat) :
    readValue (fuel + 1) limit (Decimal.digitsOf n ++ rest) =
      (Numeral.integer false n.toUInt64).map fun number => (number, rest) := by
  obtain ⟨c, cs, hcs, hc⟩ := digitsOf_eq_cons n
  rw [← Numeral.read_digits false hn hrest, hcs, List.cons_append, readValue_digit fuel limit hc]

lemma reads_int (n : Int64) : Reads (int n) := by
  refine reads_of_flat rfl fun fuel limit rest hrest => ?_
  have hlow := n.le_toInt
  have hhigh := n.toInt_lt
  have hsize : n.toInt.natAbs < 2 ^ 64 := by omega
  have hint := Numeral.integer_int n
  rw [chars_int, toList_toString]
  split_ifs with hneg
  · rw [decide_eq_true hneg] at hint
    rw [List.cons_append, readValue_minus, Numeral.read_digits true hsize hrest, hint]
    rfl
  · rw [decide_eq_false hneg] at hint
    rw [readValue_digits hsize hrest, hint]
    rfl

lemma reads_nat (n : UInt64) (large : Nat.pow 2 63 ≤ n.toNat) : Reads (nat n large) := by
  refine reads_of_flat rfl fun fuel limit rest hrest => ?_
  rw [chars_nat, readValue_digits n.toNat_lt hrest, Numeral.integer_nat large]
  rfl

lemma reads_num (x : Double) (finite : x.isFinite = true) : Reads (num x finite) := by
  refine reads_of_flat rfl fun fuel limit rest hrest => ?_
  have hread := Numeral.read_jsonDigits finite hrest
  rw [chars_num, Double.signed]
  split_ifs with hneg
  · rw [hneg] at hread
    rw [List.cons_append, readValue_minus, hread]
    rfl
  · rw [Bool.not_eq_true] at hneg
    rw [hneg] at hread
    obtain ⟨c, cs, hcs, hc⟩ := Double.startsWithDigit_jsonDigits (of_decide_eq_true finite)
    rw [hcs, List.cons_append] at hread ⊢
    rw [readValue_digit fuel limit hc, hread]
    rfl

lemma reads_str (s : String) : Reads (str s) := by
  refine reads_of_flat rfl fun fuel limit rest _ => ?_
  rw [chars_str_append, readValue_quote, readString_flatMap]
  simp only [Option.map_some, String.ofList_toList, reread]

/-- The items of an array that is not empty. -/
lemma readValue_items (fuel limit : Nat) {c : Char} (hspace : isSpace c = false) (hc : c ≠ ']')
    (cs : List Char) :
    readValue (fuel + 1) (limit + 1) ('[' :: c :: cs) =
      (readItems fuel limit (c :: cs)).map fun (items, rest) => (array items, rest) := by
  rw [readValue_bracket, skipSpace_cons hspace]
  split
  next heq => exact absurd (List.cons.inj heq).1 hc
  next => rfl

/-- **An array is read** if its items are. -/
lemma reads_array {l : List Json} (h : ∀ j ∈ l, Reads j) : Reads (array l) := by
  intro fuel limit rest hfuel _
  have hlength : (chars (array l)).length = (itemChars l).length + 2 := by
    rw [← List.append_nil (chars _), chars_array_append, List.length_cons, List.length_append]
    rfl
  obtain ⟨fuel, rfl⟩ : ∃ f, fuel = f + 1 := ⟨fuel - 1, by omega⟩
  rw [chars_array_append, depth]
  cases limit with
  | zero =>
      rw [if_neg (Nat.not_succ_le_zero _)]
      rfl
  | succ limit =>
      cases l with
      | nil =>
          rw [depthOfItems, if_pos (by omega)]
          rfl
      | cons j l =>
          obtain ⟨c, cs, hcs, hspace, hc⟩ := chars_eq_cons j
          have hitems := readItems_chars (by simp) h limit rest (show _ ≤ fuel by omega)
          obtain ⟨cs', hcs'⟩ : ∃ cs', itemChars (j :: l) = c :: cs' := by
            cases l with
            | nil => exact ⟨cs, by rw [itemChars, hcs]⟩
            | cons k l => exact ⟨_, by rw [itemChars, hcs, List.cons_append]⟩
          rw [hcs', List.cons_append] at hitems ⊢
          rw [readValue_items fuel limit hspace hc, hitems]
          simp only [Nat.add_le_add_iff_right]
          split_ifs <;> rfl

/-- The members of an object that is not empty. -/
lemma readValue_members (fuel limit : Nat) (cs : List Char) :
    readValue (fuel + 1) (limit + 1) ('\x7b' :: '"' :: cs) =
      (readMembers fuel limit ('"' :: cs)).map fun (members, rest) =>
        (object (Entries.ofList members), rest) := readValue_brace fuel limit ('"' :: cs)

/-- **An object is read** if the values of its members are. -/
lemma reads_object {m : Dict Json} (h : ∀ j ∈ m.values, Reads j) : Reads (object m) := by
  intro fuel limit rest hfuel _
  have hlength : (chars (object m)).length = (memberChars m).length + 2 := by
    rw [← List.append_nil (chars _), chars_object_append, List.length_cons, List.length_append]
    rfl
  obtain ⟨fuel, rfl⟩ : ∃ f, fuel = f + 1 := ⟨fuel - 1, by omega⟩
  rw [chars_object_append, depth]
  cases limit with
  | zero =>
      rw [if_neg (Nat.not_succ_le_zero _)]
      rfl
  | succ limit =>
      cases m with
      | nil =>
          rw [depthOfMembers, if_pos (by omega)]
          rfl
      | cons key above j m =>
          have hmembers := readMembers_chars limit rest (.cons key above j m) (by simp) h
            (show _ ≤ fuel by omega)
          obtain ⟨cs, hcs⟩ : ∃ cs, memberChars (.cons key above j m) = '"' :: cs := by
            cases m <;> exact ⟨_, by rw [memberChars, stringText]; rfl⟩
          rw [hcs, List.cons_append] at hmembers ⊢
          rw [readValue_members, hmembers]
          simp only [Nat.add_le_add_iff_right]
          split_ifs
          · exact congrArg (fun m => some (object m, rest)) (Entries.ofList_toList _)
          · rfl

/-- **Every document is read.** -/
lemma reads (j : Json) : Reads j := by
  induction j using Json.ind with
  | _ j ih =>
      cases j with
      | null => exact reads_of_flat rfl fun _ _ _ _ => rfl
      | bool b =>
          cases b <;> exact reads_of_flat rfl fun _ _ _ _ => rfl
      | int n => exact reads_int n
      | nat n large => exact reads_nat n large
      | num x finite => exact reads_num x finite
      | str s => exact reads_str s
      | array l => exact reads_array ih
      | object m => exact reads_object ih

/-- **The text of a document** is read as that document with its doubles read again if not more
containers stand inside one another than the reader allows, and is refused otherwise. -/
lemma read_text_eq (j : Json) :
    read j.text = if j.depth ≤ maxDepth then some j.reread else none := by
  have hread := reads j (2 * (chars j).length + 2) maxDepth [] (by omega) follows_nil
  rw [List.append_nil] at hread
  rw [read, text, String.toList_ofList]
  simp only [hread]
  split_ifs <;> rfl

/-- The text of a document without doubles is read as the document itself. -/
lemma read_text {j : Json} (h : j.Everywhere NoDouble) :
    read j.text = if j.depth ≤ maxDepth then some j else none := by
  rw [read_text_eq, reread_eq_self h]

end BootLayer.Json

namespace BootLayer

/-! ### Values -/

/-- The value itself, whatever stands in it, is nothing, a truth value, an integer, a text, a list
or a map. -/
def Value.Plain : Value → Prop
  | float _ | bytes _ | record .. => False
  | _ => True

lemma Value.Plain.hasJsonForm {v : Value} (h : v.Plain) : v.HasJsonForm := by
  cases v <;> trivial

namespace Json

lemma values_ofEntries {lo : Option String} (m : Entries Value lo) :
    (ofEntries m).values = m.values.map ofValue := by
  rw [Entries.values, toList_ofEntries, List.map_map, Entries.values, List.map_map]
  rfl

/-- The document of a plain value has no doubles. -/
lemma noDouble_ofValue {v : Value} (h : v.Everywhere Value.Plain) :
    (ofValue v).Everywhere NoDouble := by
  induction v using Value.ind with
  | _ v ih =>
      have hv : v.Plain := (everywhere_iff.1 h).1
      have hchildren : ∀ j ∈ v.children.map ofValue, Json.Everywhere NoDouble j :=
        List.forall_mem_map.2 fun c hc => ih c hc (h.child hc)
      refine everywhere_iff.2 ?_
      cases v with
      | float x => exact absurd hv id
      | bytes data => exact absurd hv id
      | record name m => exact absurd hv id
      | list l => exact ⟨trivial, by rwa [ofValue, children, ofValues_eq_map]⟩
      | map m => exact ⟨trivial, by rwa [ofValue, children, values_ofEntries]⟩
      | _ => exact ⟨trivial, fun _ hc => absurd hc List.not_mem_nil⟩

lemma depthOfItems_ofValues {l : List Value} (h : ∀ v ∈ l, (ofValue v).depth = v.depth) :
    depthOfItems (ofValues l) = Value.depthOfItems l := by
  induction l with
  | nil => rfl
  | cons v l ih =>
      obtain ⟨hv, hl⟩ := List.forall_mem_cons.1 h
      rw [ofValues, depthOfItems, Value.depthOfItems, hv, ih hl]

lemma depthOfMembers_ofEntries {lo : Option String} : (m : Entries Value lo) →
    (∀ v ∈ m.values, (ofValue v).depth = v.depth) →
      depthOfMembers (ofEntries m) = Value.depthOfEntries m
  | .nil, _ => rfl
  | .cons _ _ v m, h => by
      obtain ⟨hv, hm⟩ := List.forall_mem_cons.1 h
      rw [ofEntries, depthOfMembers, Value.depthOfEntries, hv, depthOfMembers_ofEntries m hm]

/-- The document of a value is as deep as the value, if no bytes and no record stand in it. -/
lemma depth_ofValue_of_hasJsonForm {v : Value} (h : v.Everywhere Value.HasJsonForm) :
    (ofValue v).depth = v.depth := by
  induction v using Value.ind with
  | _ v ih =>
      have hv : v.HasJsonForm := (everywhere_iff.1 h).1
      have hchildren : ∀ c ∈ v.children, (ofValue c).depth = c.depth :=
        fun c hc => ih c hc (h.child hc)
      cases v with
      | float x =>
          have hfinite : x.isFinite = true := hv
          rw [ofValue, dif_pos hfinite]
          rfl
      | bytes data => exact absurd hv id
      | record name m => exact absurd hv id
      | list l =>
          rw [ofValue, depth, Value.depth]
          exact congrArg (· + 1) (depthOfItems_ofValues hchildren)
      | map m =>
          rw [ofValue, depth, Value.depth]
          exact congrArg (· + 1) (depthOfMembers_ofEntries m hchildren)
      | _ => rfl

/-- The document of a plain value is as deep as the value. -/
lemma depth_ofValue {v : Value} (h : v.Everywhere Value.Plain) : (ofValue v).depth = v.depth :=
  depth_ofValue_of_hasJsonForm (h.mono fun _ => Value.Plain.hasJsonForm)

end Json

namespace CommandLine

/-- **JSON text of a plain value reads back.**  The compact text of a value without doubles, bytes
and records at any depth, which `merge` and `argv` print, is read as an argument with that very
value if at most 127 lists and maps stand inside one another in it.  If more do, it is refused. -/
theorem json_text_reads_back (v : Value) (h : v.Everywhere Value.Plain) :
    (∀ style target source request,
      render style (.merge target source) request v = .text (jsonOf v)) ∧
    (∀ style request, render style .argv request v = .text (jsonOf v)) ∧
    (v.depth ≤ 127 → decodeJson (jsonOf v) = .ok v) ∧
    (127 < v.depth → decodeJson (jsonOf v) = .error (.badJson (jsonOf v))) := by
  have hvalue : (Json.ofValue v).toValue = v := by
    rw [Json.toValue_ofValue]
    exact v.normal_eq_self_iff.2 (h.mono fun _ => Value.Plain.hasJsonForm)
  have hread : Json.read (jsonOf v) =
      if v.depth ≤ 127 then some (Json.ofValue v) else none := by
    rw [jsonOf, Json.read_text (Json.noDouble_ofValue h), Json.depth_ofValue h, Json.maxDepth]
  refine ⟨fun _ _ _ _ => rfl, fun _ _ => rfl, fun hdepth => ?_, fun hdepth => ?_⟩
  · rw [if_pos hdepth] at hread
    rw [decodeJson, hread]
    exact congrArg Except.ok hvalue
  · rw [if_neg (Nat.not_le.2 hdepth)] at hread
    rw [decodeJson, hread]

/-- The value, inside as many lists as given. -/
def inLists : Nat → Value → Value
  | 0, v => v
  | n + 1, v => .list [inLists n v]

lemma everywhere_inLists {P : Value → Prop} (hlist : ∀ l, P (.list l)) (n : Nat) {v : Value}
    (h : v.Everywhere P) : (inLists n v).Everywhere P := by
  induction n with
  | zero => exact h
  | succ n ih => exact everywhere_iff.2 ⟨hlist _, List.forall_mem_singleton.2 ih⟩

lemma depth_inLists (n : Nat) (v : Value) : (inLists n v).depth = v.depth + n := by
  induction n with
  | zero => rfl
  | succ n ih =>
      rw [inLists, Value.depth, Value.depthOfItems, Value.depthOfItems, Nat.max_zero, ih]
      rfl

/-- A map whose key and text need escapes, with the least integer in it. -/
def awkward : Value :=
  .map (.cons "\"\\\n" (above_none _) (.int Int64.minValue)
    (.cons "a" (above_some.2 (by decide)) (.str "\x01é/") .nil))

lemma awkward_plain : awkward.Everywhere Value.Plain := by
  have hleaf : ∀ v : Value, v.Plain → v.children = [] → v.Everywhere Value.Plain :=
    fun v hv hnone => everywhere_iff.2 ⟨hv, by simp [hnone]⟩
  refine everywhere_iff.2 ⟨trivial, List.forall_mem_cons.2 ⟨?_, List.forall_mem_singleton.2 ?_⟩⟩
  · exact hleaf _ trivial rfl
  · exact hleaf _ trivial rfl

/-- The map reads back inside 126 lists; inside one more it is refused. -/
theorem awkward_reads_back_in_lists :
    decodeJson (jsonOf (inLists 126 awkward)) = .ok (inLists 126 awkward) ∧
    decodeJson (jsonOf (inLists 127 awkward)) =
      .error (.badJson (jsonOf (inLists 127 awkward))) := by
  have hplain := fun n => everywhere_inLists (fun _ => trivial) n awkward_plain
  have hdepth := fun n => depth_inLists n awkward
  have hone : awkward.depth = 1 := rfl
  exact ⟨(json_text_reads_back _ (hplain 126)).2.2.1 (by rw [hdepth, hone]),
    (json_text_reads_back _ (hplain 127)).2.2.2 (by rw [hdepth, hone]; decide)⟩

end CommandLine

end BootLayer
