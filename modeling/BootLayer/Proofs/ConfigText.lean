import Mathlib.Data.List.TakeWhile
import BootLayer.CommandLine.Execute
import BootLayer.Proofs.Text
import BootLayer.Proofs.TomlText

/-!
The printed configuration read back.

* `Statement.readExpressions_eq`: the reader takes one statement and the end of its line.
* `readExpressions_statements`: statements joined by line feeds are read one after the other,
  although quoted text may hold line feeds of its own.
* `build_table`: a document of one table with assignments of different names defines exactly these
  names.
* `printed_config_reads_back`: what the `config` command prints sets the configuration it was
  printed from.
-/

namespace BootLayer.Toml

/-! ### The ends of statements -/

/-- Characters of a class are dropped up to the first other one. -/
lemma dropWhile_stop {p : Char → Bool} {cs rest : List Char} (h : ∀ c ∈ cs, p c = true)
    (stop : ∀ c ∈ rest.head?, p c = false) : (cs ++ rest).dropWhile p = rest := by
  rw [List.dropWhile_append_of_pos h]
  cases rest with
  | nil => rfl
  | cons c rest => rw [List.dropWhile_cons_of_neg (by simp [stop c rfl])]

/-- What may follow a statement, and what is left of it for the next one. -/
inductive Ends : List Char → List Char → Prop
  | last : Ends [] []
  | line (tail : List Char) : Ends ('\n' :: tail) tail

namespace Ends

variable {rest tail : List Char}

lemma head?_eq (h : Ends rest tail) {c : Char} (hc : c ∈ rest.head?) : c = '\n' := by
  cases h with
  | last => cases hc
  | line => cases hc; rfl

lemma length_le (h : Ends rest tail) : tail.length ≤ rest.length := by
  cases h with
  | last => exact Nat.le_refl 0
  | line => exact Nat.le_succ _

lemma unquoted (h : Ends rest tail) : Unquoted rest :=
  ⟨fun hc => absurd (h.head?_eq hc) (by decide), fun hc => absurd (h.head?_eq hc) (by decide)⟩

lemma afterLine?_eq (h : Ends rest tail) : afterLine? rest = some tail := by
  cases h <;> rfl

/-- A comment reaches up to the end of its line. -/
lemma afterLine?_comment (h : Ends rest tail) {body : List Char}
    (plain : ∀ c ∈ body, isPlain c = true) : afterLine? ('#' :: (body ++ rest)) = some tail := by
  have hbody : (body ++ rest).dropWhile isPlain = rest :=
    dropWhile_stop plain fun c hc => by rw [h.head?_eq hc]; rfl
  have hskip : skipSpace ('#' :: (body ++ rest)) = '#' :: (body ++ rest) := rfl
  rw [afterLine?, hskip]
  simp only [hbody]
  cases h <;> rfl

end Ends

/-! ### Names -/

/-- A name that needs no quotes as a key. -/
def IsBareName (name : String) : Prop := name.toList ≠ [] ∧ name.toList.all isBare = true

instance (name : String) : Decidable (IsBareName name) := inferInstanceAs (Decidable (_ ∧ _))

lemma IsBareName.exists_cons {name : String} (h : IsBareName name) :
    ∃ c more, name.toList = c :: more ∧ isBare c = true := by
  obtain ⟨c, more, hname⟩ := List.exists_cons_of_ne_nil h.1
  exact ⟨c, more, hname, List.all_eq_true.1 h.2 c (hname ▸ List.mem_cons_self ..)⟩

/-- A bare character is none of those that mean something else. -/
lemma ne_of_isBare {c d : Char} (hc : isBare c = true) (hd : isBare d = false) : c ≠ d := by
  rintro rfl
  exact absurd hc (by simp [hd])

lemma not_isSpace_of_isBare {c : Char} (hc : isBare c = true) : isSpace c = false := by
  simp [isSpace, ne_of_isBare hc (d := ' ') rfl, ne_of_isBare hc (d := '\t') rfl]

lemma skipSpace_cons {c : Char} (h : isSpace c = false) (rest : List Char) :
    skipSpace (c :: rest) = c :: rest := by
  rw [skipSpace, List.dropWhile_cons_of_neg (by simp [h])]

lemma readPart_bare {name : String} (bare : IsBareName name) {rest : List Char}
    (stop : ∀ c ∈ rest.head?, isBare c = false) :
    readPart (name.toList ++ rest) = some (name, rest) := by
  have hdrop := dropWhile_stop (List.all_eq_true.1 bare.2) stop
  have htake : (name.toList ++ rest).takeWhile isBare = name.toList := by
    have hboth := List.takeWhile_append_dropWhile (p := isBare) (l := name.toList ++ rest)
    rw [hdrop] at hboth
    exact List.append_cancel_right hboth
  obtain ⟨c, more, hname, hc⟩ := bare.exists_cons
  unfold readPart
  split
  · next heq =>
      rw [hname] at heq
      exact absurd (List.cons.inj heq).1 (ne_of_isBare hc rfl)
  · next heq =>
      rw [hname] at heq
      exact absurd (List.cons.inj heq).1 (ne_of_isBare hc rfl)
  · simp only [htake, hdrop, bare.1, if_false, String.ofList_toList]

/-- A key of one bare name. -/
lemma readKey_bare {name : String} (bare : IsBareName name) {rest : List Char}
    (stop : ∀ c ∈ rest.head?, isBare c = false) (undotted : (skipSpace rest).head? ≠ some '.') :
    readKey (name.toList ++ rest) = some (([], name), skipSpace rest) := by
  have hskip : skipSpace (name.toList ++ rest) = name.toList ++ rest := by
    obtain ⟨c, more, hname, hc⟩ := bare.exists_cons
    rw [hname]
    exact skipSpace_cons (not_isSpace_of_isBare hc) _
  have hparts : readParts ((name.toList ++ rest).length + 1) (name.toList ++ rest) =
      some ([name], skipSpace rest) := by
    rw [readParts, hskip, readPart_bare bare stop]
    simp only
    split
    · next heq => exact absurd (by rw [heq]; rfl) undotted
    · rfl
  rw [readKey, hparts]
  rfl

/-! ### Statements -/

/-- An assignment of text to a name. -/
def assignment (name text : String) : List Char :=
  name.toList ++ " = ".toList ++ (writeText text).toList

/-- How a statement is written, and the expressions that it stands for. -/
inductive Statement : List Char → List Expression → Prop
  | comment {body : List Char} (plain : ∀ c ∈ body, isPlain c = true) :
      Statement ('#' :: body) []
  | header {name : String} (bare : IsBareName name) :
      Statement ('[' :: (name.toList ++ [']'])) [.table [] name]
  | assign {name : String} (bare : IsBareName name) (text : String) :
      Statement (assignment name text) [.assign [] name (.text text)]

/-- Quoted text is a value, whatever depth is left. -/
lemma readValue_writeText (fuel depth : Nat) (text : String) {rest : List Char}
    (stop : Unquoted rest) :
    readValue (fuel + 1) depth ((writeText text).toList ++ rest) = some (.text text, rest) := by
  have hread := readQuoted_writeText text stop
  obtain ⟨quote, hquote, hhead, -⟩ := (quotes_writeText text).enclosed
  obtain ⟨more, hmore⟩ := List.head?_eq_some_iff.1 hhead
  rw [hmore, List.cons_append] at hread ⊢
  rcases hquote with rfl | rfl <;> rw [readValue, hread] <;> rfl

lemma readHeader_bare {name : String} (bare : IsBareName name) (rest : List Char) :
    readHeader (name.toList ++ ']' :: rest) = some (.table [] name, rest) := by
  have hkey : readKey (name.toList ++ ']' :: rest) = some (([], name), ']' :: rest) :=
    readKey_bare bare (by rintro _ ⟨⟩; rfl) (by simp [skipSpace, isSpace])
  obtain ⟨c, more, hname, hc⟩ := bare.exists_cons
  unfold readHeader
  split
  · next heq =>
      rw [hname] at heq
      exact absurd (List.cons.inj heq).1 (ne_of_isBare hc rfl)
  · rw [hkey]
    rfl

lemma readAssignment_assignment {name : String} (bare : IsBareName name) (text : String)
    {rest : List Char} (stop : Unquoted rest) :
    readAssignment (assignment name text ++ rest) = some (.assign [] name (.text text), rest) := by
  have hsplit : assignment name text ++ rest =
      name.toList ++ ' ' :: '=' :: ' ' :: ((writeText text).toList ++ rest) := by
    simp [assignment]
  have hkey : readKey (assignment name text ++ rest) =
      some (([], name), '=' :: ' ' :: ((writeText text).toList ++ rest)) := by
    rw [hsplit]
    exact readKey_bare bare (by rintro _ ⟨⟩; rfl) (by simp [skipSpace, isSpace])
  have hskip : skipSpace (' ' :: ((writeText text).toList ++ rest)) =
      (writeText text).toList ++ rest := by
    obtain ⟨quote, hquote, hhead, -⟩ := (quotes_writeText text).enclosed
    obtain ⟨more, hmore⟩ := List.head?_eq_some_iff.1 hhead
    rw [hmore]
    rcases hquote with rfl | rfl <;> rfl
  rw [readAssignment, hkey]
  simp only [hskip, readValue_writeText _ _ text stop, Option.map_some]

/-- The reader takes an expression that starts with no blank, comment or line break. -/
lemma readExpressions_of_expression {c : Char} {more rest tail : List Char} {e : Expression}
    (hspace : isSpace c = false) (hcomment : c ≠ '#') (hn : c ≠ '\n') (hr : c ≠ '\r')
    (hread : c = '[' ∧ readHeader more = some (e, rest) ∨
      c ≠ '[' ∧ readAssignment (c :: more) = some (e, rest))
    (ends : Ends rest tail) (fuel : Nat) :
    readExpressions (fuel + 1) (c :: more) = (readExpressions fuel tail).map (e :: ·) := by
  rw [readExpressions, skipSpace_cons hspace]
  split
  · next heq => cases heq
  · next heq => exact absurd (List.cons.inj heq).1 hcomment
  · rcases hread with ⟨rfl, hread⟩ | ⟨hne, hread⟩
    · simp only [afterBreak?_of_ne hn hr, hread, ends.afterLine?_eq]
    · have hopen (inner : List Char) : c :: more ≠ '[' :: inner :=
        fun heq => hne (List.cons.inj heq).1
      simp only [afterBreak?_of_ne hn hr, hread, ends.afterLine?_eq]

namespace Statement

variable {written rest tail : List Char} {expressions : List Expression}

/-- One step of the reader: it takes the statement and the end of its line. -/
lemma readExpressions_eq (h : Statement written expressions) (ends : Ends rest tail) (fuel : Nat) :
    readExpressions (fuel + 1) (written ++ rest) =
      (readExpressions fuel tail).map (expressions ++ ·) := by
  cases h with
  | @comment body plain =>
      have hskip : skipSpace ('#' :: (body ++ rest)) = '#' :: (body ++ rest) := rfl
      rw [List.cons_append, readExpressions, hskip]
      simp only [ends.afterLine?_comment plain, List.nil_append, Option.map_id']
  | @header name bare =>
      have hread : readHeader (name.toList ++ [']'] ++ rest) = some (.table [] name, rest) := by
        rw [List.append_assoc]
        exact readHeader_bare bare rest
      exact readExpressions_of_expression rfl (by decide) (by decide) (by decide)
        (.inl ⟨rfl, hread⟩) ends fuel
  | @assign name bare text =>
      have hread := readAssignment_assignment bare text ends.unquoted
      obtain ⟨c, more, hname, hc⟩ := bare.exists_cons
      rw [assignment, hname] at hread ⊢
      exact readExpressions_of_expression (not_isSpace_of_isBare hc)
        (ne_of_isBare hc rfl) (ne_of_isBare hc rfl) (ne_of_isBare hc rfl)
        (.inr ⟨ne_of_isBare hc rfl, hread⟩) ends fuel

lemma ne_nil (h : Statement written expressions) : written ≠ [] := by
  cases h with
  | comment => exact nofun
  | header => exact nofun
  | assign bare => simp [assignment, bare.1]

end Statement

/-- Of lines joined by line feeds, the first is followed by the end of a line and the others. -/
lemma intercalate_cons (line : List Char) (lines : List (List Char)) :
    ∃ rest, ['\n'].intercalate (line :: lines) = line ++ rest ∧
      Ends rest (['\n'].intercalate lines) := by
  cases lines with
  | nil => exact ⟨[], by simp, .last⟩
  | cons next lines =>
      refine ⟨_, ?_, .line _⟩
      rw [List.intercalate_cons_cons, List.append_assoc, List.singleton_append]

/-- Statements joined by line feeds are read in order. -/
theorem readExpressions_statements {statements : List (List Char × List Expression)}
    (h : ∀ s ∈ statements, Statement s.1 s.2) :
    ∀ fuel, (['\n'].intercalate (statements.map Prod.fst)).length < fuel →
      readExpressions fuel (['\n'].intercalate (statements.map Prod.fst)) =
        some (statements.flatMap Prod.snd) := by
  induction statements with
  | nil =>
      rintro (_ | fuel) hfuel
      · omega
      · rfl
  | cons s statements ih =>
      have hs := h s (List.mem_cons_self ..)
      have hlength := List.length_pos_iff.2 hs.ne_nil
      obtain ⟨rest, heq, hends⟩ := intercalate_cons s.1 (statements.map Prod.fst)
      have hle := hends.length_le
      rintro (_ | fuel) hfuel
      · omega
      · rw [List.map_cons, heq] at hfuel ⊢
        rw [List.length_append] at hfuel
        rw [hs.readExpressions_eq hends fuel,
          ih (fun t ht => h t (List.mem_cons_of_mem _ ht)) fuel (by omega)]
        rfl

/-! ### Tables -/

/-- An assignment to a free name in the current table. -/
lemma add_assign {root : Dict Item} {name key : String} {entries : Dict Item} (item : Item)
    (table : root.find? name = some (.table .header entries)) (free : entries.find? key = none) :
    Draft.add ⟨root, [name]⟩ (.assign [] key item) =
      some ⟨root.insert name (.table .header (entries.insert key item)), [name]⟩ := by
  simp [Draft.add, descend, table, assignIn, define, free]

/-- Assignments of different names to a table define these names and change no other. -/
lemma foldlM_assignments {name : String} {assigned : List (String × Item)}
    (distinct : (assigned.map Prod.fst).Nodup) {root entries : Dict Item}
    (table : root.find? name = some (.table .header entries))
    (free : ∀ key ∈ assigned.map Prod.fst, entries.find? key = none) :
    ∃ root' entries', (assigned.map fun a => Expression.assign [] a.1 a.2).foldlM Draft.add
        ⟨root, [name]⟩ = some ⟨root', [name]⟩ ∧
      root'.find? name = some (.table .header entries') ∧
      (∀ a ∈ assigned, entries'.find? a.1 = some a.2) ∧
      ∀ key ∉ assigned.map Prod.fst, entries'.find? key = entries.find? key := by
  induction assigned generalizing root entries with
  | nil => exact ⟨root, entries, rfl, table, nofun, fun key _ => rfl⟩
  | cons a assigned ih =>
      obtain ⟨hnew, hdistinct⟩ := List.nodup_cons.1 distinct
      have hadd := add_assign a.2 table (free a.1 (List.mem_cons_self ..))
      have htable : (root.insert name (.table .header (entries.insert a.1 a.2))).find? name =
          some (.table .header (entries.insert a.1 a.2)) := by simp
      have hfree : ∀ key ∈ assigned.map Prod.fst,
          (entries.insert a.1 a.2).find? key = none := by
        intro key hkey
        have hne : key ≠ a.1 := fun heq => hnew (heq ▸ hkey)
        rw [Entries.find?_insert, if_neg hne, free key (List.mem_cons_of_mem _ hkey)]
      obtain ⟨root', entries', hfold, hroot, hset, hrest⟩ := ih hdistinct htable hfree
      refine ⟨root', entries', ?_, hroot, ?_, ?_⟩
      · rw [List.map_cons, List.foldlM_cons, hadd]
        exact hfold
      · rintro b hb
        rcases List.mem_cons.1 hb with rfl | hb
        · rw [hrest b.1 hnew, Entries.find?_insert, if_pos rfl]
        · exact hset b hb
      · intro key hkey
        obtain ⟨hne, hkey⟩ := not_or.1 fun h => hkey (List.mem_cons.2 h)
        rw [hrest key hkey, Entries.find?_insert, if_neg hne]

/-- A document of one table with assignments of different names. -/
theorem build_table (name : String) {assigned : List (String × Item)}
    (distinct : (assigned.map Prod.fst).Nodup) :
    ∃ root entries, build (.table [] name :: assigned.map fun a => .assign [] a.1 a.2) = some root ∧
      root.find? name = some (.table .header entries) ∧
      (∀ a ∈ assigned, entries.find? a.1 = some a.2) ∧
      ∀ key ∉ assigned.map Prod.fst, entries.find? key = none := by
  have hopen : Draft.add ⟨.nil, []⟩ (.table [] name) =
      some ⟨(Entries.nil : Dict Item).insert name (.table .header .nil), [name]⟩ := rfl
  have htable : ((Entries.nil : Dict Item).insert name (.table .header .nil)).find? name =
      some (.table .header .nil) := by simp
  obtain ⟨root, entries, hfold, hroot, hset, hrest⟩ :=
    foldlM_assignments distinct htable fun _ _ => rfl
  refine ⟨root, entries, ?_, hroot, hset, hrest⟩
  rw [build, List.foldlM_cons, hopen]
  exact congrArg (Option.map Draft.root) hfold

end BootLayer.Toml

namespace BootLayer.Config

open Toml

/-! ### The text of a configuration -/

/-- What a configuration sets, in the order in which it is written. -/
def settings (config : Config) : List (String × String) :=
  (config.identity.map fun text => ("identity", text)).toList ++
    [("self_hosted_marker", config.marker)]

lemma isBareName_of_mem_settings {config : Config} {s : String × String}
    (h : s ∈ config.settings) : IsBareName s.1 := by
  rcases List.mem_append.1 h with h | h
  · obtain ⟨text, -, rfl⟩ := Option.map_eq_some_iff.1 (Option.mem_toList.1 h)
    exact (by decide : IsBareName "identity")
  · rw [List.mem_singleton.1 h]
    exact (by decide : IsBareName "self_hosted_marker")

lemma nodup_settings (config : Config) : (config.settings.map Prod.fst).Nodup := by
  cases hidentity : config.identity <;> simp [settings, hidentity]

/-- The statements in which a configuration is written: the header of its table, then what it
sets. -/
def statements (config : Config) : List (List Char × List Expression) :=
  ("[runtime]".toList, [.table [] "runtime"]) ::
    config.settings.map fun s => (assignment s.1 s.2, [.assign [] s.1 (.text s.2)])

lemma statement_of_mem {config : Config} {s : List Char × List Expression}
    (h : s ∈ config.statements) : Statement s.1 s.2 := by
  rcases List.mem_cons.1 h with rfl | h
  · exact .header (by decide : IsBareName "runtime")
  · obtain ⟨setting, hsetting, rfl⟩ := List.mem_map.1 h
    exact .assign (isBareName_of_mem_settings hsetting) setting.2

/-- The text of a configuration ends in a quote and a line feed, so that trimming takes off no
more than the line feed. -/
lemma trimRight_render (config : Config) :
    Text.trimRight config.render.toList =
      ['\n'].intercalate (config.statements.map Prod.fst) := by
  have hrender : config.render.toList =
      ['\n'].intercalate (config.statements.map Prod.fst) ++ ['\n'] := by
    cases hidentity : config.identity <;>
      simp [render, statements, settings, hidentity, assignment, List.intercalate_cons_cons]
  obtain ⟨init, hinit⟩ : ∃ init, config.render.toList =
      (init ++ (writeText config.marker).toList) ++ ['\n'] :=
    ⟨_, by simp only [render, String.toList_append]; rfl⟩
  have hmarker : ['\n'].intercalate (config.statements.map Prod.fst) =
      init ++ (writeText config.marker).toList :=
    List.append_cancel_right (hrender.symm.trans hinit)
  obtain ⟨quote, hquote, -, hlast⟩ := (quotes_writeText config.marker).enclosed
  have hblank : Text.isBlank quote = false := by
    rcases hquote with rfl | rfl <;> rfl
  rw [hrender]
  refine Text.trimRight_line ?_ hblank
  rw [hmarker, List.getLast?_append, hlast, Option.some_or]

/-- A report is a comment and the statements of the configuration. -/
lemma toList_report {source : Option String} (config : Config)
    (h : ∀ path ∈ source, ∀ c ∈ path.toList, isPlain c = true) :
    ∃ origin, (∀ c ∈ origin, isPlain c = true) ∧ (config.report source).toList =
      ['\n'].intercalate (('#' :: origin) :: config.statements.map Prod.fst) := by
  have hreport {first : String} {origin : List Char} (hfirst : first.toList = '#' :: origin) :
      (first ++ "\n" ++ String.ofList (Text.trimRight config.render.toList)).toList =
        ['\n'].intercalate (('#' :: origin) :: config.statements.map Prod.fst) := by
    rw [String.toList_append, String.toList_append, hfirst, trimRight_render, statements,
      List.map_cons, List.intercalate_cons_cons]
    exact congrArg ('#' :: origin ++ ['\n'] ++ ·) String.toList_ofList
  cases source with
  | none =>
      have hplain : " no tern.toml found, using defaults".toList.all isPlain = true := by decide
      exact ⟨_, List.all_eq_true.1 hplain, hreport rfl⟩
  | some path =>
      have hplain : " loaded from ".toList.all isPlain = true := by decide
      exact ⟨_, List.forall_mem_append.2 ⟨List.all_eq_true.1 hplain, h path rfl⟩,
        hreport (String.toList_append ..)⟩

/-- What the statements of a configuration define is the configuration. -/
lemma build_statements (config : Config) :
    ∃ root entries, build (config.statements.flatMap Prod.snd) = some root ∧
      root.find? "runtime" = some (.table .header entries) ∧
      ofItems (entries.find? "identity") (entries.find? "self_hosted_marker") = some config := by
  have hexpressions : config.statements.flatMap Prod.snd = .table [] "runtime" ::
      (config.settings.map fun s => (s.1, Item.text s.2)).map fun a => .assign [] a.1 a.2 := by
    rw [statements, List.flatMap_cons, List.flatMap_map, List.map_map, List.map_eq_flatMap]
    rfl
  have hdistinct : ((config.settings.map fun s => (s.1, Item.text s.2)).map Prod.fst).Nodup := by
    rw [List.map_map]
    exact config.nodup_settings
  obtain ⟨root, entries, hbuild, hroot, hset, hrest⟩ := build_table "runtime" hdistinct
  refine ⟨root, entries, hexpressions ▸ hbuild, hroot, ?_⟩
  have hmarker : entries.find? "self_hosted_marker" = some (.text config.marker) :=
    hset ("self_hosted_marker", .text config.marker) (by simp [settings])
  have hidentity : entries.find? "identity" = config.identity.map Item.text := by
    cases hcase : config.identity with
    | none => exact hrest "identity" (by simp [settings, hcase])
    | some text => exact hset ("identity", .text text) (by simp [settings, hcase])
  rw [hmarker, hidentity]
  obtain ⟨identity, marker⟩ := config
  cases identity <;> rfl

end BootLayer.Config

namespace BootLayer.CommandLine

/-- **The printed configuration reads back.**  Whatever text the identity and the marker are, what
the `config` command prints sets exactly that configuration.  The path in the first line must have
no control characters: one of them would end the comment or make it invalid. -/
theorem printed_config_reads_back (source : Option String) (config : Config)
    (h : ∀ path ∈ source, ∀ c ∈ path.toList, Toml.isPlain c = true) :
    Config.parse (configReport source config false) = some config := by
  obtain ⟨origin, horigin, hreport⟩ := config.toList_report h
  obtain ⟨root, entries, hbuild, hroot, hconfig⟩ := config.build_statements
  have hstatements : ∀ s ∈ ('#' :: origin, []) :: config.statements, Toml.Statement s.1 s.2 := by
    intro s hs
    rcases List.mem_cons.1 hs with rfl | hs
    · exact .comment horigin
    · exact Config.statement_of_mem hs
  -- The report starts with `#`, so that there is no byte order mark to leave out.
  have hmark : Toml.withoutMark (configReport source config false).toList =
      ['\n'].intercalate ((('#' :: origin, []) :: config.statements).map Prod.fst) := by
    show Toml.withoutMark (config.report source).toList = _
    obtain ⟨rest, hrest, -⟩ :=
      Toml.intercalate_cons ('#' :: origin) (config.statements.map Prod.fst)
    rw [hreport, List.map_cons, hrest]
    rfl
  have hread : Toml.read (configReport source config false) = some root := by
    rw [Toml.read, hmark, Toml.readExpressions_statements hstatements _ (Nat.lt_succ_self _)]
    exact hbuild
  simp only [Config.parse, hread, hroot, Config.ofRuntime, hconfig]

/-- Quotes of both kinds in a row, a backslash, a line break, a bell, and a blank at the end. -/
theorem awkward_config_reads_back :
    (∀ path ∈ some "/srv/my files/tern.toml", ∀ c ∈ path.toList, Toml.isPlain c = true) ∧
    Config.parse (configReport (some "/srv/my files/tern.toml")
        ⟨some "\"\"\"'''\\\r\n\x07\"\"", "'\"\" "⟩ false) =
      some ⟨some "\"\"\"'''\\\r\n\x07\"\"", "'\"\" "⟩ := by
  have hpath : ∀ path ∈ some "/srv/my files/tern.toml", ∀ c ∈ path.toList,
      Toml.isPlain c = true := by
    rintro _ ⟨⟩
    exact List.all_eq_true.1 (by decide)
  exact ⟨hpath, printed_config_reads_back _ _ hpath⟩

end BootLayer.CommandLine
