import Mathlib.Data.List.Nodup
import BootLayer.Proofs.FrontEnd
import BootLayer.Proofs.Options
import BootLayer.Proofs.Process

/-!
Command lines that are written for an invocation.

The options of an invocation are written once each, with their values attached: those that all
commands share before or after the name of the command, its own after it.  Two hyphens and the texts
of the command follow, if it has any.

* `Invocation.Written`, `line`: such a line.
* `take_choice`, `takeAll_choices`: options that are taken are collected, one and many.
* `take_text`, `takeAll_texts`: after the hyphens the texts are positionals, whatever they look
  like.
* `exists_readCommand_eq`, `commandOf_of_texts`: the words after the name are read as the command
  that its options and texts describe.
* `every_command_can_be_written`: every line is read as the invocation that it is written for,
  unless it is a save with two payloads or without one.
-/

namespace BootLayer.CommandLine

/-! ### Lines -/

/-- An option with its value, or a switch. -/
inductive Choice where
  | value (option : Valued) (text : String)
  | on (switch : Switch)
  deriving DecidableEq

/-- An option as a word. -/
def Choice.word : Choice → String
  | .value option text => option.attached text
  | .on switch => switch.word

/-- All commands have the option. -/
def Choice.isShared : Choice → Bool
  | .value option _ => option = .config ∨ option = .identity
  | .on switch => switch = .verbose

namespace Command

/-- The text that a save is given. -/
def text : Command → Option String
  | .primitive (.save _ text _) => text
  | _ => none

/-- The digits that a save is given. -/
def hex : Command → Option String
  | .primitive (.save _ _ hex) => hex
  | _ => none

/-- A template is asked for. -/
def template : Command → Bool
  | .config template => template
  | _ => false

/-- Bytes are asked for as they are. -/
def raw : Command → Bool
  | .primitive (.join _ raw) | .primitive (.load _ raw) => raw
  | _ => false

/-- The name of the command. -/
def name : Command → CommandName
  | .detect => .detect
  | .config _ => .config
  | .primitive (.join ..) => .join
  | .primitive (.merge ..) => .merge
  | .primitive (.number _) => .number
  | .primitive (.istype ..) => .istype
  | .primitive (.fpack _) => .fpack
  | .primitive (.funpack _) => .funpack
  | .primitive (.system _) => .system
  | .primitive (.load ..) => .load
  | .primitive (.read _) => .read
  | .primitive (.save ..) => .save
  | .primitive .argv => .argv

/-- The command has these positionals.  A double has any text that reads as it. -/
inductive Texts : Command → List String → Prop where
  | detect : Texts .detect []
  | config (template : Bool) : Texts (.config template) []
  | join (parts : List String) (raw : Bool) : Texts (.primitive (.join parts raw)) parts
  | merge (target source : String) : Texts (.primitive (.merge target source)) [target, source]
  | number (text : String) : Texts (.primitive (.number text)) [text]
  | istype (value tag : String) : Texts (.primitive (.istype value tag)) [value, tag]
  | fpack {text : String} {numeral : Numeral} (h : Numeral.read text.toList = some numeral) :
      Texts (.primitive (.fpack numeral.toDouble)) [text]
  | funpack (hex : String) : Texts (.primitive (.funpack hex)) [hex]
  | system (command : String) : Texts (.primitive (.system command)) [command]
  | load (path : String) (raw : Bool) : Texts (.primitive (.load path raw)) [path]
  | read (path : String) : Texts (.primitive (.read path)) [path]
  | save (path : String) (text hex : Option String) :
      Texts (.primitive (.save path text hex)) [path]
  | argv : Texts (.primitive .argv) []

end Command

namespace Invocation

/-- The value of an option. -/
def valueOf (c : Invocation) : Valued → Option String
  | .config => c.config
  | .identity => c.identity
  | .text => c.command.text
  | .hex => c.command.hex

/-- A switch is on. -/
def isOn (c : Invocation) : Switch → Bool
  | .verbose => c.verbose
  | .template => c.command.template
  | .raw => c.command.raw
  | .help | .version => false

/-- The invocation has the option with this value, or the switch. -/
def Has (c : Invocation) : Choice → Prop
  | .value option text => c.valueOf option = some text
  | .on switch => c.isOn switch = true

/-- The options of the invocation in one order. -/
def choices (c : Invocation) : List Choice :=
  [.config, .identity, .text, .hex].filterMap
      (fun option => (c.valueOf option).map (.value option)) ++
    ([.verbose, .template, .raw].filter c.isOn).map .on

/-- The options of the invocation, each once, before and after the name of its command, and the
texts of the command. -/
structure Written (c : Invocation) (before after : List Choice) (texts : List String) : Prop where
  once : (before ++ after).Nodup
  options : ∀ choice, choice ∈ before ++ after ↔ c.Has choice
  shared : ∀ choice ∈ before, choice.isShared = true
  texts : c.command.Texts texts

end Invocation

/-- The words for positionals. -/
def positionalWords (texts : List String) : List String :=
  if texts = [] then [] else "--" :: texts

/-- The line with these options and positionals. -/
def line (before : List Choice) (name : CommandName) (after : List Choice) (texts : List String) :
    List String :=
  before.map Choice.word ++ name.word :: (after.map Choice.word ++ positionalWords texts)

/-! ### Options that are collected -/

/-- What is given or turned on by an option. -/
def Choice.option : Choice → Valued ⊕ Switch
  | .value option _ => .inl option
  | .on switch => .inr switch

/-- The level has the option, and the value is one for it. -/
def Level.Fits (level : Level) : Choice → Prop
  | .value option text => level.Has option ∧ (option = .config → text ≠ "")
  | .on switch => level.Allows switch

namespace Given

variable {given : Given} {choices : List Choice} {option : Valued} {switch : Switch}

/-- A switch has been turned on. -/
def isOn (given : Given) : Switch → Bool
  | .verbose => given.verbose
  | .template => given.template
  | .raw => given.raw
  | .help | .version => false

/-- What is given, with a switch turned on. -/
def turn (given : Given) : Switch → Given
  | .verbose => { given with verbose := true }
  | .template => { given with template := true }
  | .raw => { given with raw := true }
  | .help | .version => given

/-- These options have been given, and nothing else. -/
structure Collects (given : Given) (choices : List Choice) : Prop where
  values : ∀ option text, given.valueOf option = some text ↔ .value option text ∈ choices
  switches : ∀ switch, given.isOn switch = true ↔ .on switch ∈ choices
  positionals : given.positionals = []

lemma collects_nil : Collects {} [] where
  values option _ := by cases option <;> simp [valueOf]
  switches switch := by cases switch <;> simp [isOn]
  positionals := rfl

lemma isOn_turn {level : Level} (hlevel : level.Allows switch) (given : Given) (other : Switch) :
    (given.turn switch).isOn other = true ↔ other = switch ∨ given.isOn other = true := by
  cases switch with
  | help | version => cases hlevel
  | verbose | template | raw => cases other <;> simp [turn, isOn]

lemma setSwitch_of_allows {level : Level} (hlevel : level.Allows switch)
    (hoff : given.isOn switch = false) : given.setSwitch switch = .ok (given.turn switch) := by
  cases switch with
  | help | version => cases hlevel
  | verbose | template | raw => exact if_neg (ne_true_of_eq_false hoff)

lemma Collects.put (h : given.Collects choices) (hnew : given.valueOf option = none)
    (text : String) : (given.put text option).Collects (choices ++ [.value option text]) := by
  refine ⟨fun other value => ?_, fun switch => ?_, ?_⟩
  · rw [valueOf_put]
    split_ifs with hother
    · have hnone : Choice.value option value ∉ choices := by
        rw [← h.values, hnew]
        simp
      simp [hother, hnone, eq_comm]
    · simp [h.values, hother]
  · rw [show (given.put text option).isOn switch = given.isOn switch by cases option <;> rfl]
    simp [h.switches]
  · rw [show (given.put text option).positionals = given.positionals by cases option <;> rfl]
    exact h.positionals

lemma Collects.turn {level : Level} (h : given.Collects choices) (hlevel : level.Allows switch) :
    (given.turn switch).Collects (choices ++ [.on switch]) := by
  refine ⟨fun option value => ?_, fun other => ?_, ?_⟩
  · rw [show (given.turn switch).valueOf option = given.valueOf option by
      cases switch <;> cases option <;> rfl]
    simp [h.values]
  · rw [isOn_turn hlevel, h.switches]
    simp [or_comm]
  · rw [show (given.turn switch).positionals = given.positionals by cases switch <;> rfl]
    exact h.positionals

end Given

namespace Scan

variable {level : Level} {scan : Scan} {choices : List Choice}

/-- **An option that is taken is collected**, if the level has it and it was not given before. -/
lemma take_choice {choice : Choice} (hpending : scan.pending = .nothing)
    (hreading : scan.trailing = false) (h : scan.given.Collects choices)
    (hlevel : level.Fits choice) (hnew : ∀ other ∈ choices, other.option ≠ choice.option) :
    ∃ given : Given, scan.take level choice.word = .ok { scan with given } ∧
      given.Collects (choices ++ [choice]) := by
  cases choice with
  | value option text =>
      have hnone : scan.given.valueOf option = none := by
        refine Option.eq_none_iff_forall_ne_some.2 fun value hvalue => ?_
        exact hnew _ ((h.values option value).1 hvalue) rfl
      have hset := Given.setValue_eq_ok_iff.2 ⟨hnone, hlevel.2, rfl⟩
      refine ⟨scan.given.put text option, ?_, h.put hnone text⟩
      rw [Choice.word, take_attached hreading hlevel.1, settle_of_nothing hpending]
      simp only [hset, Except.map]
  | on switch =>
      have hoff : scan.given.isOn switch = false := by
        refine Bool.eq_false_iff.2 fun hon => ?_
        exact hnew _ ((h.switches switch).1 hon) rfl
      refine ⟨scan.given.turn switch, ?_, h.turn hlevel⟩
      rw [Choice.word, take_switch hreading hlevel, turnOn, settle_of_nothing hpending]
      simp only [Given.setSwitch_of_allows hlevel hoff, Except.map]

/-- Options that are taken one after the other are collected. -/
lemma takeAll_choices {more : List Choice} (hpending : scan.pending = .nothing)
    (hreading : scan.trailing = false) (h : scan.given.Collects choices)
    (hlevel : ∀ choice ∈ more, level.Fits choice)
    (hnew : (choices ++ more).Pairwise (·.option ≠ ·.option)) :
    ∃ given : Given, takeAll level scan (more.map Choice.word) = .ok { scan with given } ∧
      given.Collects (choices ++ more) := by
  induction more generalizing scan choices with
  | nil => exact ⟨scan.given, rfl, by rwa [List.append_nil]⟩
  | cons choice more ih =>
      have hlast : ∀ other ∈ choices, other.option ≠ choice.option := fun other hother =>
        (List.pairwise_append.1 hnew).2.2 other hother choice List.mem_cons_self
      obtain ⟨given, htake, hgiven⟩ :=
        take_choice hpending hreading h (hlevel choice List.mem_cons_self) hlast
      rw [List.append_cons] at hnew ⊢
      have hmore : ∀ other ∈ more, level.Fits other := fun other hother =>
        hlevel other (List.mem_cons_of_mem _ hother)
      obtain ⟨all, hall, hcollects⟩ :=
        @ih { scan with given } (choices ++ [choice]) hpending hreading hgiven hmore hnew
      exact ⟨all, takeAll_cons_eq_ok.2 ⟨_, htake, hall⟩, hcollects⟩

/-! ### Positionals after the options -/

/-- **After the hyphens a word is a positional**, whatever it looks like. -/
lemma take_text {name : CommandName} {given : Given} {text : String}
    (htrailing : scan.trailing = true)
    (hgiven : (scan.settle (some name)).map Scan.given = .ok given)
    (hroom : Level.hasPositional (some name) scan.taken = true)
    (hnumber : name = .fpack → (Numeral.read text.toList).isSome) :
    ∃ next, scan.take (some name) text = .ok next ∧ next.trailing = true ∧
      next.taken = scan.taken + 1 ∧ (next.settle (some name)).map Scan.given =
        .ok { given with positionals := given.positionals ++ [text] } := by
  obtain ⟨settled, settles, rfl⟩ := map_eq_ok_iff.1 hgiven
  rw [take, if_pos htrailing]
  unfold takeWord
  split
  · next hreading _ =>
      rw [htrailing] at hreading
      cases hreading
  · rw [if_pos hroom]
    split
    · next words hpending hname =>
        -- the parts of a join are looked at together
        cases hname
        rw [settle, hpending] at settles
        cases settles
        refine ⟨_, rfl, htrailing, rfl, ?_⟩
        simp [settle, Given.addPositionals, Except.map]
    · rw [settles]
      refine ⟨_, rfl, (settlesTo settles).trailing.trans htrailing, ?_, ?_⟩
      · simp only [(settlesTo settles).taken]
      · have hvalid : ¬(some name = some CommandName.fpack ∧
            [text].any (fun v => (Numeral.read v.toList).isNone) = true) := by
          rintro ⟨hname, hnone⟩
          have hsome := hnumber (Option.some.inj hname)
          simp_all
        simp only [settle, Given.addPositionals, if_neg hvalid, Except.map]

lemma takeAll_texts {name : CommandName} {given : Given} {texts : List String}
    (htrailing : scan.trailing = true)
    (hgiven : (scan.settle (some name)).map Scan.given = .ok given)
    (hroom : ∀ i < texts.length, Level.hasPositional (some name) (scan.taken + i) = true)
    (hnumber : name = .fpack → ∀ text ∈ texts, (Numeral.read text.toList).isSome) :
    ∃ last, takeAll (some name) scan texts = .ok last ∧ (last.settle (some name)).map Scan.given =
      .ok { given with positionals := given.positionals ++ texts } := by
  induction texts generalizing scan given with
  | nil => exact ⟨scan, rfl, by simpa using hgiven⟩
  | cons text texts ih =>
      obtain ⟨next, htake, htrail, htaken, hsettle⟩ := take_text htrailing hgiven
        (hroom 0 (by simp)) (fun hname => hnumber hname text List.mem_cons_self)
      obtain ⟨last, hlast, hall⟩ := ih htrail hsettle
        (fun i hi => by
          rw [htaken, Nat.add_right_comm]
          exact hroom (i + 1) (by simpa using hi))
        (fun hname other hother => hnumber hname other (List.mem_cons_of_mem _ hother))
      exact ⟨last, takeAll_cons_eq_ok.2 ⟨next, htake, hlast⟩, by simpa using hall⟩

end Scan

/-! ### Commands -/

lemma Command.Texts.hasPositional {command : Command} {texts : List String}
    (h : command.Texts texts) :
    ∀ i < texts.length, Level.hasPositional (some command.name) i = true := by
  cases h with
  | join => exact fun _ _ => rfl
  | _ => exact fun i hi => decide_eq_true hi

lemma Command.Texts.isSome_read {command : Command} {texts : List String} (h : command.Texts texts)
    (hname : command.name = .fpack) : ∀ text ∈ texts, (Numeral.read text.toList).isSome := by
  cases h with
  | fpack h => simp [h]
  | _ => cases hname

/-- Options and positionals of a command are read as such. -/
lemma exists_readCommand_eq {command : Command} {choices : List Choice} {texts : List String}
    (hlevel : ∀ choice ∈ choices, Level.Fits (some command.name) choice)
    (hnew : choices.Pairwise (·.option ≠ ·.option)) (h : command.Texts texts) :
    ∃ given : Given, given.Collects choices ∧
      readCommand command.name (choices.map Choice.word ++ positionalWords texts) =
        (commandOf command.name { given with positionals := texts }).map fun command =>
          ({ given with positionals := texts }, command) := by
  obtain ⟨given, hchoices, hgiven⟩ :=
    @Scan.takeAll_choices _ {} [] choices rfl rfl Given.collects_nil hlevel hnew
  refine ⟨given, hgiven, ?_⟩
  have hlast : ∃ last,
      Scan.takeAll (some command.name) { given } (positionalWords texts) = .ok last ∧
        (last.settle (some command.name)).map Scan.given =
          .ok { given with positionals := texts } := by
    rw [positionalWords]
    split_ifs with hnone
    · refine ⟨_, rfl, ?_⟩
      rw [hnone, ← hgiven.positionals]
      rfl
    · obtain ⟨last, htexts, hall⟩ := @Scan.takeAll_texts { given, trailing := true } command.name
        given texts rfl rfl (by simpa using h.hasPositional) h.isSome_read
      refine ⟨last, Scan.takeAll_cons_eq_ok.2 ⟨_, Scan.take_hyphens rfl _, htexts⟩, ?_⟩
      rw [hall, hgiven.positionals, List.nil_append]
  obtain ⟨last, htexts, hall⟩ := hlast
  obtain ⟨settled, settles, hsettled⟩ := map_eq_ok_iff.1 hall
  rw [readCommand, Scan.takeAll_append_eq_ok.2 ⟨_, hchoices, htexts⟩]
  simp only [settles, hsettled]

/-- The command that its own options and texts describe.  Only a save is refused, with two payloads
or without one. -/
lemma commandOf_of_texts {command : Command} (given : Given)
    (h : command.Texts given.positionals) (htext : given.text = command.text)
    (hhex : given.hex = command.hex) (htemplate : given.template = command.template)
    (hraw : given.raw = command.raw) :
    commandOf command.name given =
      if command.text.isSome ∧ command.hex.isSome then .error .conflict
      else if command.name = .save ∧ command.text = none ∧ command.hex = none then
        .error .missingRequired
      else .ok command := by
  generalize hpositionals : given.positionals = texts at h
  cases h with
  | fpack h => simp [commandOf, Command.name, hpositionals, htext, hhex, Command.text, h]
  | save path text hex =>
      simp only [commandOf, Command.name, hpositionals, htext, hhex, Command.text, Command.hex,
        Option.isNone_iff_eq_none, true_and]
  | _ =>
      simp [commandOf, Command.name, hpositionals, htext, hhex, htemplate, hraw, Command.text,
        Command.template, Command.raw]

/-! ### Whole lines -/

/-- A word that starts with a hyphen is not the name of a command. -/
lemma CommandName.ofWord?_of_hyphen {word : String} (h : word.toList.head? = some '-') :
    ofWord? word = none := by
  have hall : ∀ name ∈ all, name.word.toList.head? ≠ some '-' := by decide
  refine List.find?_eq_none.2 fun name hname hword => hall name hname ?_
  rwa [beq_iff_eq.1 hword]

lemma ne_helpWord_of_hyphen {word : String} (h : word.toList.head? = some '-') :
    word ≠ helpWord := by
  rintro rfl
  revert h
  decide

lemma Choice.head?_word (choice : Choice) : choice.word.toList.head? = some '-' := by
  cases choice with
  | value option text => rw [word, option.toList_attached, List.head?_cons]
  | on switch => cases switch <;> rfl

/-- Words that start with a hyphen are taken one after the other at the top level. -/
lemma readTop_append {scan outer : Scan} {words : List String}
    (hwords : ∀ word ∈ words, word.toList.head? = some '-')
    (h : Scan.takeAll none scan words = .ok outer) (rest : List String) :
    readTop scan (words ++ rest) = readTop outer rest := by
  induction words generalizing scan with
  | nil =>
      cases h
      rfl
  | cons word words ih =>
      obtain ⟨next, htake, hrest⟩ := Scan.takeAll_cons_eq_ok.1 h
      have hword := hwords word List.mem_cons_self
      rw [List.cons_append, readTop, if_neg fun hhelp => ne_helpWord_of_hyphen hword hhelp.2,
        CommandName.ofWord?_of_hyphen hword]
      split
      · next hnone => cases hnone
      · rw [htake]
        exact ih (fun other hother => hwords other (List.mem_cons_of_mem _ hother)) hrest

lemma Command.name_of_payload {command : Command} {payload : String}
    (h : command.text = some payload ∨ command.hex = some payload) : command.name = .save := by
  cases command with
  | detect | config => simp [text, hex] at h
  | primitive primitive =>
      cases primitive with
      | save => rfl
      | _ => simp [text, hex] at h

lemma Command.name_of_template {command : Command} (h : command.template = true) :
    command.name = .config := by
  unfold Command.template at h
  split at h
  · rfl
  · cases h

lemma Command.name_of_raw {command : Command} (h : command.raw = true) :
    command.name = .join ∨ command.name = .load := by
  unfold Command.raw at h
  split at h
  · exact .inl rfl
  · exact .inr rfl
  · cases h

/-- The level of a command has the options that an invocation of it can have. -/
lemma Invocation.Has.fits {c : Invocation} {choice : Choice} (h : c.Has choice)
    (hconfig : c.config ≠ some "") : Level.Fits (some c.command.name) choice := by
  cases choice with
  | value option text =>
      cases option with
      | config =>
          refine ⟨rfl, fun _ hempty => hconfig ?_⟩
          rwa [hempty] at h
      | identity => exact ⟨rfl, nofun⟩
      | text => exact ⟨by rw [Command.name_of_payload (.inl h)]; rfl, nofun⟩
      | hex => exact ⟨by rw [Command.name_of_payload (.inr h)]; rfl, nofun⟩
  | on switch =>
      cases switch with
      | verbose => trivial
      | template => exact congrArg some (Command.name_of_template h)
      | raw => exact (Command.name_of_raw h).imp (congrArg some) (congrArg some)
      | help | version => cases h

/-- The top level has the options that all commands share. -/
lemma Level.Fits.of_isShared {choice : Choice} {level : Level} (hlevel : level.Fits choice)
    (h : choice.isShared = true) : Level.Fits none choice := by
  cases choice with
  | value option text =>
      refine ⟨?_, hlevel.2⟩
      rcases of_decide_eq_true h with rfl | rfl <;> rfl
  | on switch =>
      cases of_decide_eq_true h
      trivial

/-- An invocation has one value of an option. -/
lemma Invocation.Has.eq {c : Invocation} {choice other : Choice} (h : c.Has choice)
    (hother : c.Has other) (hoption : choice.option = other.option) : choice = other := by
  cases choice <;> cases other <;> cases hoption
  · exact congrArg _ (Option.some.inj (h.symm.trans hother))
  · rfl

lemma or_eq_of_eq_some_iff {α : Type} {a b x : Option α}
    (h : ∀ v, a = some v ∨ b = some v ↔ x = some v) : a.or b = x := by
  cases a with
  | none => exact Option.ext fun v => by simpa using h v
  | some v => exact ((h v).1 (.inl rfl)).symm

namespace Invocation

lemma mem_choices {c : Invocation} {choice : Choice} : choice ∈ c.choices ↔ c.Has choice := by
  cases choice with
  | value option text => cases option <;> simp [choices, Has]
  | on switch => cases switch <;> simp [choices, Has, isOn]

lemma nodup_choices (c : Invocation) : c.choices.Nodup := by
  have hvalues : ∀ option other choice, choice ∈ (c.valueOf option).map (Choice.value option) →
      choice ∈ (c.valueOf other).map (Choice.value other) → option = other := by
    intro option other choice hoption hother
    obtain ⟨_, -, rfl⟩ := Option.mem_map.1 hoption
    obtain ⟨_, -, heq⟩ := Option.mem_map.1 hother
    cases heq
    rfl
  refine List.Nodup.append (List.Nodup.filterMap hvalues (by decide))
    (List.Nodup.map (fun _ _ h => Choice.on.inj h) (List.Nodup.filter _ (by decide))) ?_
  intro choice hvalue hswitch
  obtain ⟨option, -, hchoice⟩ := List.mem_filterMap.1 hvalue
  obtain ⟨_, -, rfl⟩ := Option.map_eq_some_iff.1 hchoice
  obtain ⟨switch, -, heq⟩ := List.mem_map.1 hswitch
  cases heq

/-- The options of an invocation can be written in any order. -/
lemma written_of_perm {c : Invocation} {before after : List Choice} {texts : List String}
    (hperm : (before ++ after).Perm c.choices) (hshared : ∀ choice ∈ before, choice.isShared = true)
    (htexts : c.command.Texts texts) : c.Written before after texts where
  once := hperm.nodup_iff.2 c.nodup_choices
  options _ := hperm.mem_iff.trans mem_choices
  shared := hshared
  texts := htexts

/-- The options that all commands share can be put on either side of the name, one by one. -/
lemma exists_written {c : Invocation} {texts : List String} (htexts : c.command.Texts texts)
    (early : Choice → Bool) :
    ∃ before after, c.Written before after texts ∧
      ∀ choice, choice ∈ before ↔ c.Has choice ∧ choice.isShared = true ∧ early choice = true := by
  let isEarly : Choice → Bool := fun choice => choice.isShared && early choice
  refine ⟨c.choices.filter isEarly, c.choices.filter (!isEarly ·), ?_, fun choice => ?_⟩
  · refine written_of_perm (List.filter_append_perm _ _) (fun choice hchoice => ?_) htexts
    have hearly : isEarly choice = true := List.of_mem_filter hchoice
    exact (Bool.and_eq_true_iff.1 hearly).1
  · rw [List.mem_filter, mem_choices, Bool.and_eq_true]

end Invocation

namespace Invocation.Written

variable {c : Invocation} {before after : List Choice} {texts : List String} {given outer : Given}

lemma pairwise (h : c.Written before after texts) :
    (before ++ after).Pairwise (·.option ≠ ·.option) :=
  h.once.imp_of_mem fun hchoice hother hne hoption =>
    hne (((h.options _).1 hchoice).eq ((h.options _).1 hother) hoption)

lemma fits_after (h : c.Written before after texts) (hconfig : c.config ≠ some "") :
    ∀ choice ∈ after, Level.Fits (some c.command.name) choice := fun choice hchoice =>
  ((h.options choice).1 (List.mem_append_right _ hchoice)).fits hconfig

lemma fits_before (h : c.Written before after texts) (hconfig : c.config ≠ some "") :
    ∀ choice ∈ before, Level.Fits none choice := fun choice hchoice =>
  (((h.options choice).1 (List.mem_append_left _ hchoice)).fits hconfig).of_isShared
    (h.shared choice hchoice)

/-- The values that are given on either side of the name are those of the invocation. -/
lemma valueOf_or (h : c.Written before after texts) (houter : outer.Collects before)
    (hgiven : given.Collects after) (option : Valued) :
    (given.valueOf option).or (outer.valueOf option) = c.valueOf option := by
  refine or_eq_of_eq_some_iff fun text => ?_
  rw [hgiven.values, houter.values, or_comm, ← List.mem_append]
  exact h.options (.value option text)

lemma isOn_or (h : c.Written before after texts) (houter : outer.Collects before)
    (hgiven : given.Collects after) (switch : Switch) :
    (given.isOn switch || outer.isOn switch) = c.isOn switch := by
  rw [Bool.eq_iff_iff, Bool.or_eq_true, hgiven.switches, houter.switches, or_comm,
    ← List.mem_append]
  exact h.options (.on switch)

/-- An option of one command is given after its name. -/
lemma valueOf_eq (h : c.Written before after texts) (houter : outer.Collects before)
    (hgiven : given.Collects after) (option : Valued)
    (hown : option ≠ .config ∧ option ≠ .identity) :
    given.valueOf option = c.valueOf option := by
  have hnone : outer.valueOf option = none := by
    refine Option.eq_none_iff_forall_ne_some.2 fun text htext => ?_
    exact (of_decide_eq_true (h.shared _ ((houter.values option text).1 htext))).elim hown.1 hown.2
  rw [← h.valueOf_or houter hgiven, hnone, Option.or_none]

lemma isOn_eq (h : c.Written before after texts) (houter : outer.Collects before)
    (hgiven : given.Collects after) (switch : Switch) (hown : switch ≠ .verbose) :
    given.isOn switch = c.isOn switch := by
  have hoff : outer.isOn switch = false := by
    refine Bool.eq_false_iff.2 fun hon => hown ?_
    exact of_decide_eq_true (h.shared _ ((houter.switches switch).1 hon))
  rw [← h.isOn_or houter hgiven, hoff, Bool.or_false]

end Invocation.Written

/-- **A line is read as the invocation that it is written for**, unless it is a save with two
payloads or without one. -/
lemma readArguments_line {c : Invocation} {before after : List Choice} {texts : List String}
    (h : c.Written before after texts) (hconfig : c.config ≠ some "") :
    readArguments (line before c.command.name after texts) =
      if c.command.text.isSome ∧ c.command.hex.isSome then .error .conflict
      else if c.command.name = .save ∧ c.command.text = none ∧ c.command.hex = none then
        .error .missingRequired
      else .ok c := by
  have hpairwise := List.pairwise_append.1 h.pairwise
  obtain ⟨outer, hbefore, houter⟩ := @Scan.takeAll_choices none {} [] before rfl rfl
    Given.collects_nil (h.fits_before hconfig) hpairwise.1
  obtain ⟨given, hgiven, hread⟩ :=
    exists_readCommand_eq (h.fits_after hconfig) hpairwise.2.1 h.texts
  have hcommand := commandOf_of_texts { given with positionals := texts } h.texts
    (h.valueOf_eq houter hgiven .text (by decide)) (h.valueOf_eq houter hgiven .hex (by decide))
    (h.isOn_eq houter hgiven .template (by decide)) (h.isOn_eq houter hgiven .raw (by decide))
  have hpath : given.config.or outer.config = c.config := h.valueOf_or houter hgiven .config
  have hidentity : given.identity.or outer.identity = c.identity :=
    h.valueOf_or houter hgiven .identity
  have hverbose : (given.verbose || outer.verbose) = c.verbose := h.isOn_or houter hgiven .verbose
  have hwords : ∀ word ∈ before.map Choice.word, word.toList.head? = some '-' := by
    simpa using fun choice _ => choice.head?_word
  rw [readArguments, line, readTop_append hwords hbefore, readTop_word rfl rfl, hread, hcommand]
  split_ifs
  · rfl
  · rfl
  · simp only [Except.map, hpath, hidentity, hverbose]

/-- A save has exactly one payload if it does not have both, and has one. -/
lemma forall_onePayload_iff {command : Command} :
    (∀ primitive, command = .primitive primitive → OnePayload primitive) ↔
      ¬(command.text.isSome ∧ command.hex.isSome) ∧
        ¬(command.name = .save ∧ command.text = none ∧ command.hex = none) := by
  cases command with
  | detect | config => simp [Command.text, Command.name]
  | primitive primitive =>
      cases primitive with
      | save path text hex =>
          cases text <;> cases hex <;> simp [OnePayload, Command.text, Command.hex, Command.name]
      | _ => simp [OnePayload, Command.text, Command.name]

/-- **Every command can be written on the command line, whatever its texts are.**  The options that
all commands share can be put on either side of the name, one by one.  A line with the options of an
invocation, each once and in any order, and with the texts of its command after two hyphens, is read
as the invocation exactly if its command is no save or has exactly one payload.  A save with two is
a conflict, and one with none lacks what it requires. -/
theorem every_command_can_be_written (c : Invocation) (texts : List String)
    (hconfig : c.config ≠ some "") (htexts : c.command.Texts texts) :
    (∀ early : Choice → Bool, ∃ before after, c.Written before after texts ∧
      ∀ choice, choice ∈ before ↔ c.Has choice ∧ choice.isShared = true ∧ early choice = true) ∧
    ∀ before after, c.Written before after texts →
      (readArguments (line before c.command.name after texts) = .ok c ↔
        ∀ command, c.command = .primitive command → OnePayload command) ∧
      (∀ path text hex, c.command = .primitive (.save path (some text) (some hex)) →
        readArguments (line before c.command.name after texts) = .error .conflict) ∧
      ∀ path, c.command = .primitive (.save path none none) →
        readArguments (line before c.command.name after texts) = .error .missingRequired := by
  refine ⟨Invocation.exists_written htexts, fun before after h => ?_⟩
  rw [readArguments_line h hconfig, forall_onePayload_iff]
  refine ⟨?_, fun path text hex hsave => ?_, fun path hsave => ?_⟩
  · split_ifs with hboth hnone
    · simp [hboth]
    · simp [hnone]
    · simp only [hboth, hnone, not_false_eq_true, and_self]
  · rw [hsave]
    rfl
  · rw [hsave]
    rfl

/-- A save of the empty text to a path of two hyphens, with an identity that looks like an option on
the left and a configuration path that holds an equals sign on the right. -/
theorem empty_text_to_hyphens_written :
    let before := [.value .identity "--hex=00"]
    let after := [.value .text "", .on .verbose, .value .config "a=b"]
    let c : Invocation :=
      ⟨some "a=b", some "--hex=00", true, .primitive (.save "--" (some "") none)⟩
    line before c.command.name after ["--"] =
      ["--identity=--hex=00", "save", "--text=", "-v", "--config=a=b", "--", "--"] ∧
    readArguments (line before c.command.name after ["--"]) = .ok c := by
  intro before after c
  have htexts : c.command.Texts ["--"] := .save _ _ _
  have hwritten : c.Written before after ["--"] :=
    Invocation.written_of_perm (by decide) (by decide) htexts
  have hone : ∀ command, c.command = .primitive command → OnePayload command := by
    rintro command hcommand
    cases hcommand
    rfl
  have hall := (every_command_can_be_written c ["--"] (by decide) htexts).2 before after hwritten
  exact ⟨by decide, hall.1.2 hone⟩

/-- A save without a payload is not read, so it is not true of every command that it can be
written. -/
theorem payloadless_save_cannot_be_written :
    ¬∀ (c : Invocation) (before after : List Choice) (texts : List String),
      c.config ≠ some "" → c.Written before after texts →
        readArguments (line before c.command.name after texts) = .ok c := by
  intro hall
  let c : Invocation := ⟨none, none, false, .primitive (.save "x" none none)⟩
  have hwritten : c.Written [] [] ["x"] :=
    Invocation.written_of_perm (by decide) (by decide) (.save _ _ _)
  have hread : readArguments (line [] c.command.name [] ["x"]) = .error .missingRequired := by
    decide
  rw [hall c [] [] ["x"] (by decide) hwritten] at hread
  cases hread

end BootLayer.CommandLine
