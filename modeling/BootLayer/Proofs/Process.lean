import Mathlib.Tactic.Common
import BootLayer.CommandLine.Process
import BootLayer.Proofs.Run
import BootLayer.Proofs.Text

/-!
Command lines with one positional or two, and the program run on them in the surroundings of a
world.

* `readTop_word`, `readArguments_word`: from the name of a command on, a line is read at the level
  of that command.
* `Emits`, `Prints`: the program ends with status zero and writes these bytes, or one line.
* `HostSelected`, `execute_primitive`: where the configuration can be read and selects the host, a
  primitive command is executed as its run on the host.
* `runProcess_of_run`: what such a command gives is shown, in the world that it leaves.
* `prints_iff`: a primitive command that answers with a line prints it exactly where the
  configuration can be read and selects the host.
-/

namespace BootLayer.CommandLine

/-! ### Words -/

lemma CommandName.ofWord?_word (name : CommandName) : ofWord? name.word = some name := by
  cases name <;> decide

lemma CommandName.word_ne_helpWord (name : CommandName) : name.word ≠ helpWord := by
  cases name <;> decide

/-- The name of a command ends the top level: the words after it are read at the level of that
command, and an option that is given at both levels counts as given at the latter. -/
lemma readTop_word {scan : Scan} (hpending : scan.pending = .nothing)
    (hreading : scan.trailing = false) (name : CommandName) (words : List String) :
    readTop scan (name.word :: words) =
      (readCommand name words).map fun read =>
        { config := read.1.config.or scan.given.config
          identity := read.1.identity.or scan.given.identity
          verbose := read.1.verbose || scan.given.verbose
          command := read.2 } := by
  rw [readTop]
  simp only [name.ofWord?_word, name.word_ne_helpWord, and_false, if_false]
  cases hread : readCommand name words with
  | error fault => simp [Scan.awaits, hpending, hreading, hread, Except.map]
  | ok read => simp [Scan.settle, Scan.awaits, hpending, hreading, hread, Except.map]

/-- A line that starts with the name of a command is read at the level of that command. -/
lemma readArguments_word (name : CommandName) (words : List String) :
    readArguments (name.word :: words) =
      (readCommand name words).map fun read =>
        { config := read.1.config
          identity := read.1.identity
          verbose := read.1.verbose
          command := read.2 } := by
  rw [readArguments, readTop_word rfl rfl]
  simp only [Option.or_none, Bool.or_false]

/-- The scan of a command that was given one positional. -/
def oneWord (word : String) (trailing : Bool) : Scan :=
  { pending := .positionals [word], taken := 1, trailing }

lemma takeWord_first {name : CommandName} (hpos : Level.hasPositional (some name) 0 = true)
    (word : String) (trailing : Bool) :
    Scan.takeWord { trailing } (some name) word = .ok (oneWord word trailing) := by
  cases trailing <;> simp [Scan.takeWord, hpos, Scan.settle, Except.map, oneWord]

/-- A word that does not start with a hyphen is no option. -/
lemma take_plain {scan : Scan} (htrailing : scan.trailing = false) (level : Level) {word : String}
    (hword : word.toList.head? ≠ some '-') : scan.take level word = scan.takeWord level word := by
  rw [Scan.take, if_neg (by simp [htrailing])]
  split
  · next h => rw [h] at hword; exact absurd rfl hword
  · next h => rw [h] at hword; exact absurd rfl hword
  · next h => rw [h] at hword; exact absurd rfl hword
  · rfl

/-- A word that does not start with a hyphen is a positional. -/
lemma takeAll_plain {name : CommandName} (hpos : Level.hasPositional (some name) 0 = true)
    {word : String} (hword : word.toList.head? ≠ some '-') :
    Scan.takeAll (some name) {} [word] = .ok (oneWord word false) := by
  rw [Scan.takeAll, take_plain rfl (some name) hword, takeWord_first hpos]
  rfl

/-- After two hyphens every word is a positional. -/
lemma takeAll_trailing {name : CommandName} (hpos : Level.hasPositional (some name) 0 = true)
    (word : String) :
    Scan.takeAll (some name) {} ["--", word] = .ok (oneWord word true) := by
  have hhyphens : Scan.take {} (some name) "--" = .ok { trailing := true } := by
    rw [Scan.take]
    rfl
  rw [Scan.takeAll, hhyphens]
  simp only [Scan.takeAll, Scan.take, if_true, takeWord_first hpos]

/-- A line of the name of a command and a word that does not start with a hyphen. -/
lemma readArguments_plain {name : CommandName} (hpos : Level.hasPositional (some name) 0 = true)
    (hname : name ≠ .fpack) {word : String} (hword : word.toList.head? ≠ some '-')
    {command : Command} (hcommand : commandOf name { positionals := [word] } = .ok command) :
    readArguments [name.word, word] = .ok ⟨none, none, false, command⟩ := by
  have hread : readCommand name [word] = .ok ({ positionals := [word] }, command) := by
    rw [readCommand, takeAll_plain hpos hword]
    simp [oneWord, Scan.settle, Given.addPositionals, hname, hcommand, Except.map]
  rw [readArguments_word, hread]
  rfl

/-- A line of the name `funpack` and a word. -/
lemma readArguments_funpack {hex : String} (hhex : hex.toList.head? ≠ some '-') :
    readArguments ["funpack", hex] =
      .ok { config := none, identity := none, verbose := false
            command := .primitive (.funpack hex) } :=
  @readArguments_plain .funpack rfl nofun hex hhex _ rfl

/-- A line of the name `fpack` and a numeral after two hyphens. -/
lemma readArguments_fpack {text : String} {numeral : Numeral}
    (hread : Numeral.read text.toList = some numeral) :
    readArguments ["fpack", "--", text] =
      .ok { config := none, identity := none, verbose := false
            command := .primitive (.fpack numeral.toDouble) } := by
  have hcommand : readCommand .fpack ["--", text] =
      .ok ({ positionals := [text] }, .primitive (.fpack numeral.toDouble)) := by
    rw [readCommand, takeAll_trailing rfl]
    simp [oneWord, Scan.settle, Given.addPositionals, hread, commandOf, Except.map]
  rw [show "fpack" = CommandName.fpack.word from rfl, readArguments_word, hcommand]
  rfl

/-- A line of the name `merge` and two words. -/
lemma readArguments_merge {target source : String} (htarget : target.toList.head? ≠ some '-')
    (hsource : source.toList.head? ≠ some '-') :
    readArguments ["merge", target, source] =
      .ok { config := none, identity := none, verbose := false
            command := .primitive (.merge target source) } := by
  have hsecond : Scan.take (oneWord target false) (some .merge) source =
      .ok { given := { positionals := [target] }, pending := .positionals [source], taken := 2 } :=
    take_plain rfl _ hsource
  have hread : readCommand .merge [target, source] =
      .ok ({ positionals := [target, source] }, .primitive (.merge target source)) := by
    rw [readCommand, Scan.takeAll, take_plain rfl _ htarget, takeWord_first rfl]
    simp only [Scan.takeAll, hsecond]
    rfl
  rw [show "merge" = CommandName.merge.word from rfl, readArguments_word, hread]
  rfl

/-- A line of the name `read` and a path after two hyphens. -/
lemma readArguments_read (path : String) :
    readArguments ["read", "--", path] =
      .ok { config := none, identity := none, verbose := false
            command := .primitive (.read path) } := by
  have hcommand : readCommand .read ["--", path] =
      .ok ({ positionals := [path] }, .primitive (.read path)) := by
    rw [readCommand, takeAll_trailing rfl]
    rfl
  rw [show "read" = CommandName.read.word from rfl, readArguments_word, hcommand]
  rfl

/-- A line of the name `load`, its switch and a path after two hyphens. -/
lemma readArguments_load_raw (path : String) :
    readArguments ["load", "--raw", "--", path] =
      .ok { config := none, identity := none, verbose := false
            command := .primitive (.load path true) } := by
  have hcommand : readCommand .load ["--raw", "--", path] =
      .ok ({ raw := true, positionals := [path] }, .primitive (.load path true)) := by
    rfl
  rw [show "load" = CommandName.load.word from rfl, readArguments_word, hcommand]
  rfl

/-! ### The program -/

/-- The surroundings of a program that was started with these words. -/
def started (world : World) (words : List String) : World := { world with argv := "tern" :: words }

/-- Started with these words, the program ends with status zero and prints one line. -/
def Prints (world : World) (words : List String) (line : String) : Prop :=
  runProcess (started world words) = (0, printOut (line ++ "\n") (started world words))

/-- Started with these words, the program ends with status zero and writes these bytes. -/
def Emits (world : World) (words : List String) (data : Bytes) : Prop :=
  runProcess (started world words) =
    (0, { started world words with output := world.output ++ data })

/-- Without options, the configuration of the world can be read and selects the host. -/
def HostReady (world : World) : Prop :=
  ∃ source config, loadConfig world none = .ok (source, config) ∧
    Handle.environmentIn world config none = .host

lemma printOut_injective {text text' : String} {world : World}
    (h : printOut text world = printOut text' world) : text = text' := by
  have houtput : world.output ++ Text.Utf8.encode text = world.output ++ Text.Utf8.encode text' :=
    congrArg World.output h
  exact Text.Utf8.encode_injective (List.append_cancel_left houtput)

/-- With these options, the configuration of the world can be read and selects the host. -/
def HostSelected (world : World) (path identity : Option String) : Prop :=
  ∃ source config, loadConfig world path = .ok (source, config) ∧
    Handle.environmentIn world config identity = .host

/-- A primitive command, on a world that selects the host or does not. -/
lemma execute_primitive (path identity : Option String) (verbose : Bool)
    (command : PrimitiveCommand) (world : World) :
    (HostSelected world path identity ∧
      execute ⟨path, identity, verbose, .primitive command⟩ world =
        ((run (Handle.host : Handle Unit) (Style.ofWorld world) command (world, ())).1,
          (run (Handle.host : Handle Unit) (Style.ofWorld world) command (world, ())).2.1)) ∨
    (¬HostSelected world path identity ∧ ∃ failure,
      execute ⟨path, identity, verbose, .primitive command⟩ world = (.error failure, world)) := by
  cases hconfig : loadConfig world path with
  | error fault =>
      refine .inr ⟨?_, .config fault, ?_⟩
      · rintro ⟨source, config, hload, -⟩
        rw [hconfig] at hload
        cases hload
      · exact executeBy_of_unreadable hconfig verbose _ _
  | ok found =>
      obtain ⟨source, config⟩ := found
      cases henv : Handle.environmentIn world config identity with
      | host =>
          exact .inl ⟨⟨source, config, hconfig, henv⟩,
            executeBy_of_host hconfig henv verbose command _⟩
      | selfHosted =>
          refine .inr ⟨?_, .primitive Handle.noObject, ?_⟩
          · rintro ⟨source', config', hload, henv'⟩
            rw [hconfig] at hload
            cases hload
            rw [henv] at henv'
            cases henv'
          · exact executeBy_of_selfHosted hconfig henv verbose command _

/-- A primitive command that gives an outcome on the host shows it, in the world that it leaves. -/
lemma runProcess_of_run {words : List String} {config identity : Option String} {verbose : Bool}
    {command : PrimitiveCommand} {outcome : Outcome} {world after : World}
    (hwords : readArguments words = .ok ⟨config, identity, verbose, .primitive command⟩)
    (hhost : HostSelected world config identity)
    (hrun : run (Handle.host : Handle Unit) (Style.ofWorld (started world words)) command
      (started world words, ()) = (.ok outcome, (after, ()))) :
    runProcess (started world words) =
      match outcome with
      | .text line => (0, printOut (line ++ "\n") after)
      | .bytes data => (0, { after with output := after.output ++ data })
      | .exit status => (exitStatus status, after) := by
  have hargv : (started world words).argv.drop 1 = words := rfl
  rw [runProcess, hargv, hwords]
  rcases execute_primitive config identity verbose command (started world words) with
    ⟨-, hexec⟩ | ⟨hnot, -⟩
  · rw [hrun] at hexec
    simp only [hexec]
    cases outcome <;> rfl
  · exact absurd hhost hnot

/-- **A primitive command that answers with a line prints it exactly where the configuration can be
read and selects the host.** -/
lemma prints_iff {words : List String} {command : PrimitiveCommand} {answer : String}
    (hwords : readArguments words = .ok ⟨none, none, false, .primitive command⟩) {world : World}
    (hrun : run (Handle.host : Handle Unit) (Style.ofWorld (started world words)) command
      (started world words, ()) = (.ok (.text answer), (started world words, ()))) (line : String) :
    Prints world words line ↔ HostReady world ∧ line = answer := by
  have hready : HostSelected (started world words) none none ↔ HostReady world := Iff.rfl
  have hargv : (started world words).argv.drop 1 = words := rfl
  rw [Prints, runProcess, hargv, hwords]
  rcases execute_primitive none none false command (started world words) with
    ⟨hhost, hexec⟩ | ⟨hhost, failure, hexec⟩
  · rw [hrun] at hexec
    simp only [hexec]
    constructor
    · intro h
      refine ⟨hready.1 hhost, ?_⟩
      have hline := printOut_injective (Prod.mk.inj h).2
      exact ((String.append_left_inj "\n").1 hline).symm
    · rintro ⟨-, rfl⟩
      rfl
  · simp only [hexec]
    constructor
    · intro h
      exact absurd (Prod.mk.inj h).1 (by decide)
    · rintro ⟨h, -⟩
      exact absurd (hready.2 h) hhost

end BootLayer.CommandLine
