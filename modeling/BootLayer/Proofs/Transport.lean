import BootLayer.Proofs.FileText
import BootLayer.Proofs.WrittenLine

/-!
Files that are carried by the digits that the program prints.

One run of the program loads a file and prints its bytes in hexadecimal digits, and a second run
saves the bytes of these digits, with or without blanks around them.

* `readArguments_load_plain`, `readArguments_save_digits`: the two command lines.
* `prints_load_iff`, `exists_savesOnly`: what each of the two runs does.
* `Carries`, `carries`: what they leave, one after the other.
* `hex_output_is_lossless_transport`: the digits of all bytes read back, the texts that are read are
  those of an even number of digits, and a file is carried to any path that can be written, but for
  the device, which holds nothing (`device_loses_digits`).
-/

namespace BootLayer.CommandLine

open Text (isBlank)

/-! ### Command lines -/

/-- A line of the name `load` and a word. -/
lemma readArguments_load_plain {path : String} (hpath : path.toList.head? ≠ some '-') :
    readArguments ["load", path] = .ok ⟨none, none, false, .primitive (.load path false)⟩ :=
  @readArguments_plain .load rfl nofun path hpath _ rfl

/-- A line of the name `save`, a word, and digits after their option. -/
lemma readArguments_save_digits {path digits : String} (hpath : path.toList.head? ≠ some '-')
    (hdigits : digits.toList.head? ≠ some '-') :
    readArguments ["save", path, "--hex", digits] =
      .ok ⟨none, none, false, .primitive (.save path none (some digits))⟩ := by
  let waiting : Scan :=
    { given := { positionals := [path] }, pending := .value .hex none, taken := 1 }
  have hflag : (oneWord path false).take (some .save) "--hex" = .ok waiting :=
    @Scan.take_flag (oneWord path false) (some .save) .hex rfl rfl
  have hvalue : waiting.take (some .save) digits =
      .ok { waiting with pending := .value .hex (some digits) } := take_plain rfl _ hdigits
  have hread : readCommand .save [path, "--hex", digits] =
      .ok ({ positionals := [path], hex := some digits },
        .primitive (.save path none (some digits))) := by
    rw [readCommand, Scan.takeAll, take_plain rfl _ hpath, takeWord_first rfl]
    simp only [Scan.takeAll, hflag, hvalue]
    rfl
  rw [show "save" = CommandName.save.word from rfl, readArguments_word, hread]
  rfl

/-- A path after two hyphens may be any text. -/
lemma readArguments_load_hyphens (path : String) :
    readArguments ["load", "--", path] =
      .ok ⟨none, none, false, .primitive (.load path false)⟩ := by
  let c : Invocation := ⟨none, none, false, .primitive (.load path false)⟩
  have hwritten : c.Written [] [] [path] :=
    Invocation.written_of_perm (.refl _) (by simp) (.load path false)
  exact readArguments_line hwritten (by simp [c])

lemma readArguments_save_hyphens (path digits : String) :
    readArguments ["save", Valued.hex.attached digits, "--", path] =
      .ok ⟨none, none, false, .primitive (.save path none (some digits))⟩ := by
  let c : Invocation := ⟨none, none, false, .primitive (.save path none (some digits))⟩
  have hwritten : c.Written [] [.value .hex digits] [path] :=
    Invocation.written_of_perm (.refl _) (by simp) (.save path none (some digits))
  exact readArguments_line hwritten (by simp [c])

/-! ### Two runs -/

section

variable {words : List String} {config identity : Option String} {verbose : Bool}
  {world : World}

/-- The program saves the bytes of digits where its path leads. -/
lemma exists_savesOnly {path digits : String} {data : Bytes} {place : Place}
    (hwords : readArguments words =
      .ok ⟨config, identity, verbose, .primitive (.save path none (some digits))⟩)
    (hhost : HostSelected world config identity) (hdigits : decodeHex digits = .ok data)
    (hplace : world.tree.resolveNew world.cwd path = .ok place) :
    ∃ after text, runProcess (started world words) = (0, printOut text after) ∧
      SavesOnly (started world words) after path data place := by
  have hnew : (started world words).tree.resolveNew (started world words).cwd path = .ok place :=
    hplace
  have hrequest : requestOf (.save path none (some digits)) = .ok (.save path data) := by
    rw [requestOf, savePayload, hdigits]
    rfl
  have hrun := run_hostBy hrequest Shell.execute (Style.ofWorld (started world words))
    (started world words)
  rw [Host.ask_save, hnew] at hrun
  exact ⟨_, _, runProcess_of_run hwords hhost hrun, savesOnly_write hnew data⟩

/-- The program, started with the first words and then, in the world that it leaves, with the
second. -/
def runBoth (world : World) (words words' : List String) : Nat × World :=
  runProcess (started (runProcess (started world words)).2 words')

/-- The second run ends with status zero and leaves a world that differs from the first in one file
at most, that to which the path leads.  This one holds the bytes, unless it is the device, which
holds nothing. -/
structure Carries (world : World) (words words' : List String) (path : String) (place : Place)
    (data : Bytes) : Prop where
  status : (runBoth world words words').1 = 0
  holds : world.tree.viewAt place ≠ some .device →
    (runBoth world words words').2.tree.viewAt place = some (.file data) ∧
      (Host.primitives.load path (runBoth world words words').2).1 = .ok data
  device : world.tree.viewAt place = some .device →
    (runBoth world words words').2.tree = world.tree
  others : ∀ other, other ≠ place →
    (runBoth world words words').2.tree.viewAt other = world.tree.viewAt other

/-- A file that can be loaded is printed in digits where the configuration can be read and selects
the host. -/
lemma prints_load_iff {source : String} {data : Bytes}
    (hload : (Host.primitives.load source world).1 = .ok data)
    (hwords : readArguments words =
      .ok ⟨config, identity, verbose, .primitive (.load source false)⟩) :
    Prints world words (Text.Hex.encode data) ↔ HostSelected world config identity := by
  have hstarted : (Host.primitives.load source (started world words)).1 = .ok data := hload
  constructor
  · intro hprints
    exact (ok_of_status_zero hwords (congrArg Prod.fst hprints)).1
  · intro hhost
    exact runProcess_of_run hwords hhost (run_load hstarted false _)

/-- **What was printed for a file is carried to a path that can be written.** -/
lemma carries {words' : List String} {config' identity' : Option String} {verbose' : Bool}
    {target line digits : String} {data : Bytes} {place : Place}
    (hprints : Prints world words line) (hhost : HostSelected world config' identity')
    (hwords : readArguments words' =
      .ok ⟨config', identity', verbose', .primitive (.save target none (some digits))⟩)
    (hdigits : decodeHex digits = .ok data)
    (hplace : world.tree.resolveNew world.cwd target = .ok place) :
    Carries world words words' target place data := by
  -- the second run starts where the first one has printed, with the same files
  obtain ⟨middle, hmiddle⟩ : ∃ middle, middle = (runProcess (started world words)).2 := ⟨_, rfl⟩
  have hprinted : middle = printOut (line ++ "\n") (started world words) :=
    hmiddle.trans (congrArg Prod.snd hprints)
  have htree : (started middle words').tree = world.tree := by rw [hprinted]; rfl
  have hselected : HostSelected middle config' identity' := by rw [hprinted]; exact hhost
  have hnew : middle.tree.resolveNew middle.cwd target = .ok place := by
    rw [hprinted]
    exact hplace
  obtain ⟨after, text, hrun, hsaves⟩ := exists_savesOnly hwords hselected hdigits hnew
  have hboth : runBoth world words words' = (0, printOut text after) := by
    rw [runBoth, ← hmiddle, hrun]
  refine ⟨?_, fun hfile => ?_, fun hdevice => ?_, fun other hother => ?_⟩ <;> rw [hboth]
  · rw [← htree] at hfile
    have hholds := hsaves.holds hfile
    exact ⟨hholds, load_of_savesOnly hsaves (by rw [hholds]; rfl)⟩
  · rw [← htree] at hdevice
    show after.tree = world.tree
    rw [hsaves.device hdevice, htree]
  · show after.tree.viewAt other = world.tree.viewAt other
    rw [hsaves.others other hother, htree]

end

/-! ### Digits -/

lemma decodeHex_eq_ok_iff {text : String} {data : Bytes} :
    decodeHex text = .ok data ↔ Text.Hex.decode text = .ok data := by
  rw [decodeHex]
  cases Text.Hex.decode text <;> simp [Except.mapError]

/-- Digits with blanks around them do not start with a hyphen. -/
lemma head?_surrounded_ne_hyphen {before after : String} (data : Bytes)
    (hbefore : ∀ c ∈ before.toList, isBlank c = true)
    (hafter : ∀ c ∈ after.toList, isBlank c = true) :
    (before ++ Text.Hex.encode data ++ after).toList.head? ≠ some '-' := by
  intro h
  have hmem := List.mem_of_mem_head? h
  rw [String.toList_append, String.toList_append, List.mem_append, List.mem_append] at hmem
  have hblank : isBlank '-' ≠ true := by decide
  rcases hmem with (hmem | hmem) | hmem
  · exact hblank (hbefore _ hmem)
  · exact Text.Hex.hyphen_not_mem_encode data hmem
  · exact hblank (hafter _ hmem)

/-- **Hexadecimal digits carry all bytes.**  The digits that are shown for bytes read back as them,
whatever blanks stand around them.  The texts that read are those of an even number of digits of
either case, blanks around them left out, and what is shown for their bytes is their lower case.

So what the program prints when it loads a file can be handed to it to save: the path that it is
saved to then leads to a file with the very same bytes, and all else is as before.  Only the device
takes the bytes and holds nothing.  The file is printed wherever the configuration can be read and
selects the host. -/
theorem hex_output_is_lossless_transport (data : Bytes) (before after : String)
    (hbefore : ∀ c ∈ before.toList, isBlank c = true)
    (hafter : ∀ c ∈ after.toList, isBlank c = true) :
    (bytesOutcome false data = .text (Text.Hex.encode data) ∧
      decodeHex (before ++ Text.Hex.encode data ++ after) = .ok data) ∧
    (∀ text, (∃ bytes, decodeHex text = .ok bytes) ↔
      (Text.trim text.toList).length % 2 = 0 ∧ ∀ c ∈ Text.trim text.toList, Text.Hex.IsDigit c) ∧
    (∀ text bytes, decodeHex text = .ok bytes →
      (Text.Hex.encode bytes).toList = (Text.trim text.toList).map Char.toLower) ∧
    ∀ (world : World) (source target : String) (place : Place),
      (Host.primitives.load source world).1 = .ok data →
      world.tree.resolveNew world.cwd target = .ok place →
      let digits := before ++ Text.Hex.encode data ++ after
      let load : Command := .primitive (.load source false)
      let save : Command := .primitive (.save target none (some digits))
      (∀ words words' config identity verbose verbose',
        readArguments words = .ok ⟨config, identity, verbose, load⟩ →
        readArguments words' = .ok ⟨config, identity, verbose', save⟩ →
        (Prints world words (Text.Hex.encode data) ↔ HostSelected world config identity) ∧
        (Prints world words (Text.Hex.encode data) →
          Carries world words words' target place data)) ∧
      (readArguments ["load", "--", source] = .ok ⟨none, none, false, load⟩ ∧
        readArguments ["save", "--hex=" ++ digits, "--", target] =
          .ok ⟨none, none, false, save⟩) ∧
      (source.toList.head? ≠ some '-' →
        readArguments ["load", source] = .ok ⟨none, none, false, load⟩) ∧
      (target.toList.head? ≠ some '-' →
        readArguments ["save", target, "--hex", digits] = .ok ⟨none, none, false, save⟩) := by
  have hdigits : decodeHex (before ++ Text.Hex.encode data ++ after) = .ok data :=
    decodeHex_eq_ok_iff.2 (Text.Hex.decode_surrounded data hbefore hafter)
  refine ⟨⟨rfl, hdigits⟩, fun text => ?_, fun text bytes h => ?_, ?_⟩
  · simp only [decodeHex_eq_ok_iff]
    exact Text.Hex.exists_decode_iff
  · rw [Text.Hex.encode, String.toList_ofList]
    exact (Text.Hex.decode_eq_ok_iff.1 (decodeHex_eq_ok_iff.1 h)).symm
  · intro world source target place hload hplace digits load save
    refine ⟨?_, ⟨readArguments_load_hyphens source, readArguments_save_hyphens target digits⟩,
      readArguments_load_plain, fun htarget => ?_⟩
    · intro words words' config identity verbose verbose' hwords hwords'
      have hprints := prints_load_iff hload hwords
      exact ⟨hprints, fun h => carries h (hprints.1 h) hwords' hdigits hplace⟩
    · exact readArguments_save_digits htarget (head?_surrounded_ne_hyphen data hbefore hafter)

/-- A file of the lowest byte and the highest, printed and saved with the line break. -/
theorem extreme_bytes_carried :
    let data : Bytes := [0x00, 0xFF]
    let world : World := { tree := .put .emptyDir ["f"] (.file data) }
    (Host.primitives.load "f" world).1 = .ok data ∧
    world.tree.resolveNew world.cwd "g" = .ok ["g"] ∧
    Prints world ["load", "f"] "00ff" ∧
    world.tree.viewAt ["g"] ≠ some .device ∧
    Carries world ["load", "f"] ["save", "g", "--hex", "00ff\n"] "g" ["g"] data := by
  intro data world
  have hload : (Host.primitives.load "f" world).1 = .ok data := by decide +kernel
  have hplace : world.tree.resolveNew world.cwd "g" = .ok ["g"] := by decide +kernel
  have hstatus : (runProcess (started world ["load", "f"])).1 = 0 := by decide +kernel
  have hdigits : "" ++ Text.Hex.encode data ++ "\n" = "00ff\n" := by decide +kernel
  have hencode : Text.Hex.encode data = "00ff" := by decide +kernel
  obtain ⟨-, -, -, hfiles⟩ :=
    hex_output_is_lossless_transport data "" "\n" (by simp) (by simp [isBlank])
  obtain ⟨hcarries, -, hloads, hsaves⟩ := hfiles world "f" "g" ["g"] hload hplace
  have hread := hloads (by decide)
  obtain ⟨hprints, hcarried⟩ := hcarries _ _ _ _ _ _ hread (hsaves (by decide))
  have hprinted := hprints.2 (ok_of_status_zero hread hstatus).1
  have hboth := hcarried hprinted
  rw [hdigits] at hboth
  rw [hencode] at hprinted
  exact ⟨hload, hplace, hprinted, by decide +kernel, hboth⟩

/-- A byte that is saved to the device is not there afterwards. -/
theorem device_loses_digits :
    let world : World :=
      { tree := .put (.put .emptyDir ["f"] (.file [0x61])) ["dev", "null"] .null }
    let last := runBoth world ["load", "f"] ["save", "/dev/null", "--hex", "61"]
    Prints world ["load", "f"] "61" ∧ last.1 = 0 ∧
    (Host.primitives.load "/dev/null" last.2).1 = .ok [] ∧
    ¬∀ (world : World) (source target : String) (place : Place) (data : Bytes),
      (Host.primitives.load source world).1 = .ok data →
      world.tree.resolveNew world.cwd target = .ok place →
      Prints world ["load", source] (Text.Hex.encode data) →
      (Host.primitives.load target (runBoth world ["load", source]
        ["save", target, "--hex", Text.Hex.encode data]).2).1 = .ok data := by
  intro world last
  have hload : (Host.primitives.load "f" world).1 = .ok [0x61] := by decide +kernel
  have hplace : world.tree.resolveNew world.cwd "/dev/null" = .ok ["dev", "null"] := by
    decide +kernel
  have hencode : Text.Hex.encode [0x61] = "61" := by decide +kernel
  have hstatus : (runProcess (started world ["load", "f"])).1 = 0 := by decide +kernel
  have hread := @readArguments_load_plain "f" (by decide)
  have hprints := (prints_load_iff hload hread).2 (ok_of_status_zero hread hstatus).1
  have hempty : (Host.primitives.load "/dev/null" last.2).1 = .ok [] := by decide +kernel
  refine ⟨?_, by decide +kernel, hempty, fun hall => ?_⟩
  · rwa [hencode] at hprints
  · have hback := hall world "f" "/dev/null" _ [0x61] hload hplace hprints
    rw [hencode, hempty] at hback
    cases hback

end BootLayer.CommandLine
