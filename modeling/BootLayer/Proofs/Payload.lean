import BootLayer.Proofs.FrontEnd
import BootLayer.Proofs.Options
import BootLayer.Proofs.Process

/-!
The values that the words of a line give to its options, and the payload of a save.

* `Gives`: which words give an option its value: it stands before any two hyphens, with its value
  attached or as the next word.
* `Step.holds`, `holds_of_takeAll`: what a scan holds it never loses.
* `Step.traced`, `traced_of_takeAll`: what a scan holds was given by the words so far.
* `valueOf_eq_some_iff`: a command that is read has exactly the values that its words give.
* `parsed_save_has_one_payload`: a save that is read has one payload, the one that its words give.
-/

namespace BootLayer.CommandLine

/-- The words give the option this value, attached or as the next word, before any two hyphens. -/
inductive Gives (option : Valued) (value : String) : List String → Prop where
  | attached {before : List String} (reading : "--" ∉ before) (after : List String) :
      Gives option value (before ++ option.attached value :: after)
  | separate {before : List String} (reading : "--" ∉ before) (after : List String) :
      Gives option value (before ++ option.flag :: value :: after)

lemma Gives.append {option : Valued} {value : String} {words : List String}
    (h : Gives option value words) (more : List String) : Gives option value (words ++ more) := by
  cases h with
  | attached reading after =>
      rw [List.append_assoc]
      exact .attached reading (after ++ more)
  | separate reading after =>
      rw [List.append_assoc]
      exact .separate reading (after ++ more)

namespace Scan

variable {level : Level} {scan next last settled : Scan} {word value : String} {option : Valued}
  {words : List String}

/-! ### Nothing is lost -/

/-- What a scan holds is there when its pending words are looked at. -/
lemma SettlesTo.valueOf (h : scan.SettlesTo settled) (hold : scan.Holds option value) :
    settled.given.valueOf option = some value := (h.given option value).2 hold

/-- **A word never takes away a value that is held**, since nothing is given twice. -/
lemma Step.holds (h : scan.Step level word next) (hold : scan.Holds option value) :
    next.Holds option value := by
  cases h with
  | hyphens => exact hold
  | attached _ _ settles sets =>
      obtain ⟨hnone, -, rfl⟩ := Given.setValue_eq_ok_iff.1 sets
      have hgiven := (settlesTo settles).valueOf hold
      refine .inl ?_
      rw [Given.valueOf_put, if_neg, hgiven]
      rintro rfl
      rw [hnone] at hgiven
      cases hgiven
  | flag _ _ settles => exact .inl ((settlesTo settles).valueOf hold)
  | value _ _ waits =>
      rcases hold with hgiven | hpending
      · exact .inl hgiven
      · rw [waits] at hpending
        cases hpending
  | switches _ _ settles same =>
      refine .inl ?_
      rw [same]
      exact (settlesTo settles).valueOf hold
  | positional _ settles => exact .inl ((settlesTo settles).valueOf hold)
  | part _ follows =>
      rcases hold with hgiven | hpending
      · exact .inl hgiven
      · rw [follows] at hpending
        cases hpending

lemma holds_of_takeAll (h : takeAll level scan words = .ok last) (hold : scan.Holds option value) :
    last.Holds option value := by
  induction words generalizing scan with
  | nil =>
      cases h
      exact hold
  | cons word words ih =>
      obtain ⟨next, htake, hwords⟩ := takeAll_cons_eq_ok.1 h
      exact ih hwords ((step_of_take htake).holds hold)

/-- Only two hyphens end the options. -/
lemma Step.reading (h : scan.Step level word next) (hreading : scan.trailing = false)
    (hword : word ≠ "--") : next.trailing = false := by
  cases h with
  | hyphens _ hyphens => exact absurd hyphens hword
  | attached _ _ settles | flag _ _ settles | switches _ _ settles | positional _ settles =>
      exact (settlesTo settles).trailing.trans hreading
  | value | part => exact hreading

lemma reading_of_takeAll (h : takeAll level scan words = .ok last)
    (hreading : scan.trailing = false) (hwords : "--" ∉ words) : last.trailing = false := by
  induction words generalizing scan with
  | nil =>
      cases h
      exact hreading
  | cons word words ih =>
      obtain ⟨next, htake, hrest⟩ := takeAll_cons_eq_ok.1 h
      obtain ⟨hword, hnot⟩ : ¬"--" = word ∧ "--" ∉ words := by simpa using hwords
      exact ih hrest ((step_of_take htake).reading hreading (Ne.symm hword)) hnot

/-- An option that waits for its value when the options end waits for ever. -/
lemma not_settles_of_stuck (h : takeAll level scan words = .ok last)
    (htrailing : scan.trailing = true) (hwaits : scan.pending = .value option none)
    (settles : last.settle level = .ok settled) : False := by
  cases words with
  | nil =>
      cases h
      exact (settlesTo settles).awaits option hwaits
  | cons word words =>
      obtain ⟨next, htake, -⟩ := takeAll_cons_eq_ok.1 h
      cases step_of_take htake with
      | hyphens reading | attached reading | flag reading | value reading | switches reading =>
          rw [htrailing] at reading
          cases reading
      | positional _ settles => exact (settlesTo settles).awaits option hwaits
      | part _ follows =>
          rw [hwaits] at follows
          cases follows

/-- An option that waits takes the next word as its value, if all is well in the end. -/
lemma holds_of_waits (h : takeAll level scan (word :: words) = .ok last)
    (hwaits : scan.pending = .value option none) (settles : last.settle level = .ok settled) :
    last.Holds option word := by
  obtain ⟨next, htake, hwords⟩ := takeAll_cons_eq_ok.1 h
  cases step_of_take htake with
  | hyphens => exact (not_settles_of_stuck hwords rfl hwaits settles).elim
  | attached _ _ early | flag _ _ early | switches _ _ early | positional _ early =>
      exact absurd hwaits ((settlesTo early).awaits option)
  | value _ _ waits =>
      rw [hwaits] at waits
      cases waits
      exact holds_of_takeAll hwords (.inr rfl)
  | part _ follows =>
      rw [hwaits] at follows
      cases follows

/-- **A value that the words give is held in the end.** -/
lemma holds_of_gives (hlevel : level.Has option) (h : takeAll level {} words = .ok last)
    (settles : last.settle level = .ok settled) (hgives : Gives option value words) :
    last.Holds option value := by
  cases hgives with
  | attached reading after =>
      obtain ⟨middle, hbefore, hafter⟩ := takeAll_append_eq_ok.1 h
      obtain ⟨next, htake, hrest⟩ := takeAll_cons_eq_ok.1 hafter
      rw [take_attached (reading_of_takeAll hbefore rfl reading) hlevel] at htake
      split at htake
      · cases htake
      · obtain ⟨given, sets, rfl⟩ := map_eq_ok_iff.1 htake
        obtain ⟨-, -, rfl⟩ := Given.setValue_eq_ok_iff.1 sets
        refine holds_of_takeAll hrest (.inl ?_)
        rw [Given.valueOf_put, if_pos rfl]
  | separate reading after =>
      obtain ⟨middle, hbefore, hafter⟩ := takeAll_append_eq_ok.1 h
      obtain ⟨next, htake, hrest⟩ := takeAll_cons_eq_ok.1 hafter
      rw [take_flag (reading_of_takeAll hbefore rfl reading) hlevel] at htake
      obtain ⟨waiting, -, rfl⟩ := map_eq_ok_iff.1 htake
      exact holds_of_waits hrest rfl settles

/-! ### Nothing is made up -/

/-- Everything that a scan holds comes from the words that it has taken. -/
structure Traced (words : List String) (scan : Scan) : Prop where
  reading : scan.trailing = false → "--" ∉ words
  held : ∀ option value, scan.Holds option value → Gives option value words
  waits : ∀ option, scan.pending = .value option none → scan.trailing = false →
    ∃ before, "--" ∉ before ∧ words = before ++ [option.flag]

lemma Traced.reading_append (h : Traced words scan) (other : scan.trailing = false → word ≠ "--")
    (hreading : scan.trailing = false) : "--" ∉ words ++ [word] := by
  simp only [List.mem_append, List.mem_singleton, not_or]
  exact ⟨h.reading hreading, Ne.symm (other hreading)⟩

/-- A value that was held before the word, or is given now that it is looked at. -/
lemma Traced.held_append (h : Traced words scan) (settles : scan.settle level = .ok settled)
    (hgiven : settled.given.valueOf option = some value) :
    Gives option value (words ++ [word]) :=
  (h.held option value (((settlesTo settles).given option value).1 hgiven)).append [word]

/-- **A word adds no value but the one that it gives.** -/
lemma Step.traced (h : scan.Step level word next) (ht : Traced words scan) :
    Traced (words ++ [word]) next := by
  cases h with
  | hyphens => exact ⟨nofun, fun option value hold => (ht.held option value hold).append _, nofun⟩
  | @attached option value settled given reading attached settles sets =>
      obtain ⟨-, -, rfl⟩ := Given.setValue_eq_ok_iff.1 sets
      have hpending := (settlesTo settles).pending
      subst attached
      refine ⟨fun _ => ht.reading_append (fun _ => option.attached_ne_hyphens value) reading,
        fun other text hold => ?_, ?_⟩
      · rcases hold with hgiven | hwaits
        · rw [Given.valueOf_put] at hgiven
          split_ifs at hgiven with hother
          · cases hgiven
            rw [hother]
            exact .attached (ht.reading reading) []
          · exact ht.held_append settles hgiven
        · rw [hpending] at hwaits
          cases hwaits
      · simp [hpending]
  | @flag option settled reading flag settles =>
      subst flag
      refine ⟨fun _ => ht.reading_append (fun _ => option.flag_ne_hyphens) reading,
        fun other text hold => ?_, fun other hwaits _ => ?_⟩
      · rcases hold with hgiven | hwaits
        · exact ht.held_append settles hgiven
        · cases hwaits
      · cases hwaits
        exact ⟨words, ht.reading reading, rfl⟩
  | @value option reading other waits =>
      refine ⟨ht.reading_append fun _ => other, fun other text hold => ?_, nofun⟩
      rcases hold with hgiven | hpending
      · exact (ht.held other text (.inl hgiven)).append _
      · cases hpending
        obtain ⟨before, hbefore, rfl⟩ := ht.waits option waits reading
        rw [List.append_assoc]
        exact .separate hbefore []
  | switches reading other settles same =>
      have hpending := (settlesTo settles).pending
      refine ⟨fun _ => ht.reading_append (fun _ => other) reading, fun option value hold => ?_, ?_⟩
      · rcases hold with hgiven | hwaits
        · rw [same] at hgiven
          exact ht.held_append settles hgiven
        · rw [hpending] at hwaits
          cases hwaits
      · simp [hpending]
  | positional other settles =>
      refine ⟨fun hreading => ?_, fun option value hold => ?_, nofun⟩
      · exact ht.reading_append other ((settlesTo settles).trailing.symm.trans hreading)
      · rcases hold with hgiven | hwaits
        · exact ht.held_append settles hgiven
        · cases hwaits
  | part other follows =>
      refine ⟨ht.reading_append other, fun option value hold => ?_, nofun⟩
      rcases hold with hgiven | hwaits
      · exact (ht.held option value (.inl hgiven)).append _
      · cases hwaits

lemma traced_of_takeAll_from {done : List String} (h : takeAll level scan words = .ok last)
    (ht : Traced done scan) : Traced (done ++ words) last := by
  induction words generalizing scan done with
  | nil =>
      cases h
      rwa [List.append_nil]
  | cons word words ih =>
      obtain ⟨next, htake, hwords⟩ := takeAll_cons_eq_ok.1 h
      have hnext := ih hwords ((step_of_take htake).traced ht)
      rwa [List.append_assoc] at hnext

lemma traced_of_takeAll (h : takeAll level {} words = .ok last) : Traced words last := by
  have hstart : Traced [] {} := by
    refine ⟨by simp, fun option value hold => ?_, nofun⟩
    rcases hold with hgiven | hpending
    · cases option <;> cases hgiven
    · cases hpending
  exact traced_of_takeAll_from h hstart

end Scan

/-! ### Commands -/

lemma exists_scan_of_readCommand {name : CommandName} {words : List String} {given : Given}
    {command : Command} (h : readCommand name words = .ok (given, command)) :
    ∃ last settled, Scan.takeAll (some name) {} words = .ok last ∧
      last.settle (some name) = .ok settled ∧ settled.given = given := by
  rw [readCommand] at h
  split at h
  · cases h
  · next last hlast =>
      split at h
      · cases h
      · next settled settles =>
          obtain ⟨_, -, hread⟩ := map_eq_ok_iff.1 h
          exact ⟨last, settled, hlast, settles, (Prod.mk.inj hread).1.symm⟩

/-- **A command that is read has exactly the values that its words give.** -/
lemma valueOf_eq_some_iff {name : CommandName} {words : List String} {given : Given}
    {command : Command} (h : readCommand name words = .ok (given, command)) (option : Valued)
    (hlevel : Level.Has (some name) option) (value : String) :
    given.valueOf option = some value ↔ Gives option value words := by
  obtain ⟨last, settled, hlast, settles, rfl⟩ := exists_scan_of_readCommand h
  rw [(Scan.settlesTo settles).given option value]
  exact ⟨(Scan.traced_of_takeAll hlast).held option value,
    Scan.holds_of_gives hlevel hlast settles⟩

lemma CommandName.word_of_ofWord? {word : String} {name : CommandName}
    (h : ofWord? word = some name) : word = name.word := by
  have hword := List.find?_some h
  exact (beq_iff_eq.1 hword).symm

/-- A line that is read has the name of its command as a word, and the command is read from the
words after it. -/
lemma exists_readCommand {words : List String} {scan : Scan} {invocation : Invocation}
    (h : readTop scan words = .ok invocation) :
    ∃ before name inner given, words = before ++ name.word :: inner ∧
      readCommand name inner = .ok (given, invocation.command) := by
  induction words generalizing scan with
  | nil =>
      rw [readTop] at h
      split at h <;> cases h
  | cons word words ih =>
      rw [readTop] at h
      split at h
      · cases h
      · split at h
        · next name _ hname =>
            split at h
            · cases h
            · next given command hread =>
                obtain ⟨outer, -, rfl⟩ := map_eq_ok_iff.1 h
                exact ⟨[], name, words, given, by rw [CommandName.word_of_ofWord? hname]; rfl,
                  hread⟩
        · split at h
          · cases h
          · obtain ⟨before, name, inner, given, rfl, hread⟩ := ih h
            exact ⟨word :: before, name, inner, given, rfl, hread⟩

/-! ### Saves -/

lemma commandOf_eq_save {name : CommandName} {given : Given} {path : String}
    {text hex : Option String}
    (h : commandOf name given = .ok (.primitive (.save path text hex))) :
    name = .save ∧ given.text = text ∧ given.hex = hex := by
  unfold commandOf at h
  split at h
  · cases h
  · split at h
    case h_7 => split at h <;> cases h
    case h_12 =>
      split at h
      · cases h
      · cases h
        exact ⟨rfl, rfl, rfl⟩
    all_goals cases h

/-- A save with one payload has text or digits. -/
lemma OnePayload.text_or_hex {path : String} {text hex : Option String}
    (h : OnePayload (.save path text hex)) :
    (∃ t, text = some t ∧ hex = none) ∨ ∃ d, text = none ∧ hex = some d := by
  rw [OnePayload] at h
  cases text <;> cases hex <;> simp_all

/-- Only a save without a payload lacks one. -/
lemma requestOf_ne_noPayload {command : PrimitiveCommand} (h : OnePayload command) :
    requestOf command ≠ .error .noPayload := by
  intro hnone
  rcases makes_or_undecodable h with ⟨name, args, hmakes⟩ | ⟨failure, hfails⟩
  · rcases hmakes.request_or_refused with ⟨request, hrequest, -⟩ | ⟨fault, hrequest, -⟩ <;>
      rw [hrequest] at hnone <;> cases hnone
  · rw [hfails.requestOf_eq] at hnone
    cases hnone
    cases hfails

lemma run_ne_noPayload {ι : Type} {command : PrimitiveCommand} (h : OnePayload command)
    (handle : Handle ι) (style : Style) (state : World × ι) :
    (run handle style command state).1 ≠ .error .noPayload := by
  intro hnone
  rw [run] at hnone
  split at hnone
  · next failure hfailure =>
      cases hnone
      exact requestOf_ne_noPayload h hfailure
  · split at hnone <;> cases hnone

lemma executeBy_ne_noPayload {invocation : Invocation}
    (h : ∀ command, invocation.command = .primitive command → OnePayload command)
    (shell : Shell.Runner) (world : World) :
    (executeBy shell invocation world).1 ≠ .error .noPayload := by
  intro hnone
  rw [executeBy] at hnone
  split at hnone
  · cases hnone
  · split at hnone
    · cases hnone
    · cases hnone
    · next command hcommand =>
        split at hnone
        · cases hnone
        · exact run_ne_noPayload (h command hcommand) _ _ _ hnone

/-- **A save that is read has exactly one payload**, and it is the one that the words give: text is
there exactly if an option `--text` is read, digits exactly if an option `--hex` is.  So no command
line ends in the failure of a save without a payload, and digits that are given are what is
saved. -/
theorem parsed_save_has_one_payload (words : List String) (invocation : Invocation)
    (h : readArguments words = .ok invocation) :
    (∀ shell world, (executeBy shell invocation world).1 ≠ .error .noPayload) ∧
    ∀ path text hex, invocation.command = .primitive (.save path text hex) →
      ((∃ t, text = some t ∧ hex = none) ∨ ∃ d, text = none ∧ hex = some d) ∧
      ∃ before inner given, words = before ++ "save" :: inner ∧
        readCommand .save inner = .ok (given, invocation.command) ∧
        (∀ t, text = some t ↔ Gives .text t inner) ∧
        (∀ d, hex = some d ↔ Gives .hex d inner) ∧
        ∀ d, Gives .hex d inner → savePayload text hex = decodeHex d := by
  obtain ⟨before, name, inner, given, rfl, hread⟩ := exists_readCommand h
  have hcommand := commandOf_of_readCommand hread
  refine ⟨executeBy_ne_noPayload fun command hprimitive => ?_, ?_⟩
  · rw [hprimitive] at hcommand
    exact onePayload_of_commandOf hcommand
  · intro path text hex hsave
    rw [hsave] at hcommand
    obtain ⟨rfl, rfl, rfl⟩ := commandOf_eq_save hcommand
    have hone := (onePayload_of_commandOf hcommand).text_or_hex
    have htext : ∀ t, given.text = some t ↔ Gives .text t inner :=
      valueOf_eq_some_iff hread .text rfl
    have hhex : ∀ d, given.hex = some d ↔ Gives .hex d inner :=
      valueOf_eq_some_iff hread .hex rfl
    refine ⟨hone, before, inner, given, rfl, hread, htext, hhex, fun d hgives => ?_⟩
    have hdigits := (hhex d).2 hgives
    rcases hone with ⟨t, -, hnone⟩ | ⟨_, hnone, -⟩
    · rw [hdigits] at hnone
      cases hnone
    · rw [hdigits, hnone, savePayload]

/-- A save with digits among other options, and with a path that looks like text. -/
theorem digits_beside_textual_path :
    let words := ["-v", "save", "--identity", "host", "--hex", "00fF", "--", "--text=a"]
    let command : Command := .primitive (.save "--text=a" none (some "00fF"))
    readArguments words = .ok ⟨none, some "host", true, command⟩ ∧
    (∀ shell world, (executeBy shell ⟨none, some "host", true, command⟩ world).1 ≠
      .error .noPayload) ∧
    ∃ before inner given, words = before ++ "save" :: inner ∧
      readCommand .save inner = .ok (given, command) ∧
      (∀ t, ¬Gives .text t inner) ∧ (∀ d, Gives .hex d inner ↔ d = "00fF") := by
  intro words command
  have hread : readArguments words = .ok ⟨none, some "host", true, command⟩ := by decide +kernel
  obtain ⟨hnone, hsave⟩ := parsed_save_has_one_payload words _ hread
  obtain ⟨-, before, inner, given, hwords, hcommand, htext, hhex, -⟩ := hsave _ _ _ rfl
  refine ⟨hread, hnone, before, inner, given, hwords, hcommand, fun t hgives => ?_, fun d => ?_⟩
  · cases (htext t).2 hgives
  · rw [← hhex d, Option.some.injEq, eq_comm]

end BootLayer.CommandLine
