import Mathlib.Tactic.Common
import BootLayer.Proofs.FrontEnd
import BootLayer.Proofs.Store

/-!
What a command can do to the world, and what a failed one does.

The shell is the one part of the host that can do anything at all, so that a command which gives the
same result with every shell in its place (`executeBy`) has started none.

* `effect`: a command leaves the world alone, or saves one file, or starts one command line.
* `failed_command_leaves_no_trace`: a failed command leaves the world alone and starts nothing, and
  so does every other one but a save, which changes its own file, and a command line.  Only the null
  device takes a save and holds nothing of it.
* `device_keeps_no_payload`: a save to the device.
-/

namespace BootLayer

/-! ### Any shell -/

namespace Host

/-- The shell matters to command lines only. -/
lemma ask_primitivesBy {r : Request} (h : ∀ command, r ≠ .system command)
    (shell shell' : Shell.Runner) (world : World) :
    (primitivesBy shell).ask r world = (primitivesBy shell').ask r world := by
  cases r with
  | system command => exact absurd rfl (h command)
  | _ => rfl

lemma ask_system_of_no_nul {command : String} (h : '\x00' ∉ command.toList)
    (shell : Shell.Runner) (world : World) :
    (primitivesBy shell).ask (.system command) world =
      (.ok (shell command world).1, (shell command world).2) := by
  show systemBy shell command world = _
  rw [systemBy, if_neg (by simpa using h)]
  rfl

end Host

namespace CommandLine

/-! ### The payload of a save -/

/-- The bytes that a save is given: those of its text, one a character, or those of its digits. -/
inductive Payload : Option String → Option String → Bytes → Prop where
  | text {text : String} (narrow : Text.Latin1.Narrow text.toList) (hex : Option String) :
      Payload (some text) hex (text.toList.map Text.Latin1.byte)
  | hex {hex : String} {data : Bytes} (h : Text.Hex.decode hex = .ok data) :
      Payload none (some hex) data

lemma payload_of_savePayload {text hex : Option String} {data : Bytes}
    (h : savePayload text hex = .ok data) : Payload text hex data := by
  cases text with
  | some text =>
      rw [savePayload] at h
      rcases Text.Latin1.narrow_or_wide text.toList with hn | ⟨before, c, after, htext, hn, hc⟩
      · rw [Text.Latin1.encode_narrow hn] at h
        cases h
        exact .text hn hex
      · rw [Text.Latin1.encode_wide htext hn hc] at h
        cases h
  | none =>
      cases hex with
      | none => cases h
      | some hex =>
          rw [savePayload, decodeHex] at h
          cases hdecode : Text.Hex.decode hex with
          | error fault =>
              rw [hdecode] at h
              cases h
          | ok bytes =>
              rw [hdecode] at h
              cases h
              exact .hex hdecode

/-! ### Primitive commands -/

/-- The command is a save or a command line: only these act on the world. -/
def Command.Acts : Command → Prop
  | .primitive (.save ..) => True
  | .primitive (.system _) => True
  | _ => False

lemma save_or_system_or_not_acts (command : PrimitiveCommand) :
    (∃ path text hex, command = .save path text hex) ∨ (∃ line, command = .system line) ∨
      ¬(Command.primitive command).Acts := by
  cases command <;> simp [Command.Acts]

/-- A command that does not act makes a request that does not. -/
lemma request_of_not_acts {command : PrimitiveCommand} (h : ¬(Command.primitive command).Acts)
    {r : Request} (hr : requestOf command = .ok r) :
    (∀ path data, r ≠ .save path data) ∧ ∀ line, r ≠ .system line := by
  cases command with
  | save path text hex => exact absurd trivial h
  | system line => exact absurd trivial h
  | merge target source =>
      rw [requestOf] at hr
      split at hr
      · cases hr
      · obtain ⟨value, rfl⟩ := exists_of_map_eq_ok hr
        simp
  | funpack hex =>
      obtain ⟨data, rfl⟩ := exists_of_map_eq_ok hr
      simp
  | _ =>
      cases hr
      simp

section

variable {command : PrimitiveCommand}

lemma run_of_requestOf_error {failure : Failure} (h : requestOf command = .error failure)
    (shell : Shell.Runner) (style : Style) (world : World) :
    run (Handle.hostBy shell) style command (world, ()) = (.error failure, (world, ())) := by
  rw [run, h]

/-- A command that does not act leaves the world alone and starts nothing. -/
lemma run_of_not_acts (h : ¬(Command.primitive command).Acts) (style : Style) (world : World) :
    ∃ result, ∀ shell,
      run (Handle.hostBy shell) style command (world, ()) = (result, (world, ())) := by
  cases hr : requestOf command with
  | error failure => exact ⟨_, fun shell => run_of_requestOf_error hr shell style world⟩
  | ok r =>
      obtain ⟨hsave, hsystem⟩ := request_of_not_acts h hr
      let answer := r.answer (Host.primitives.ask r world).1
      refine ⟨(answer.map (render style command r)).mapError .primitive, fun shell => ?_⟩
      rw [run_hostBy hr, Host.ask_primitivesBy hsystem shell Shell.execute,
        Host.ask_unchanged hsave hsystem]

/-- A save fails and leaves the world alone, or writes its payload where its path leads. -/
lemma run_save (path : String) (text hex : Option String) (style : Style) (world : World) :
    (∃ failure, ∀ shell, run (Handle.hostBy shell) style (.save path text hex) (world, ()) =
      (.error failure, (world, ()))) ∨
    ∃ data place, Payload text hex data ∧ world.tree.resolveNew world.cwd path = .ok place ∧
      ∀ shell, run (Handle.hostBy shell) style (.save path text hex) (world, ()) =
        (.ok (.text (savedLine style data.length path)),
          ({ world with tree := world.tree.write place data }, ())) := by
  cases hpayload : savePayload text hex with
  | error failure =>
      refine .inl ⟨failure, fun shell => run_of_requestOf_error ?_ shell style world⟩
      rw [requestOf, hpayload, Except.map]
  | ok data =>
      have hr : requestOf (.save path text hex) = .ok (.save path data) := by
        rw [requestOf, hpayload, Except.map]
      have hrun : ∀ shell, run (Handle.hostBy shell) style (.save path text hex) (world, ()) = _ :=
        fun shell => run_hostBy hr shell style world
      simp only [Host.ask_save] at hrun
      cases hplace : world.tree.resolveNew world.cwd path with
      | error fault =>
          rw [hplace] at hrun
          exact .inl ⟨_, hrun⟩
      | ok place =>
          rw [hplace] at hrun
          exact .inr ⟨data, place, payload_of_savePayload hpayload, rfl, hrun⟩

/-- A command line with a NUL fails and leaves the world alone; any other one is started, once. -/
lemma run_system (line : String) (style : Style) (world : World) :
    (∃ failure, ∀ shell, run (Handle.hostBy shell) style (.system line) (world, ()) =
      (.error failure, (world, ()))) ∨
    ∀ shell, run (Handle.hostBy shell) style (.system line) (world, ()) =
      (.ok (.exit (shell line world).1), ((shell line world).2, ())) := by
  have hrun : ∀ shell, run (Handle.hostBy shell) style (.system line) (world, ()) = _ :=
    fun shell => run_hostBy rfl shell style world
  by_cases hnul : '\x00' ∈ line.toList
  · refine .inl ⟨.primitive (.io .nulInCommand), fun shell => ?_⟩
    rw [hrun, Host.ask_system_of_nul hnul]
    rfl
  · refine .inr fun shell => ?_
    have hstatus : (shell line world).1.toInt64.toInt32 = (shell line world).1 :=
      Int32.toInt32_toInt64 _
    rw [hrun, Host.ask_system_of_no_nul hnul]
    show (Except.ok (Outcome.exit (shell line world).1.toInt64.toInt32), _) = _
    rw [hstatus]

end

/-! ### Commands -/

/-- What a command does to the world, whatever the shell is. -/
inductive Effect (invocation : Invocation) (world : World) : Prop where
  /-- Nothing; a save or a command line has then failed. -/
  | nothing (result : Except Failure Outcome)
      (does : ∀ shell, executeBy shell invocation world = (result, world))
      (fails : invocation.command.Acts → ∃ failure, result = .error failure)
  /-- It writes a payload where the path of a save leads. -/
  | save {path : String} {text hex : Option String} {data : Bytes} {place : Place}
      (command : invocation.command = .primitive (.save path text hex))
      (payload : Payload text hex data)
      (resolves : world.tree.resolveNew world.cwd path = .ok place)
      (does : ∀ shell, executeBy shell invocation world =
        (.ok (.text (savedLine (Style.ofWorld world) data.length path)),
          { world with tree := world.tree.write place data }))
  /-- It starts a command line, once. -/
  | start {line : String} (command : invocation.command = .primitive (.system line))
      (does : ∀ shell, executeBy shell invocation world =
        (.ok (.exit (shell line world).1), (shell line world).2))

lemma effect_of_run {path identity : Option String} {verbose : Bool} {command : PrimitiveCommand}
    {world : World}
    (h : ∀ shell, executeBy shell ⟨path, identity, verbose, .primitive command⟩ world =
      ((run (Handle.hostBy shell) (Style.ofWorld world) command (world, ())).1,
        (run (Handle.hostBy shell) (Style.ofWorld world) command (world, ())).2.1)) :
    Effect ⟨path, identity, verbose, .primitive command⟩ world := by
  rcases save_or_system_or_not_acts command with ⟨file, text, hex, rfl⟩ | ⟨line, rfl⟩ | hacts
  · rcases run_save file text hex (Style.ofWorld world) world with
      ⟨failure, hrun⟩ | ⟨data, place, hpayload, hplace, hrun⟩
    · simp only [hrun] at h
      exact .nothing _ h fun _ => ⟨failure, rfl⟩
    · simp only [hrun] at h
      exact .save rfl hpayload hplace h
  · rcases run_system line (Style.ofWorld world) world with ⟨failure, hrun⟩ | hrun
    · simp only [hrun] at h
      exact .nothing _ h fun _ => ⟨failure, rfl⟩
    · simp only [hrun] at h
      exact .start rfl h
  · obtain ⟨result, hrun⟩ := run_of_not_acts hacts (Style.ofWorld world) world
    simp only [hrun] at h
    exact .nothing result h fun hdoes => absurd hdoes hacts

/-- **What a command can do**: nothing, save one file, or start one command line. -/
lemma effect (invocation : Invocation) (world : World) : Effect invocation world := by
  obtain ⟨path, identity, verbose, command⟩ := invocation
  cases hload : loadConfig world path with
  | error fault =>
      exact .nothing _ (executeBy_of_unreadable hload verbose command) fun _ => ⟨_, rfl⟩
  | ok found =>
      obtain ⟨source, config⟩ := found
      cases command with
      | detect => exact .nothing _ (executeBy_detect hload verbose) nofun
      | config template => exact .nothing _ (executeBy_config hload verbose template) nofun
      | primitive command =>
          cases henv : Handle.environmentIn world config identity with
          | selfHosted =>
              exact .nothing _ (executeBy_of_selfHosted hload henv verbose command)
                fun _ => ⟨_, rfl⟩
          | host => exact effect_of_run (executeBy_of_host hload henv verbose command)

/-- The command leaves the world as it was and starts nothing: with every shell it gives the same
result and leaves the same world. -/
structure LeavesNoTrace (invocation : Invocation) (world : World) : Prop where
  unchanged : (execute invocation world).2 = world
  starts_nothing : ∀ shell, executeBy shell invocation world = ((execute invocation world).1, world)

/-- The second world differs from the first in one file at most, that to which the path leads.  This
one holds the bytes, unless it is the device, which holds nothing. -/
structure SavesOnly (before after : World) (path : String) (data : Bytes) (place : Place) :
    Prop where
  rest : after = { before with tree := after.tree }
  leads : after.tree.resolve before.cwd path = .ok place
  others : ∀ other, other ≠ place → after.tree.viewAt other = before.tree.viewAt other
  holds : before.tree.viewAt place ≠ some .device → after.tree.viewAt place = some (.file data)
  device : before.tree.viewAt place = some .device → after = before

lemma savesOnly_write {world : World} {path : String} {place : Place}
    (h : world.tree.resolveNew world.cwd path = .ok place) (data : Bytes) :
    SavesOnly world { world with tree := world.tree.write place data } path data place where
  rest := rfl
  leads := Node.resolve_write data h
  others other hother := by
    show (world.tree.write place data).viewAt other = _
    rw [Node.viewAt_write (Node.canWrite_of_resolveNew h), if_neg hother]
  holds hdevice := by
    show (world.tree.write place data).viewAt place = _
    rw [Node.viewAt_write (Node.canWrite_of_resolveNew h), if_pos rfl, Node.View.write,
      if_neg hdevice]
  device hdevice := by
    obtain ⟨node, hnode, hview⟩ := Option.map_eq_some_iff.1 hdevice
    cases node with
    | null => simp only [Node.write, hnode]
    | file old => cases hview
    | dir children => cases hview

/-- **A failed command leaves no trace.**  Whatever the command, its options and the world, a
failure leaves the world as it was and starts no command line, and so does every success but that
of a save and of a command line.  A save that succeeds changes one file, that at its path, which
then holds the payload, unless the path leads to the null device: this takes every save and holds
nothing, and the whole world stays as it was.  In both cases the line that is printed tells the
length of the payload.  A command line that succeeds was started once, on the world as it was. -/
theorem failed_command_leaves_no_trace (invocation : Invocation) (world : World) :
    executeBy Shell.execute invocation world = execute invocation world ∧
    (∀ failure, (execute invocation world).1 = .error failure → LeavesNoTrace invocation world) ∧
    (¬invocation.command.Acts → LeavesNoTrace invocation world) ∧
    (∀ path text hex outcome, invocation.command = .primitive (.save path text hex) →
      (execute invocation world).1 = .ok outcome →
      (∀ shell, executeBy shell invocation world = execute invocation world) ∧
      ∃ data place, Payload text hex data ∧
        outcome = .text (savedLine (Style.ofWorld world) data.length path) ∧
        SavesOnly world (execute invocation world).2 path data place) ∧
    (∀ line outcome, invocation.command = .primitive (.system line) →
      (execute invocation world).1 = .ok outcome →
      ∀ shell, executeBy shell invocation world =
        (.ok (.exit (shell line world).1), (shell line world).2)) := by
  have hexec : executeBy Shell.execute invocation world = execute invocation world := rfl
  refine ⟨hexec, ?_⟩
  cases effect invocation world with
  | nothing result does fails =>
      rw [does] at hexec
      have htrace : LeavesNoTrace invocation world := by
        refine ⟨by rw [← hexec], fun shell => ?_⟩
        rw [does, ← hexec]
      refine ⟨fun _ _ => htrace, fun _ => htrace, ?_, ?_⟩
      · intro path text hex outcome hcommand hok
        obtain ⟨failure, rfl⟩ := fails (by rw [hcommand]; trivial)
        rw [← hexec] at hok
        cases hok
      · intro line outcome hcommand hok
        obtain ⟨failure, rfl⟩ := fails (by rw [hcommand]; trivial)
        rw [← hexec] at hok
        cases hok
  | @save path text hex data place command payload resolves does =>
      rw [does] at hexec
      refine ⟨?_, ?_, ?_, ?_⟩
      · intro failure hfailure
        rw [← hexec] at hfailure
        cases hfailure
      · intro hacts
        exact absurd (by rw [command]; trivial) hacts
      · intro path' text' hex' outcome hcommand hok
        rw [command] at hcommand
        cases hcommand
        rw [← hexec] at hok ⊢
        cases hok
        exact ⟨does, data, place, payload, rfl, savesOnly_write resolves data⟩
      · intro line outcome hcommand
        rw [command] at hcommand
        cases hcommand
  | @start line command does =>
      rw [does] at hexec
      refine ⟨?_, ?_, ?_, ?_⟩
      · intro failure hfailure
        rw [← hexec] at hfailure
        cases hfailure
      · intro hacts
        exact absurd (by rw [command]; trivial) hacts
      · intro path text hex outcome hcommand
        rw [command] at hcommand
        cases hcommand
      · intro line' outcome hcommand _
        rw [command] at hcommand
        cases hcommand
        exact does

/-- Three saves in a directory.  The first has the directory above as its target and the second has
text without bytes: both fail and leave no trace.  The third writes one byte. -/
theorem failed_saves_leave_no_trace :
    let world : World := { tree := .put .emptyDir ["d"] .emptyDir, cwd := ["d"] }
    let save (path text : String) : Invocation :=
      ⟨none, none, false, .primitive (.save path (some text) none)⟩
    (execute (save ".." "é") world).1 = .error (.primitive (.io .isADirectory)) ∧
    LeavesNoTrace (save ".." "é") world ∧
    (execute (save "f" "€") world).1 = .error (.primitive (.type (.wideCharacter ⟨'€', 0⟩))) ∧
    LeavesNoTrace (save "f" "€") world ∧
    (execute (save "f" "é") world).1 = .ok (.text (savedLine ⟨true⟩ 1 "f")) ∧
    SavesOnly world (execute (save "f" "é") world).2 "f" [0xE9] ["d", "f"] := by
  intro world save
  have hdirectory : (execute (save ".." "é") world).1 =
      .error (.primitive (.io .isADirectory)) := by decide +kernel
  have hwide : (execute (save "f" "€") world).1 =
      .error (.primitive (.type (.wideCharacter ⟨'€', 0⟩))) := by decide +kernel
  have hsaved : (execute (save "f" "é") world).1 = .ok (.text (savedLine ⟨true⟩ 1 "f")) := by
    decide +kernel
  refine ⟨hdirectory, (failed_command_leaves_no_trace _ world).2.1 _ hdirectory, hwide,
    (failed_command_leaves_no_trace _ world).2.1 _ hwide, hsaved, ?_⟩
  obtain ⟨-, -, -, hsaves, -⟩ := failed_command_leaves_no_trace (save "f" "é") world
  obtain ⟨-, data, place, hpayload, -, honly⟩ := hsaves "f" (some "é") none _ rfl hsaved
  have hplace : (execute (save "f" "é") world).2.tree.resolve world.cwd "f" = .ok ["d", "f"] := by
    decide +kernel
  cases hpayload with
  | text narrow hex =>
      have hleads := honly.leads
      rw [hplace] at hleads
      cases hleads
      exact honly

/-- A letter that is saved to the device: the save tells of one byte, and the device holds none. -/
theorem device_keeps_no_payload :
    let world : World := { tree := .put .emptyDir World.nullPlace .null }
    let save : Invocation := ⟨none, none, false, .primitive (.save "/dev/null" (some "a") none)⟩
    (execute save world).1 = .ok (.text (savedLine ⟨true⟩ 1 "/dev/null")) ∧
    (execute save world).2 = world ∧
    Payload (some "a") none [0x61] ∧
    world.tree.resolve world.cwd "/dev/null" = .ok World.nullPlace ∧
    (Host.primitives.load "/dev/null" world).1 = .ok [] ∧
    ¬∀ (invocation : Invocation) (world : World) (path : String) (text hex : Option String)
        (outcome : Outcome), invocation.command = .primitive (.save path text hex) →
      (execute invocation world).1 = .ok outcome →
      ∃ data place, Payload text hex data ∧
        (execute invocation world).2.tree.resolve world.cwd path = .ok place ∧
        (∀ other, other ≠ place →
          (execute invocation world).2.tree.viewAt other = world.tree.viewAt other) ∧
        (execute invocation world).2.tree.viewAt place = some (.file data) := by
  intro world save
  have hload : loadConfig world none = .ok (none, {}) := by decide +kernel
  have henv : Handle.environmentIn world {} none = .host := by decide +kernel
  have hnew : world.tree.resolveNew world.cwd "/dev/null" = .ok World.nullPlace := by
    decide +kernel
  have hplace : world.tree.resolve world.cwd "/dev/null" = .ok World.nullPlace := by
    decide +kernel
  have hdevice : world.tree.viewAt World.nullPlace = some .device := by decide +kernel
  have hnarrow : Text.Latin1.Narrow "a".toList := by simp [Text.Latin1.Narrow]
  have hok : (execute save world).1 = .ok (.text (savedLine ⟨true⟩ 1 "/dev/null")) := by
    decide +kernel
  have hafter : (execute save world).2 = world := by
    rw [execute, executeBy_of_host hload henv, run_hostBy rfl, Host.ask_save, hnew]
    exact (savesOnly_write hnew [0x61]).device hdevice
  refine ⟨hok, hafter, .text hnarrow none, hplace, by decide +kernel, fun hall => ?_⟩
  obtain ⟨data, place, -, hleads, -, hholds⟩ := hall save world _ _ _ _ rfl hok
  rw [hafter, hplace] at hleads
  cases hleads
  rw [hafter, hdevice] at hholds
  cases hholds

end CommandLine

end BootLayer
