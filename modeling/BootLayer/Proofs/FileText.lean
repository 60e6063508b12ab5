import Mathlib.Tactic.Common
import BootLayer.Proofs.Effects
import BootLayer.Proofs.Join
import BootLayer.Proofs.Process
import BootLayer.Proofs.Utf8

/-!
Files as text.

Text is read from the bytes that are loaded, as UTF-8, but it is saved with one byte a character.

* `read_of_load`, `read_of_load_error`: what can be read follows from what can be loaded.
* `read_agrees_with_load`: a file is read exactly if its bytes are well-formed UTF-8, as the text
  that they encode, and the program shows for it the very bytes that it loads.
* `savesOnly_of_host_call`, `host_call_read_eq_iff`: what saving text leaves, and that a file with
  one byte a character is read as that text exactly if it is ASCII.
* `saved_text_reads_back_iff_ascii`: saved text reads back exactly if it is ASCII, but for the
  device, which holds nothing (`device_loses_text`).
-/

namespace BootLayer

open Text.Utf8 (IsScalar scalarBytes WellFormed Ascii)

/-! ### Loading and reading -/

namespace Host

section

variable {path : String} {world : World}

/-- A file that cannot be loaded cannot be read either, for the same reason. -/
lemma read_of_load_error {e : Error} (h : (primitives.load path world).1 = .error e) :
    (∃ fault, e = .io fault) ∧ (primitives.read path world).1 = .error e := by
  change (world.tree.load world.cwd path).mapError Error.io = _ at h
  show _ ∧ (world.tree.read world.cwd path).mapError Error.io = _
  rw [Node.read]
  cases hload : world.tree.load world.cwd path with
  | ok data =>
      rw [hload] at h
      cases h
  | error fault =>
      rw [hload] at h
      cases h
      exact ⟨⟨fault, rfl⟩, rfl⟩

/-- A file that can be loaded is read by decoding its bytes. -/
lemma read_of_load {data : Bytes} (h : (primitives.load path world).1 = .ok data) :
    (primitives.read path world).1 =
      match Text.Utf8.decode data with
      | some text => .ok text
      | none => .error (.io .notUtf8) := by
  change (world.tree.load world.cwd path).mapError Error.io = _ at h
  show (world.tree.read world.cwd path).mapError Error.io = _
  rw [Node.read]
  cases hload : world.tree.load world.cwd path with
  | error fault =>
      rw [hload] at h
      cases h
  | ok data' =>
      rw [hload] at h
      cases h
      cases hdecode : Text.Utf8.decode data <;> simp only [hdecode] <;> rfl

lemma read_eq_ok_iff {data : Bytes} (h : (primitives.load path world).1 = .ok data)
    {text : String} :
    (primitives.read path world).1 = .ok text ↔ Text.Utf8.decode data = some text := by
  rw [read_of_load h]
  cases Text.Utf8.decode data <;> simp

/-- Whatever can be read can be loaded, as its encoding. -/
lemma load_of_read {text : String} (h : (primitives.read path world).1 = .ok text) :
    (primitives.load path world).1 = .ok (Text.Utf8.encode text) := by
  cases hload : (primitives.load path world).1 with
  | error e =>
      rw [(read_of_load_error hload).2] at h
      cases h
  | ok data => rw [Text.Utf8.encode_decode ((read_eq_ok_iff hload).1 h)]

end

end Host

/-! ### The program -/

namespace CommandLine

/-- A file that can be read is shown with the bytes of its text. -/
lemma run_read {path text : String} {world : World}
    (h : (Host.primitives.read path world).1 = .ok text) (style : Style) :
    run (Handle.host : Handle Unit) style (.read path) (world, ()) =
      (.ok (.bytes (Text.Utf8.encode text)), (world, ())) := by
  rw [run_hostBy rfl]
  show (((Except.map Value.str (Host.primitives.read path world).1).map _).mapError _, _) = _
  rw [h]
  rfl

lemma run_read_error {path : String} {e : Error} {world : World}
    (h : (Host.primitives.read path world).1 = .error e) (style : Style) :
    run (Handle.host : Handle Unit) style (.read path) (world, ()) =
      (.error (.primitive e), (world, ())) := by
  rw [run_hostBy rfl]
  show (((Except.map Value.str (Host.primitives.read path world).1).map _).mapError _, _) = _
  rw [h]
  rfl

/-- A file that can be loaded is shown with the bytes that it holds, raw or in digits. -/
lemma run_load {path : String} {data : Bytes} {world : World}
    (h : (Host.primitives.load path world).1 = .ok data) (raw : Bool) (style : Style) :
    run (Handle.host : Handle Unit) style (.load path raw) (world, ()) =
      (.ok (bytesOutcome raw data), (world, ())) := by
  rw [run_hostBy rfl]
  show (((Except.map Value.bytes (Host.primitives.load path world).1).map _).mapError _, _) = _
  rw [h]
  rfl

section

variable {words : List String} {config identity : Option String} {verbose : Bool}
  {command : PrimitiveCommand} {world : World}

/-- A primitive command that gives bytes on the host writes them. -/
lemma emits_of_run {data : Bytes}
    (hwords : readArguments words = .ok ⟨config, identity, verbose, .primitive command⟩)
    (hhost : HostSelected world config identity)
    (hrun : run (Handle.host : Handle Unit) (Style.ofWorld (started world words)) command
      (started world words, ()) = (.ok (.bytes data), (started world words, ()))) :
    Emits world words data := runProcess_of_run hwords hhost hrun

/-- A primitive command that ends with status zero was run on the host and did not fail. -/
lemma ok_of_status_zero
    (hwords : readArguments words = .ok ⟨config, identity, verbose, .primitive command⟩)
    (hstatus : (runProcess (started world words)).1 = 0) :
    HostSelected world config identity ∧
      ∃ outcome, (run (Handle.host : Handle Unit) (Style.ofWorld (started world words)) command
        (started world words, ())).1 = .ok outcome := by
  have hargv : (started world words).argv.drop 1 = words := rfl
  rw [runProcess, hargv, hwords] at hstatus
  rcases execute_primitive config identity verbose command (started world words) with
    ⟨hhost, hexec⟩ | ⟨-, failure, hexec⟩
  · refine ⟨hhost, ?_⟩
    simp only [hexec] at hstatus
    cases hrun : (run (Handle.host : Handle Unit) (Style.ofWorld (started world words)) command
        (started world words, ())).1 with
    | ok outcome => exact ⟨outcome, rfl⟩
    | error failure =>
        rw [hrun] at hstatus
        cases hstatus
  · simp only [hexec] at hstatus
    cases hstatus

end

/-- **What the program shows when it reads a file it also shows when it loads the file raw.** -/
lemma emits_of_read {words words' : List String} {config identity : Option String}
    {verbose verbose' : Bool} {path : String} {world : World}
    (hread : readArguments words = .ok ⟨config, identity, verbose, .primitive (.read path)⟩)
    (hload : readArguments words' =
      .ok ⟨config, identity, verbose', .primitive (.load path true)⟩)
    (hstatus : (runProcess (started world words)).1 = 0) :
    ∃ data, Emits world words data ∧ Emits world words' data := by
  obtain ⟨hhost, outcome, hrun⟩ := ok_of_status_zero hread hstatus
  -- neither primitive looks at the words that the program was started with
  have hsame : ∀ words, (Host.primitives.read path (started world words)).1 =
      (Host.primitives.read path world).1 := fun _ => rfl
  cases hresult : (Host.primitives.read path world).1 with
  | error e =>
      rw [run_read_error ((hsame words).trans hresult)] at hrun
      cases hrun
  | ok text =>
      refine ⟨Text.Utf8.encode text, emits_of_run hread hhost (run_read ?_ _),
        emits_of_run hload hhost (run_load ?_ true _)⟩
      · exact (hsame words).trans hresult
      · exact Host.load_of_read ((hsame words').trans hresult)

end CommandLine

open CommandLine (readArguments runProcess started Emits)

/-- **Reading a file agrees with loading it.**  If it cannot be loaded then it cannot be read, with
the same error.  If it can, then it is read exactly if its bytes are those of a sequence of scalar
values, which can be told from the bytes alone: there is no overlong form, no surrogate, no sequence
that breaks off and nothing above U+10FFFF.  The text has these bytes as its encoding, so what the
program writes when it reads a file is what it writes when it loads the file raw. -/
theorem read_agrees_with_load (world : World) (path : String) :
    (∀ e, (Host.primitives.load path world).1 = .error e →
      (∃ fault, e = .io fault) ∧ (Host.primitives.read path world).1 = .error e) ∧
    (∀ data, (Host.primitives.load path world).1 = .ok data →
      ((∃ text, (Host.primitives.read path world).1 = .ok text) ↔
        ∃ ns : List Nat, (∀ n ∈ ns, IsScalar n) ∧
          data.map UInt8.toNat = ns.flatMap scalarBytes) ∧
      ((∃ text, (Host.primitives.read path world).1 = .ok text) ↔
        WellFormed (data.map UInt8.toNat)) ∧
      (¬WellFormed (data.map UInt8.toNat) →
        (Host.primitives.read path world).1 = .error (.io .notUtf8)) ∧
      ∀ text, (Host.primitives.read path world).1 = .ok text →
        Text.Utf8.encode text = data ∧
        data.map UInt8.toNat = text.toList.flatMap fun c => scalarBytes c.toNat) ∧
    (readArguments ["read", "--", path] = .ok ⟨none, none, false, .primitive (.read path)⟩ ∧
      readArguments ["load", "--raw", "--", path] =
        .ok ⟨none, none, false, .primitive (.load path true)⟩) ∧
    ∀ words words' config identity verbose verbose',
      readArguments words = .ok ⟨config, identity, verbose, .primitive (.read path)⟩ →
      readArguments words' = .ok ⟨config, identity, verbose', .primitive (.load path true)⟩ →
      (runProcess (started world words)).1 = 0 →
      ∃ data, Emits world words data ∧ Emits world words' data := by
  refine ⟨fun e h => Host.read_of_load_error h, fun data h => ?_,
    ⟨CommandLine.readArguments_read path, CommandLine.readArguments_load_raw path⟩, ?_⟩
  · have hreads : (∃ text, (Host.primitives.read path world).1 = .ok text) ↔
        WellFormed (data.map UInt8.toNat) := by
      simp only [Host.read_eq_ok_iff h, Text.Utf8.exists_decode_iff]
    refine ⟨hreads.trans Text.Utf8.wellFormed_iff, hreads, fun hnot => ?_, fun text htext => ?_⟩
    · have hnone : Text.Utf8.decode data = none :=
        Option.eq_none_iff_forall_ne_some.2 fun text htext =>
          hnot (Text.Utf8.exists_decode_iff.1 ⟨text, htext⟩)
      rw [Host.read_of_load h, hnone]
    · have hdecode := (Host.read_eq_ok_iff h).1 htext
      exact ⟨Text.Utf8.encode_decode hdecode, Text.Utf8.decode_eq_some_iff.1 hdecode⟩
  · intro words words' config identity verbose verbose' hread hload hstatus
    exact CommandLine.emits_of_read hread hload hstatus

/-- A file of one sign of three bytes, one of the bytes of a surrogate, and none. -/
theorem sign_surrogate_and_missing_file :
    let sign : Bytes := [0xE2, 0x82, 0xAC]
    let surrogate : Bytes := [0xED, 0xA0, 0x80]
    let world : World :=
      { tree := .put (.put .emptyDir ["f"] (.file sign)) ["g"] (.file surrogate) }
    (Host.primitives.load "h" world).1 = .error (.io .notFound) ∧
    (Host.primitives.read "h" world).1 = .error (.io .notFound) ∧
    (Host.primitives.load "g" world).1 = .ok surrogate ∧
    ¬WellFormed (surrogate.map UInt8.toNat) ∧
    (Host.primitives.read "g" world).1 = .error (.io .notUtf8) ∧
    (Host.primitives.load "f" world).1 = .ok sign ∧
    (∃ text, (Host.primitives.read "f" world).1 = .ok text ∧ Text.Utf8.encode text = sign) ∧
    (runProcess (started world ["read", "--", "f"])).1 = 0 ∧
    ∃ data, Emits world ["read", "--", "f"] data ∧
      Emits world ["load", "--raw", "--", "f"] data := by
  intro sign surrogate world
  have hmissing : (Host.primitives.load "h" world).1 = .error (.io .notFound) := by decide +kernel
  have hsurrogate : (Host.primitives.load "g" world).1 = .ok surrogate := by decide +kernel
  have hsign : (Host.primitives.load "f" world).1 = .ok sign := by decide +kernel
  have hstatus : (runProcess (started world ["read", "--", "f"])).1 = 0 := by decide +kernel
  have hbad : ¬WellFormed (surrogate.map UInt8.toNat) := by
    rw [← Text.Utf8.exists_decode_iff]
    have hnone : Text.Utf8.decode surrogate = none := by decide +kernel
    simp [hnone]
  have hunit : Text.Utf8.IsSequence [0xE2, 0x82, 0xAC] :=
    .three (by decide) ⟨by decide, by decide⟩ ⟨by decide, by decide⟩ (by decide) (by decide)
  have hgood : WellFormed (sign.map UInt8.toNat) := .cons hunit .nil
  obtain ⟨hreads, -⟩ := read_agrees_with_load world "h"
  obtain ⟨-, hrefused, -⟩ := read_agrees_with_load world "g"
  obtain ⟨-, hread, ⟨hline, hline'⟩, hprogram⟩ := read_agrees_with_load world "f"
  obtain ⟨-, hwellFormed, -, hencodes⟩ := hread sign hsign
  obtain ⟨text, htext⟩ := hwellFormed.2 hgood
  exact ⟨hmissing, (hreads _ hmissing).2, hsurrogate, hbad,
    (hrefused surrogate hsurrogate).2.2.1 hbad, hsign, ⟨text, htext, (hencodes text htext).1⟩,
    hstatus, hprogram _ _ _ _ _ _ hline hline' hstatus⟩

/-! ### Saving text and reading it -/

section

variable {ι : Type} {path text : String}

lemma host_call_read (path : String) (s : World × ι) :
    (Handle.host.call "read" [.str path] s).1 =
      (Host.primitives.read path s.1).1.map Value.str := by
  have hread : Call.on ⟨"read", [.str path]⟩ (s.1, s.2) = _ :=
    Call.on_of_accepts (.read path) s.1 s.2
  exact congrArg Prod.fst hread

/-- Narrow text is saved with one byte a character where its path leads. -/
lemma host_call_save_narrow (hnarrow : Text.Latin1.Narrow text.toList) (world : World) (i : ι) :
    Handle.host.call "save" [.str path, .str text] (world, i) =
      match world.tree.resolveNew world.cwd path with
      | .ok place =>
        (.ok .none, ({ world with
          tree := world.tree.write place (text.toList.map Text.Latin1.byte) }, i))
      | .error fault => (.error (.io fault), (world, i)) := by
  have hcall : Call.on ⟨"save", [.str path, .str text]⟩ (world, i) = _ :=
    Call.on_of_accepts (.saveText path text hnarrow) world i
  rw [Host.ask_save] at hcall
  refine hcall.trans ?_
  cases world.tree.resolveNew world.cwd path <;> rfl

lemma host_call_save_wide {before rest : List Char} {c : Char}
    (htext : text.toList = before ++ c :: rest) (hnarrow : Text.Latin1.Narrow before)
    (hc : 0xFF < c.toNat) (s : World × ι) :
    Handle.host.call "save" [.str path, .str text] s =
      (.error (.type (.wideCharacter ⟨c, before.length⟩)), s) := by
  rw [Handle.call, Primitives.call_eq, Request.ofCall_of_refuses (.wide htext hnarrow hc)]

/-- Saving text succeeds for narrow text only, and then changes one file. -/
lemma savesOnly_of_host_call {world : World} {i : ι} {value : Value} {after : World × ι}
    (h : Handle.host.call "save" [.str path, .str text] (world, i) = (.ok value, after)) :
    Text.Latin1.Narrow text.toList ∧ after.2 = i ∧
      ∃ place, CommandLine.SavesOnly world after.1 path (text.toList.map Text.Latin1.byte)
        place := by
  rcases Text.Latin1.narrow_or_wide text.toList with hnarrow | ⟨_, _, _, htext, hnarrow, hc⟩
  · rw [host_call_save_narrow hnarrow] at h
    cases hplace : world.tree.resolveNew world.cwd path with
    | error fault =>
        rw [hplace] at h
        cases h
    | ok place =>
        rw [hplace] at h
        cases h
        exact ⟨hnarrow, rfl, place, CommandLine.savesOnly_write hplace _⟩
  · rw [host_call_save_wide htext hnarrow hc] at h
    cases h

/-- What can be loaded where a file was saved. -/
lemma load_of_savesOnly {before after : World} {data : Bytes} {place : Place}
    (h : CommandLine.SavesOnly before after path data place) {contents : Bytes}
    (hview : (after.tree.viewAt place).bind Node.View.contents? = some contents) :
    (Host.primitives.load path after).1 = .ok contents := by
  have hcwd : after.cwd = before.cwd := by rw [h.rest]
  have hload : after.tree.load after.cwd path = .ok contents := by
    rw [Node.load_eq_ok_iff, hcwd]
    exact ⟨place, h.leads, hview⟩
  show (after.tree.load after.cwd path).mapError Error.io = _
  rw [hload]
  rfl

lemma host_call_read_ascii {s : World × ι}
    (hload : (Host.primitives.load path s.1).1 = .ok (text.toList.map Text.Latin1.byte))
    (hascii : Ascii text.toList) :
    (Handle.host.call "read" [.str path] s).1 = .ok (.str text) := by
  rw [host_call_read, Host.read_of_load hload, Text.Utf8.decode_latin1_ascii hascii]
  rfl

/-- A file with one byte a character is refused or read as a shorter text, unless it is ASCII. -/
lemma host_call_read_of_not_ascii {s : World × ι}
    (hload : (Host.primitives.load path s.1).1 = .ok (text.toList.map Text.Latin1.byte))
    (hnarrow : Text.Latin1.Narrow text.toList) (hnot : ¬Ascii text.toList) :
    (Handle.host.call "read" [.str path] s).1 = .error (.io .notUtf8) ∨
    ∃ shorter, (Handle.host.call "read" [.str path] s).1 = .ok (.str shorter) ∧
      shorter ≠ text ∧ shorter.length < text.length := by
  have hread := host_call_read path s
  rw [Host.read_of_load hload] at hread
  cases hdecode : Text.Utf8.decode (text.toList.map Text.Latin1.byte) with
  | none =>
      rw [hdecode] at hread
      exact .inl hread
  | some shorter =>
      rw [hdecode] at hread
      have hlength := Text.Utf8.length_lt_of_decode_latin1 hnarrow hnot hdecode
      refine .inr ⟨shorter, hread, ?_, hlength⟩
      rintro rfl
      exact lt_irrefl _ hlength

/-- A file with one byte a character is read as the text exactly if that is ASCII. -/
lemma host_call_read_eq_iff {s : World × ι}
    (hload : (Host.primitives.load path s.1).1 = .ok (text.toList.map Text.Latin1.byte))
    (hnarrow : Text.Latin1.Narrow text.toList) :
    (Handle.host.call "read" [.str path] s).1 = .ok (.str text) ↔ Ascii text.toList := by
  refine ⟨fun hback => ?_, host_call_read_ascii hload⟩
  by_contra hnot
  rcases host_call_read_of_not_ascii hload hnarrow hnot with herror | ⟨shorter, hshorter, hne, -⟩
  · rw [hback] at herror
    cases herror
  · rw [hback] at hshorter
    exact hne (Value.str.inj (Except.ok.inj hshorter)).symm

end

/-- **Saved text reads back exactly if it is ASCII.**  After text is saved its path leads to a file
that holds what the text alone is joined to.  It is read as the same text exactly if each character
is below U+0080; any other text is refused as no UTF-8, or read as a shorter one.  Only the device
takes the text and holds nothing: it stays as it was, and is read as the empty text. -/
theorem saved_text_reads_back_iff_ascii {ι : Type} (world : World) (i : ι) (path text : String)
    (value : Value) (after : World × ι)
    (h : Handle.host.call "save" [.str path, .str text] (world, i) = (.ok value, after)) :
    ∃ place data, after.1.tree.resolve after.1.cwd path = .ok place ∧
      Host.primitives.join [.str text] world = (.ok data, world) ∧
      (world.tree.viewAt place ≠ some .device →
        after.1.tree.viewAt place = some (.file data) ∧
        ((Handle.host.call "read" [.str path] after).1 = .ok (.str text) ↔ Ascii text.toList) ∧
        (¬Ascii text.toList →
          (Handle.host.call "read" [.str path] after).1 = .error (.io .notUtf8) ∨
          ∃ shorter, (Handle.host.call "read" [.str path] after).1 = .ok (.str shorter) ∧
            shorter ≠ text ∧ shorter.length < text.length)) ∧
      (world.tree.viewAt place = some .device →
        after = (world, i) ∧
        (Handle.host.call "read" [.str path] after).1 = .ok (.str "")) := by
  obtain ⟨hnarrow, hi, place, hsaves⟩ := savesOnly_of_host_call h
  have hcwd : after.1.cwd = world.cwd := by rw [hsaves.rest]
  refine ⟨place, text.toList.map Text.Latin1.byte, ?_, ?_, fun hfile => ?_, fun hdevice => ?_⟩
  · rw [hcwd]
    exact hsaves.leads
  · exact Host.primitives_join_eq_ok_iff.2 ⟨_, .cons (.text hnarrow) .nil, by simp⟩
  · have hview := hsaves.holds hfile
    have hload := load_of_savesOnly hsaves (by rw [hview]; rfl)
    exact ⟨hview, host_call_read_eq_iff hload hnarrow, host_call_read_of_not_ascii hload hnarrow⟩
  · have hafter := hsaves.device hdevice
    refine ⟨Prod.ext hafter hi, ?_⟩
    have hview : (after.1.tree.viewAt place).bind Node.View.contents? = some [] := by
      rw [hafter, hdevice]
      rfl
    have hload := load_of_savesOnly hsaves hview
    have hempty : Text.Utf8.decode [] = some "" := by decide +kernel
    rw [host_call_read, Host.read_of_load hload, hempty]
    rfl

/-- Two characters whose bytes happen to be the UTF-8 of one character. -/
theorem two_accents_read_as_one :
    let world : World := { tree := .emptyDir }
    let after : World × Unit := ({ world with tree := world.tree.write ["f"] [0xC3, 0xA9] }, ())
    Handle.host.call "save" [.str "f", .str "Ã©"] (world, ()) = (.ok .none, after) ∧
    world.tree.viewAt ["f"] ≠ some .device ∧
    after.1.tree.viewAt ["f"] = some (.file [0xC3, 0xA9]) ∧
    ¬Ascii "Ã©".toList ∧
    (Handle.host.call "read" [.str "f"] after).1 = .ok (.str "é") ∧
    "é".length < "Ã©".length := by
  intro world after
  have hnew : world.tree.resolveNew world.cwd "f" = .ok ["f"] := by decide +kernel
  have hsave : Handle.host.call "save" [.str "f", .str "Ã©"] (world, ()) = (.ok .none, after) := by
    rw [host_call_save_narrow (by simp [Text.Latin1.Narrow]), hnew]
    rfl
  have hfile : world.tree.viewAt ["f"] ≠ some .device := by decide
  have hascii : ¬Ascii "Ã©".toList := fun h => absurd (h 'Ã' (by decide)) (by decide)
  have htext : (Host.primitives.read "f" after.1).1 = .ok "é" := by decide +kernel
  have hread : (Handle.host.call "read" [.str "f"] after).1 = .ok (.str "é") := by
    rw [host_call_read, htext]
    rfl
  obtain ⟨place, data, hplace, hjoin, hheld, -⟩ :=
    saved_text_reads_back_iff_ascii world () "f" "Ã©" .none after hsave
  have hleads : after.1.tree.resolve after.1.cwd "f" = .ok ["f"] := by decide +kernel
  have hdata : Host.primitives.join [.str "Ã©"] world = (.ok [0xC3, 0xA9], world) := rfl
  rw [hleads] at hplace
  rw [hdata] at hjoin
  cases hplace
  cases hjoin
  obtain ⟨hview, -, hwide⟩ := hheld hfile
  refine ⟨hsave, hfile, hview, hascii, hread, ?_⟩
  rcases hwide hascii with herror | ⟨shorter, hshorter, -, hlength⟩
  · rw [hread] at herror
    cases herror
  · rw [hread] at hshorter
    cases hshorter
    exact hlength

/-- A letter that is saved to the device is not read back, ASCII though it is. -/
theorem device_loses_text :
    let world : World := { tree := .put .emptyDir ["dev", "null"] .null }
    Handle.host.call "save" [.str "/dev/null", .str "a"] (world, ()) = (.ok .none, (world, ())) ∧
    Ascii "a".toList ∧
    (Handle.host.call "read" [.str "/dev/null"] (world, ())).1 = .ok (.str "") ∧
    ¬∀ (world : World) (path text : String) (after : World × Unit),
      Handle.host.call "save" [.str path, .str text] (world, ()) = (.ok .none, after) →
      ((Handle.host.call "read" [.str path] after).1 = .ok (.str text) ↔ Ascii text.toList) := by
  intro world
  have hnew : world.tree.resolveNew world.cwd "/dev/null" = .ok ["dev", "null"] := by
    decide +kernel
  have hsave : Handle.host.call "save" [.str "/dev/null", .str "a"] (world, ()) =
      (.ok .none, (world, ())) := by
    rw [host_call_save_narrow (by simp [Text.Latin1.Narrow]), hnew]
    rfl
  have hascii : Ascii "a".toList := by simp [Ascii]
  have hempty : (Host.primitives.read "/dev/null" world).1 = .ok "" := by decide +kernel
  have hread : (Handle.host.call "read" [.str "/dev/null"] (world, ())).1 = .ok (.str "") := by
    rw [host_call_read, hempty]
    rfl
  refine ⟨hsave, hascii, hread, fun hkept => ?_⟩
  have hback := (hkept world "/dev/null" "a" _ hsave).2 hascii
  rw [hread] at hback
  exact absurd (Value.str.inj (Except.ok.inj hback)) (by decide)

end BootLayer
