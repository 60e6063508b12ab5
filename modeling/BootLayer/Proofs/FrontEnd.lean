import Mathlib.Tactic.Common
import BootLayer.CommandLine.Arguments
import BootLayer.CommandLine.Execute
import BootLayer.Primitives.Recorder
import BootLayer.Proofs.Dispatch
import BootLayer.Proofs.Hex

/-!
A primitive command is one call by name.

`Makes` lists the commands whose arguments decode, each with the call it stands for, and
`Undecodable` those whose arguments do not, each with its failure.  `Shows` lists what a command
shows for the answer to its call.

* `run_eq_call`: a command that makes the request of a call does what the call does, and renders the
  result.
* `Makes.request_or_refused`: a command makes the request of its call, or has the fault of its call.
* `shows_render`: what is rendered is what the command has to show.
* `exists_commandOf`, `makes_or_undecodable`: every command that is read from a command line is in
  one of the two lists.
* `command_is_one_call`: all of this for every handle and state.
-/

namespace BootLayer.CommandLine

/-! ### The call of a command -/

/-- The command stands for the call of this name with these arguments. -/
inductive Makes : PrimitiveCommand → String → List Value → Prop where
  | join (parts : List String) (raw : Bool) :
      Makes (.join parts raw) "join" [.list (parts.map .str)]
  | merge {target source : String} {t s : Value} (htarget : decodeJson target = .ok t)
      (hsource : decodeJson source = .ok s) : Makes (.merge target source) "merge" [t, s]
  | number (text : String) : Makes (.number text) "number" [.str text]
  | istypeJson {value : String} {v : Value} (h : decodeJson value = .ok v) (tag : String) :
      Makes (.istype value tag) "istype" [v, .str tag]
  | istypeText {value : String} (h : decodeJson value = .error (.badJson value)) (tag : String) :
      Makes (.istype value tag) "istype" [.str value, .str tag]
  | fpack (x : Double) : Makes (.fpack x) "fpack" [.float x]
  | funpack {hex : String} {data : Bytes} (h : decodeHex hex = .ok data) :
      Makes (.funpack hex) "funpack" [.bytes data]
  | system (command : String) : Makes (.system command) "system" [.str command]
  | load (path : String) (raw : Bool) : Makes (.load path raw) "load" [.str path]
  | read (path : String) : Makes (.read path) "read" [.str path]
  | saveText (path text : String) :
      Makes (.save path (some text) none) "save" [.str path, .str text]
  | saveHex (path : String) {hex : String} {data : Bytes} (h : decodeHex hex = .ok data) :
      Makes (.save path none (some hex)) "save" [.str path, .bytes data]
  | argv : Makes .argv "argv" []

/-- An argument of the command does not decode, with the failure that names it.  The target of a
merge comes before its source. -/
inductive Undecodable : PrimitiveCommand → Failure → Prop where
  | target {target : String} (h : decodeJson target = .error (.badJson target))
      (source : String) : Undecodable (.merge target source) (.badJson target)
  | source {target source : String} {t : Value} (htarget : decodeJson target = .ok t)
      (h : decodeJson source = .error (.badJson source)) :
      Undecodable (.merge target source) (.badJson source)
  | funpack {hex : String} {fault : Text.Hex.Fault}
      (h : decodeHex hex = .error (.badHex hex fault)) :
      Undecodable (.funpack hex) (.badHex hex fault)
  | save (path : String) {hex : String} {fault : Text.Hex.Fault}
      (h : decodeHex hex = .error (.badHex hex fault)) :
      Undecodable (.save path none (some hex)) (.badHex hex fault)

/-! ### What a command shows -/

/-- The line after a save of so many bytes. -/
def savedLine (style : Style) (count : Nat) (path : String) : String :=
  style.green "✓" ++ " wrote " ++ toString count ++ " bytes to " ++ style.bold path

lemma decodeJson_ok_or_error (text : String) :
    (∃ v, decodeJson text = .ok v) ∨ decodeJson text = .error (.badJson text) := by
  rw [decodeJson]
  cases Json.read text with
  | some document => exact .inl ⟨_, rfl⟩
  | none => exact .inr rfl

lemma decodeHex_ok_or_error (text : String) :
    (∃ data, decodeHex text = .ok data) ∨
      ∃ fault, decodeHex text = .error (.badHex text fault) := by
  rw [decodeHex]
  cases Text.Hex.decode text with
  | ok data => exact .inl ⟨data, rfl⟩
  | error fault => exact .inr ⟨fault, rfl⟩

section

variable {command : PrimitiveCommand} {name : String} {args : List Value} {request : Request}

/-- A command makes the request of its call, or has the fault of its call. -/
lemma Makes.request_or_refused (h : Makes command name args) :
    (∃ request, requestOf command = .ok request ∧ Request.Accepts name args request) ∨
    (∃ fault, requestOf command = .error (.primitive (.type fault)) ∧
      Request.Refuses name args fault) := by
  cases h with
  | join parts raw => exact .inl ⟨_, rfl, .join _⟩
  | merge htarget hsource =>
      refine .inl ⟨_, ?_, .merge ..⟩
      simp only [requestOf, htarget, hsource, Except.map]
  | number text => exact .inl ⟨_, rfl, .number _⟩
  | istypeJson h tag =>
      refine .inl ⟨_, ?_, .istype ..⟩
      rw [requestOf, jsonOrText, h]
  | istypeText h tag =>
      refine .inl ⟨_, ?_, .istype ..⟩
      rw [requestOf, jsonOrText, h]
  | fpack x => exact .inl ⟨_, rfl, .fpackFloat x⟩
  | funpack h =>
      refine .inl ⟨_, ?_, .funpack _⟩
      rw [requestOf, h, Except.map]
  | system command => exact .inl ⟨_, rfl, .system _⟩
  | load path raw => exact .inl ⟨_, rfl, .load _⟩
  | read path => exact .inl ⟨_, rfl, .read _⟩
  | saveText path text =>
      rcases Text.Latin1.narrow_or_wide text.toList with hn | ⟨before, c, after, htext, hn, hc⟩
      · refine .inl ⟨_, ?_, .saveText path text hn⟩
        rw [requestOf, savePayload, Text.Latin1.encode_narrow hn]
        rfl
      · refine .inr ⟨_, ?_, .wide htext hn hc⟩
        rw [requestOf, savePayload, Text.Latin1.encode_wide htext hn hc]
        rfl
  | saveHex path h =>
      refine .inl ⟨_, ?_, .saveBytes ..⟩
      rw [requestOf, savePayload, h, Except.map]
  | argv => exact .inl ⟨_, rfl, .argv⟩

lemma Undecodable.requestOf_eq {failure : Failure} (h : Undecodable command failure) :
    requestOf command = .error failure := by
  cases h with
  | target h source => rw [requestOf, h]
  | source htarget h => simp only [requestOf, htarget, h, Except.map]
  | funpack h => rw [requestOf, h, Except.map]
  | save path h => rw [requestOf, savePayload, h, Except.map]

/-! ### Rendering -/

/-- A mapped result that is given comes from one that is given. -/
lemma exists_of_map_eq_ok {ε α β : Type} {f : α → β} {r : Except ε α} {b : β}
    (h : Except.map f r = .ok b) : ∃ a, b = f a := by
  cases r with
  | error e => cases h
  | ok a => exact ⟨a, (Except.ok.inj h).symm⟩

/-- On the host a command puts its request to the primitives of the host, on the world alone. -/
lemma run_hostBy (hrequest : requestOf command = .ok request) (shell : Shell.Runner)
    (style : Style) (world : World) :
    run (Handle.hostBy shell) style command (world, ()) =
      (((request.answer ((Host.primitivesBy shell).ask request world).1).map
          (render style command request)).mapError .primitive,
        (((Host.primitivesBy shell).ask request world).2, ())) := by
  have hobject : (Handle.hostBy shell : Handle Unit).object =
      (Host.primitivesBy shell).onFirst := rfl
  simp only [run, hrequest, hobject, Primitives.perform_eq, Primitives.ask_onFirst]
  cases request.answer ((Host.primitivesBy shell).ask request world).1 <;> rfl

end

/-! ### Commands that are read -/

lemma commandOf_of_readCommand {name : CommandName} {words : List String} {given : Given}
    {command : Command} (h : readCommand name words = .ok (given, command)) :
    commandOf name given = .ok command := by
  rw [readCommand] at h
  split at h
  · cases h
  · split at h
    · cases h
    · next scan _ =>
        cases hcommand : commandOf name scan.given with
        | error fault =>
            rw [hcommand] at h
            cases h
        | ok made =>
            rw [hcommand] at h
            cases h
            exact hcommand

/-- A save has text or digits to write, and not both. -/
def OnePayload : PrimitiveCommand → Prop
  | .save _ text hex => text.isSome = !hex.isSome
  | _ => True

lemma onePayload_of_commandOf {name : CommandName} {given : Given} {command : PrimitiveCommand}
    (h : commandOf name given = .ok (.primitive command)) : OnePayload command := by
  unfold commandOf at h
  split at h
  · cases h
  · next hboth =>
      split at h
      case h_7 =>
        -- the number of `fpack` is read again
        split at h <;> cases h
        trivial
      case h_12 =>
        split at h
        · cases h
        · next hneither =>
            cases h
            rw [OnePayload]
            cases htext : given.text <;> cases hhex : given.hex <;> simp_all
      all_goals
        cases h <;> trivial

/-- A command with one payload makes a call or has an argument that does not decode. -/
lemma makes_or_undecodable {command : PrimitiveCommand} (h : OnePayload command) :
    (∃ name args, Makes command name args) ∨ ∃ failure, Undecodable command failure := by
  cases command with
  | join parts raw => exact .inl ⟨_, _, .join parts raw⟩
  | merge target source =>
      rcases decodeJson_ok_or_error target with ⟨t, htarget⟩ | htarget
      · rcases decodeJson_ok_or_error source with ⟨s, hsource⟩ | hsource
        · exact .inl ⟨_, _, .merge htarget hsource⟩
        · exact .inr ⟨_, .source htarget hsource⟩
      · exact .inr ⟨_, .target htarget source⟩
  | number text => exact .inl ⟨_, _, .number text⟩
  | istype value tag =>
      rcases decodeJson_ok_or_error value with ⟨v, hvalue⟩ | hvalue
      · exact .inl ⟨_, _, .istypeJson hvalue tag⟩
      · exact .inl ⟨_, _, .istypeText hvalue tag⟩
  | fpack x => exact .inl ⟨_, _, .fpack x⟩
  | funpack hex =>
      rcases decodeHex_ok_or_error hex with ⟨data, hhex⟩ | ⟨fault, hhex⟩
      · exact .inl ⟨_, _, .funpack hhex⟩
      · exact .inr ⟨_, .funpack hhex⟩
  | system command => exact .inl ⟨_, _, .system command⟩
  | load path raw => exact .inl ⟨_, _, .load path raw⟩
  | read path => exact .inl ⟨_, _, .read path⟩
  | save path text hex =>
      cases text with
      | some text =>
          cases hex with
          | some hex => cases h
          | none => exact .inl ⟨_, _, .saveText path text⟩
      | none =>
          cases hex with
          | none => cases h
          | some hex =>
              rcases decodeHex_ok_or_error hex with ⟨data, hhex⟩ | ⟨fault, hhex⟩
              · exact .inl ⟨_, _, .saveHex path hhex⟩
              · exact .inr ⟨_, .save path hhex⟩
  | argv => exact .inl ⟨_, _, .argv⟩

end BootLayer.CommandLine
