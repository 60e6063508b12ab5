import BootLayer.CommandLine.Command
import BootLayer.CommandLine.Style
import BootLayer.Handle
import BootLayer.Json.Printer
import BootLayer.Json.Reader
import BootLayer.Text.Hex
import BootLayer.Value.Display

/-!
Carrying out a command.  A primitive command is decoded into a request, the request is put to the
handle once, and the answer is rendered.  Nothing is asked before all arguments have been decoded
and the configuration has been read.
-/

namespace BootLayer.CommandLine

/-- What a command gives. -/
inductive Outcome where
  /-- Printed with a line break after it. -/
  | text (line : String)
  /-- Written to the output as it is. -/
  | bytes (data : Bytes)
  /-- The status with which the program ends. -/
  | exit (status : Int32)
  deriving DecidableEq, Repr

/-- Why a command fails. -/
inductive Failure where
  | config (fault : Config.Fault)
  | primitive (error : Error)
  | badHex (text : String) (fault : Text.Hex.Fault)
  /-- The text is no JSON. -/
  | badJson (text : String)
  | noPayload
  deriving DecidableEq, Repr

/-- What is shown for a failure; the last words on a text that is refused are its reader's. -/
def Failure.message (failure : Failure) (wording : Wording := {}) : String :=
  match failure with
  | config fault => fault.message wording
  | primitive error => error.message
  | badHex text fault => "invalid hex " ++ inTicks text ++ ": " ++ fault.message
  | badJson text => withWords ("invalid JSON " ++ inTicks text) (wording.json text)
  | noPayload => "save needs --text or --hex"

/-! ### Arguments -/

/-- The bytes of an argument in hexadecimal digits. -/
def decodeHex (text : String) : Except Failure Bytes :=
  (Text.Hex.decode text).mapError (.badHex text)

/-- The value of an argument in JSON. -/
def decodeJson (text : String) : Except Failure Value :=
  match Json.read text with
  | some document => .ok document.toValue
  | none => .error (.badJson text)

/-- The value of an argument that is JSON, or else plain text. -/
def jsonOrText (text : String) : Value :=
  match decodeJson text with
  | .ok value => value
  | .error _ => .str text

/-- The bytes that `save` is to write. -/
def savePayload (text hex : Option String) : Except Failure Bytes :=
  match text, hex with
  | some text, _ =>
    (Text.Latin1.encode text).mapError fun wide => .primitive (.type (.wideCharacter wide))
  | none, some hex => decodeHex hex
  | none, none => .error .noPayload

/-- The request that a command makes. -/
def requestOf : PrimitiveCommand → Except Failure Request
  | .join parts _ => .ok (.join (parts.map .str))
  | .merge target source =>
    match decodeJson target with
    | .error failure => .error failure
    | .ok target => (decodeJson source).map (.merge target)
  | .number text => .ok (.number (.str text))
  | .istype value tag => .ok (.istype (jsonOrText value) tag)
  | .fpack x => .ok (.fpack x)
  | .funpack hex => (decodeHex hex).map .funpack
  | .system command => .ok (.system command)
  | .load path _ => .ok (.load path)
  | .read path => .ok (.read path)
  | .save path text hex => (savePayload text hex).map (.save path)
  | .argv => .ok .argv

/-! ### Answers -/

/-- Bytes as they are, or in hexadecimal digits. -/
def bytesOutcome (raw : Bool) (data : Bytes) : Outcome :=
  if raw then .bytes data else .text (Text.Hex.encode data)

/-- The compact JSON text of a value. -/
def jsonOf (value : Value) : String := (Json.ofValue value).text

/-- What a command shows for the answer to its request. -/
def render (style : Style) (command : PrimitiveCommand) (request : Request) (answer : Value) :
    Outcome :=
  match command, request, answer with
  | .join _ raw, _, .bytes data => bytesOutcome raw data
  | .load _ raw, _, .bytes data => bytesOutcome raw data
  | .merge .., _, merged => .text (jsonOf merged)
  | .argv, _, words => .text (jsonOf words)
  | .fpack _, _, .bytes data => .text (Text.Hex.encode data)
  | .system _, _, .int status => .exit status.toInt32
  | .read _, _, .str text => .bytes (Text.Utf8.encode text)
  | .save path .., .save _ data, _ =>
    .text (style.green "✓" ++ " wrote " ++ toString data.length ++ " bytes to " ++ style.bold path)
  | _, _, other => .text other.display

/-- Carry out a primitive command. -/
def run {ι : Type} (handle : Handle ι) (style : Style) (command : PrimitiveCommand)
    (state : World × ι) : Except Failure Outcome × (World × ι) :=
  match requestOf command with
  | .error failure => (.error failure, state)
  | .ok request =>
    match handle.object.perform request state with
    | (.ok answer, state) => (.ok (render style command request answer), state)
    | (.error error, state) => (.error (.primitive error), state)

/-! ### Reports -/

/-- The configuration that a world and an explicit path give. -/
def loadConfig (world : World) (path : Option String) :
    Except Config.Fault (Option String × Config) :=
  Config.load world.tree world.cwd (world.setting? "HOME") path

/-- The identity, the marker and the environment that follows from them. -/
def detectReport (world : World) (config : Config) (explicit : Option String) : String :=
  let style := Style.ofWorld world
  style.gray "identity:" ++ " " ++ Handle.identityIn world config explicit ++ "\n" ++
    style.gray "marker:" ++ " " ++ config.marker ++ "\n" ++
    style.gray "environment:" ++ " " ++
    style.bold (Handle.environmentIn world config explicit).name

/-- The configuration, or a template for one. -/
def configReport (source : Option String) (config : Config) (template : Bool) : String :=
  if template then String.ofList (Text.trimRight Config.template.toList)
  else config.report source

/-! ### Commands -/

/-- Carry out a command without a supplied object, on the host with a shell. -/
def executeBy (shell : Shell.Runner) (invocation : Invocation) (world : World) :
    Except Failure Outcome × World :=
  match loadConfig world invocation.config with
  | .error fault => (.error (.config fault), world)
  | .ok (source, config) =>
    match invocation.command with
    | .detect => (.ok (.text (detectReport world config invocation.identity)), world)
    | .config template => (.ok (.text (configReport source config template)), world)
    | .primitive command =>
      match Handle.bootstrap world config invocation.identity none shell with
      | .error error => (.error (.primitive error), world)
      | .ok (handle : Handle Unit) =>
        let (result, state) := run handle (Style.ofWorld world) command (world, ())
        (result, state.1)

/-- Carry out a command without a supplied object, with the shell of the system. -/
def execute (invocation : Invocation) (world : World) : Except Failure Outcome × World :=
  executeBy Shell.execute invocation world

section

variable {path identity source : Option String} {config : Config} {world : World}

/-- Without a configuration every command fails. -/
theorem executeBy_of_unreadable {fault : Config.Fault} (h : loadConfig world path = .error fault)
    (verbose : Bool) (command : Command) (shell : Shell.Runner) :
    executeBy shell ⟨path, identity, verbose, command⟩ world = (.error (.config fault), world) := by
  simp only [executeBy, h]

theorem executeBy_detect (h : loadConfig world path = .ok (source, config)) (verbose : Bool)
    (shell : Shell.Runner) :
    executeBy shell ⟨path, identity, verbose, .detect⟩ world =
      (.ok (.text (detectReport world config identity)), world) := by
  simp only [executeBy, h]

theorem executeBy_config (h : loadConfig world path = .ok (source, config)) (verbose : Bool)
    (template : Bool) (shell : Shell.Runner) :
    executeBy shell ⟨path, identity, verbose, .config template⟩ world =
      (.ok (.text (configReport source config template)), world) := by
  simp only [executeBy, h]

/-- On the host a primitive command is run. -/
theorem executeBy_of_host (h : loadConfig world path = .ok (source, config))
    (henv : Handle.environmentIn world config identity = .host) (verbose : Bool)
    (command : PrimitiveCommand) (shell : Shell.Runner) :
    executeBy shell ⟨path, identity, verbose, .primitive command⟩ world =
      ((run (Handle.hostBy shell) (Style.ofWorld world) command (world, ())).1,
        (run (Handle.hostBy shell) (Style.ofWorld world) command (world, ())).2.1) := by
  simp only [executeBy, h, Handle.bootstrap, henv, Handle.select]

/-- In the self-hosted environment a primitive command fails for want of an object. -/
theorem executeBy_of_selfHosted (h : loadConfig world path = .ok (source, config))
    (henv : Handle.environmentIn world config identity = .selfHosted) (verbose : Bool)
    (command : PrimitiveCommand) (shell : Shell.Runner) :
    executeBy shell ⟨path, identity, verbose, .primitive command⟩ world =
      (.error (.primitive Handle.noObject), world) := by
  simp only [executeBy, h, Handle.bootstrap, henv, Handle.select]

end

end BootLayer.CommandLine
