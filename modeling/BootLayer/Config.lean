import BootLayer.Environment
import BootLayer.FileTree
import BootLayer.Text.Blank
import BootLayer.Toml.Reader
import BootLayer.Toml.Writer

/-!
The configuration: an identity, if one is set, and the marker of the self-hosted runtime.  It is
read from a TOML file.  Without an explicit path the file is the nearest `tern.toml` in the working
directory or above it, else the one under the home directory; a file that is found but cannot be
read is an error and nothing farther is tried.
-/

namespace BootLayer

/-- What a configuration file sets. -/
structure Config where
  identity : Option String := none
  marker : String := defaultMarker
  deriving DecidableEq, Repr

namespace Config

/-! ### Reading -/

/-- The text that an item has to be. -/
def text? : Toml.Item → Option String
  | .text s => some s
  | _ => none

/-- The text of an item if there is one, else what stands in for it. -/
def textOr {α : Type} (missing : α) (found : String → α) : Option Toml.Item → Option α
  | none => some missing
  | some item => (text? item).map found

/-- The configuration of two items, each of which may be missing. -/
def ofItems (identity marker : Option Toml.Item) : Option Config := do
  let identity ← textOr none some identity
  let marker ← textOr defaultMarker id marker
  return { identity, marker }

/-- The configuration under the key `runtime`: a table, or an array of its values in order.  Other
keys and further values do not matter; a date or a time counts as a table without the keys that
do. -/
def ofRuntime : Toml.Item → Option Config
  | .table _ entries | .inline _ entries =>
    ofItems (entries.find? "identity") (entries.find? "self_hosted_marker")
  | .array items => ofItems items[0]? items[1]?
  | .moment _ => some {}
  | _ => none

/-- The configuration that a TOML text sets. -/
def parse (text : String) : Option Config :=
  match Toml.read text with
  | none => none
  | some root =>
    match root.find? "runtime" with
    | none => some {}
    | some item => ofRuntime item

/-! ### Writing -/

/-- The TOML text of a configuration. -/
def render (config : Config) : String :=
  let identity :=
    match config.identity with
    | some text => "identity = " ++ Toml.writeText text ++ "\n"
    | none => ""
  "[runtime]\n" ++ identity ++ "self_hosted_marker = " ++ Toml.writeText config.marker ++ "\n"

/-- A configuration file to start from. -/
def template : String :=
  "\n".intercalate
    ["# Tern bootstrap layer configuration",
      "",
      "[runtime]",
      "# Identity string reported to the environment detector.",
      "# TERN_RUNTIME_IDENTITY overrides this value.",
      "# identity = \"tern-vm 0.1\"",
      "",
      "# Token that marks the self-hosted runtime.",
      "self_hosted_marker = \"tern-vm\"",
      ""]

/-! ### Files -/

/-- The name of a configuration file. -/
def fileName : String := "tern.toml"

/-- Why there is no configuration. -/
inductive Fault where
  | unreadable (path : String) (fault : IoFault)
  /-- The text in the file is no configuration. -/
  | invalid (path text : String)
  deriving DecidableEq, Repr

/-- What is wrong, in words; the last words on a text are its reader's. -/
def Fault.message (fault : Fault) (wording : Wording := {}) : String :=
  match fault with
  | unreadable path fault => "cannot read " ++ inTicks path ++ ": " ++ fault.message
  | invalid path text => withWords ("invalid toml in " ++ inTicks path) (wording.toml text)

/-- The configuration in a file. -/
def loadFrom (tree : Node) (cwd : Place) (path : String) : Except Fault Config :=
  match tree.read cwd path with
  | .error fault => .error (.unreadable path fault)
  | .ok text =>
    match parse text with
    | some config => .ok config
    | none => .error (.invalid path text)

/-- A place and those above it, the nearest first. -/
def ancestors : Place → List Place
  | [] => [[]]
  | name :: rest => (ancestors rest).map (name :: ·) ++ [[]]

/-- The paths at which a configuration file is looked for, in order. -/
def candidates (cwd : Place) (home : Option String) : List String :=
  (ancestors cwd).map (fun place => Path.join (Path.text place) fileName) ++
    (home.map fun base => Path.join (Path.join (Path.join base ".config") "tern") fileName).toList

/-- The first path at which there is a configuration file. -/
def locate (tree : Node) (cwd : Place) (home : Option String) : Option String :=
  (candidates cwd home).find? fun path => tree.exists? cwd path

/-- The configuration to use, and the path it came from.  An explicit path is the only one
tried. -/
def load (tree : Node) (cwd : Place) (home explicit : Option String) :
    Except Fault (Option String × Config) :=
  match explicit.or (locate tree cwd home) with
  | some path => (loadFrom tree cwd path).map fun config => (some path, config)
  | none => .ok (none, {})

/-! ### Identity -/

/-- The identity that counts: the explicit one, then that of the environment unless it is empty,
then the configured one, then that of the host. -/
def resolveIdentity (config : Config) (explicit fromVariable : Option String) : String :=
  ((explicit.or (fromVariable.filter (· ≠ ""))).or config.identity).getD hostIdentity

/-- What the `config` command prints: where the configuration came from, and its text. -/
def report (source : Option String) (config : Config) : String :=
  let origin :=
    match source with
    | some path => "# loaded from " ++ path
    | none => "# no " ++ fileName ++ " found, using defaults"
  origin ++ "\n" ++ String.ofList (Text.trimRight config.render.toList)

end Config

end BootLayer
