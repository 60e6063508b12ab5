import BootLayer.FileTree

/-!
What the host's primitives act on: a file tree, the working directory, the variables of the
environment, the argument vector of the program, and what commands have written to the two output
channels.  The words of the readers of JSON and TOML come with it.
-/

namespace BootLayer

/-- The surroundings of a program. -/
structure World where
  tree : Node
  cwd : Place := []
  settings : Dict String := .nil
  argv : List String := []
  output : Bytes := []
  errors : Bytes := []
  /-- The files that may be run as programs. -/
  runnable : List Place := []
  wording : Wording := {}

namespace World

/-- The directories that a system comes with. -/
def standardPlaces : List Place :=
  [["bin"], ["boot"], ["dev"], ["etc"], ["home"], ["lib"], ["media"], ["mnt"], ["opt"], ["proc"],
    ["root"], ["run"], ["sbin"], ["srv"], ["sys"], ["tmp"], ["usr", "bin"], ["usr", "lib"],
    ["usr", "local", "bin"], ["usr", "share"], ["var", "tmp"]]

/-- The place of the null device. -/
def nullPlace : Place := ["dev", "null"]

/-- A system without any files: its directories and the null device. -/
def bareTree : Node :=
  let add (tree : Node) (place : Place) : Node := tree.put place .emptyDir
  let directories := standardPlaces.foldl add .emptyDir
  directories.put nullPlace .null

/-- The value of a variable of the environment. -/
def setting? (world : World) (name : String) : Option String := world.settings.find? name

end World

end BootLayer
