import BootLayer.Shell.Interpreter

/-!
The shell that runs command lines.  What a command does to the files stays; variables and the
working directory end with the shell.
-/

namespace BootLayer.Shell

/-- How deep commands may stand inside one another. -/
def maxDepth : Nat := 20000

/-- Where programs are looked for if nothing else is said. -/
def defaultPath : String := "/usr/local/sbin:/usr/local/bin:/usr/sbin:/usr/bin:/sbin:/bin"

/-- The state of the first process in a world. -/
def firstProcess (world : World) : Process :=
  let settings := world.settings.toList.map fun (name, value) => (ofText name, ofText value)
  let known := [("PATH", defaultPath), ("PWD", ofText (Path.text world.cwd))] ++ settings
  let exported := known.map fun (name, value) =>
    (name, { value := some value, exported := true : Variable })
  { cwd := world.cwd
    bindings := Entries.ofList (exported ++ startVariables 0)
    descriptors := [(0, 0), (1, 1), (2, 2)] }

/-- What a shell does with a command line in a world: an exit status, and the world after it. -/
abbrev Runner : Type := String → World → Int32 × World

/-- The shell of the system.  The working directory and the variables of the world are not its to
change. -/
def execute : Runner := fun command world =>
  let session : Session :=
    { world, streams := #[.null, .output, .errors], process := firstProcess world }
  let whole : Run Outcome := do
    let result ← Run.attempt (script maxDepth false true (ofText command))
    finish maxDepth result
  let (outcome, after) := whole session
  let status :=
    match outcome with
    | .ok outcome => outcome.status
    | .error _ => 2
  (Int32.ofNat status, after.world)

end BootLayer.Shell
