import BootLayer.CommandLine.Process

/-!
The program.  It takes a picture of the files that a command line can reach, runs the command line
on it, and then brings the disk up to date with what changed.
-/

namespace BootLayer

/-- How many directories below the working directory the picture reaches. -/
def pictureDepth : Nat := 16

/-- The variables of the environment that count. -/
def settingNames : List String := [Handle.identityVariable, "NO_COLOR", "TERN_LOG", "HOME"]

/-- Put what stands at a path on disk into a tree, with `depth` levels of directories. -/
def addPath : Nat → Node → String → IO Node
  | depth, tree, path => do
    let file ← IO.FS.realPath path
    let place := Path.names file.toString
    if ← file.isDir then
      let tree := if (tree.at? place).isSome then tree else tree.put place .emptyDir
      match depth with
      | 0 => return tree
      | depth + 1 =>
        let entries ← file.readDir
        entries.foldlM (fun tree entry => addPath depth tree entry.path.toString) tree
    else if ← file.pathExists then
      let data ← IO.FS.readBinFile file
      return tree.put place (.file data.data.toList)
    else return tree

/-- Put a path into a tree unless it cannot be read. -/
def addIfReadable (depth : Nat) (tree : Node) (path : String) : IO Node :=
  try addPath depth tree path catch _ => return tree

/-- The directory that a path is in, as far as its text tells. -/
def directoryOf (path : String) : String :=
  let start := (path.toList.reverse.dropWhile (· ≠ '/')).reverse
  if start.isEmpty then "." else String.ofList start

/-- The paths that the words of a command line may mean, and the directories they are in. -/
def mentioned (words : List String) : List String :=
  (words.flatMap fun word => word :: (word.splitToList (· = '=')).drop 1).flatMap fun path =>
    [directoryOf path, path]

/-- The surroundings that the program was started in. -/
def surroundings (words : List String) : IO World := do
  let cwd := Path.names (← IO.currentDir).toString
  let values ← settingNames.filterMapM fun name => do
    return (← IO.getEnv name).map fun value => (name, value)
  let settings := Entries.ofList values
  let tree ← addIfReadable pictureDepth (World.bareTree.put cwd .emptyDir) (Path.text cwd)
  let others := Config.candidates cwd (settings.find? "HOME") ++ mentioned words
  let tree ← others.foldlM (addIfReadable 0) tree
  return { tree, cwd, settings, argv := "tern" :: words }

mutual

/-- The directories in a tree, each after the one it is in. -/
def directories : Node → List Place
  | .file _ | .null => []
  | .dir children => [] :: directoriesIn children

/-- The directories below the entries of a directory. -/
def directoriesIn {lo : Option String} : Entries Node lo → List Place
  | .nil => []
  | .cons name _ node rest => (directories node).map (name :: ·) ++ directoriesIn rest

end

/-- Make the files on disk those of a tree, given what they were. -/
def update (before after : Node) : IO Unit := do
  for place in directories after do
    if (before.at? place).isNone then IO.FS.createDirAll (Path.text place)
  for (place, data) in after.files do
    if (before.at? place).bind Node.contents? ≠ some data then
      IO.FS.writeBinFile (Path.text place) ⟨data.toArray⟩
  for (place, _) in before.files do
    if (after.at? place).isNone then IO.FS.removeFile (Path.text place)
  for place in (directories before).reverse do
    if (after.at? place).isNone then IO.FS.removeDir (Path.text place)

end BootLayer

def main (words : List String) : IO UInt32 := do
  let world ← BootLayer.surroundings words
  let (status, after) := BootLayer.CommandLine.runProcess world
  BootLayer.update world.tree after.tree
  (← IO.getStdout).write ⟨after.output.toArray⟩
  (← IO.getStderr).write ⟨after.errors.toArray⟩
  return status.toUInt32
