import BootLayer.Entries
import BootLayer.Error

/-!
A file system as a tree of directories and regular files, with the one device that takes everything
and holds nothing, and the resolution of path texts in it.
A *place* is the list of names that leads from the root to a node.  `resolve` follows a path text
from a working place and names the first thing that is wrong with it; `resolveNew` does the same
for a path under which a file is to be written.
-/

namespace BootLayer

/-- A directory or a file. -/
inductive Node where
  | file (data : Bytes)
  | dir (children : Entries Node none)
  /-- The device that holds nothing, whatever is written to it. -/
  | null
  deriving Inhabited

/-- The names that lead from the root to a node. -/
abbrev Place : Type := List String

namespace Node

/-- A directory with nothing in it. -/
def emptyDir : Node := dir .nil

/-- The node is a directory. -/
def isDir : Node → Bool
  | dir _ => true
  | _ => false

/-- What a file holds. -/
def contents? : Node → Option Bytes
  | file data => some data
  | null => some []
  | dir _ => none

/-- The node of a name in a directory. -/
def child? : Node → String → Option Node
  | dir children, name => children.find? name
  | _, _ => none

/-- The node at a place. -/
def at? (node : Node) : Place → Option Node
  | [] => some node
  | name :: rest => (node.child? name).bind fun n => n.at? rest

/-- Put a node at a place.  Directories on the way are made; a file on the way stays. -/
def put : Node → Place → Node → Node
  | _, [], new => new
  | dir children, name :: rest, new =>
    dir (children.insert name (put ((children.find? name).getD emptyDir) rest new))
  | leaf, _ :: _, _ => leaf

/-- Make a regular file of `data` at a place, or make `data` the contents of the one that is there.
The device takes the data and does not change. -/
def write (tree : Node) (place : Place) (data : Bytes) : Node :=
  match tree.at? place with
  | some null => tree
  | _ => tree.put place (file data)

/-- Remove the node at a place, if there is one. -/
def remove : Node → Place → Node
  | node, [] => node
  | dir children, [name] => dir (children.erase name)
  | dir children, name :: next :: rest =>
    match children.find? name with
    | some n => dir (children.insert name (remove n (next :: rest)))
    | none => dir children
  | leaf, _ :: _ => leaf

mutual

/-- The regular files in a tree, each with the place that leads to it. -/
def files : Node → List (Place × Bytes)
  | file data => [([], data)]
  | dir children => filesIn children
  | null => []

/-- The regular files below the entries of a directory. -/
def filesIn {lo : Option String} : Entries Node lo → List (Place × Bytes)
  | .nil => []
  | .cons name _ node rest => ((files node).map fun f => (name :: f.1, f.2)) ++ filesIn rest

end

end Node

/-! ### Paths -/

namespace Path

/-- A path of this many bytes or more is refused. -/
def maxLength : Nat := 4096

/-- A name of more bytes than this is refused. -/
def maxName : Nat := 255

/-- The parts of a path text, empty ones included. -/
def parts (path : String) : List String := (path.splitToList (· = '/'))

/-- The names in a path text. -/
def names (path : String) : List String := (parts path).filter (· ≠ "")

/-- The path starts at the root. -/
def isAbsolute (path : String) : Bool := path.toList.head? == some '/'

/-- The path ends in a slash. -/
def endsInSlash (path : String) : Bool := path.toList.getLast? == some '/'

/-- The text of a place. -/
def text (place : Place) : String := "/" ++ "/".intercalate place

/-- A path text below another one. -/
def join (base name : String) : String :=
  if isAbsolute name then name
  else if base = "" ∨ endsInSlash base then base ++ name
  else base ++ "/" ++ name

end Path

namespace Node

/-- One step of a walk from a place: to itself, to its parent or to a child. -/
def step (tree : Node) (place : Place) (name : String) : Except IoFault Place :=
  match tree.at? place with
  | some (dir children) =>
    if name = "." then .ok place
    else if name = ".." then .ok place.dropLast
    else if Path.maxName < name.utf8ByteSize then .error .nameTooLong
    else if (children.find? name).isSome then .ok (place ++ [name])
    else .error .notFound
  | some _ => .error .notADirectory
  | none => .error .notFound

/-- Walk along names from a place. -/
def walk (tree : Node) : Place → List String → Except IoFault Place
  | place, [] => .ok place
  | place, name :: rest =>
    match tree.step place name with
    | .ok next => tree.walk next rest
    | .error fault => .error fault

/-- Refuse a path text before it is looked up. -/
def accept (path : String) : Except IoFault Unit :=
  if path.toList.contains '\x00' then .error .nulInPath
  else if path = "" then .error .notFound
  else if Path.maxLength ≤ path.utf8ByteSize then .error .nameTooLong
  else .ok ()

/-- The place where the walk along a path starts. -/
def start (cwd : Place) (path : String) : Place := if Path.isAbsolute path then [] else cwd

/-- The place that a path leads to.  With a slash at its end it has to be a directory. -/
def resolve (tree : Node) (cwd : Place) (path : String) : Except IoFault Place :=
  match accept path with
  | .error fault => .error fault
  | .ok () =>
    match tree.walk (start cwd path) (Path.names path) with
    | .error fault => .error fault
    | .ok place =>
      match tree.at? place with
      | some (dir _) | none => .ok place
      | some _ => if Path.endsInSlash path then .error .notADirectory else .ok place

/-- The place of a file that is to be written.  Its directory has to exist, and the path
must not name a directory. -/
def resolveNew (tree : Node) (cwd : Place) (path : String) : Except IoFault Place :=
  match accept path with
  | .error fault => .error fault
  | .ok () =>
    match (Path.names path).getLast? with
    | none => .error .isADirectory
    | some name =>
      match tree.walk (start cwd path) (Path.names path).dropLast with
      | .error fault => .error fault
      | .ok parent =>
        match tree.at? parent with
        | some (dir children) =>
          if Path.endsInSlash path ∨ name = "." ∨ name = ".." then .error .isADirectory
          else if Path.maxName < name.utf8ByteSize then .error .nameTooLong
          else match children.find? name with
            | some (dir _) => .error .isADirectory
            | _ => .ok (parent ++ [name])
        | some _ => .error .notADirectory
        | none => .error .notFound

/-! ### Files -/

/-- The bytes of the file at a path. -/
def load (tree : Node) (cwd : Place) (path : String) : Except IoFault Bytes :=
  match tree.resolve cwd path with
  | .error fault => .error fault
  | .ok place =>
    match tree.at? place with
    | some (file data) => .ok data
    | some null => .ok []
    | some (dir _) => .error .isADirectory
    | none => .error .notFound

/-- The text of the file at a path. -/
def read (tree : Node) (cwd : Place) (path : String) : Except IoFault String :=
  match tree.load cwd path with
  | .error fault => .error fault
  | .ok data =>
    match Text.Utf8.decode data with
    | some text => .ok text
    | none => .error .notUtf8

/-- The tree with `data` as the contents of the file at a path. -/
def save (tree : Node) (cwd : Place) (path : String) (data : Bytes) : Except IoFault Node :=
  (tree.resolveNew cwd path).map fun place => tree.write place data

/-- There is a node at a path. -/
def exists? (tree : Node) (cwd : Place) (path : String) : Bool :=
  match tree.resolve cwd path with
  | .ok _ => true
  | .error _ => false

end Node

end BootLayer
