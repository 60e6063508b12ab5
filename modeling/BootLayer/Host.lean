import BootLayer.Merge
import BootLayer.Number.Reader
import BootLayer.Primitives
import BootLayer.Shell
import BootLayer.Value.Tag

/-!
The primitives of the host, on a world of files and an argument vector, with a shell for its command
lines.  Only `save` and `system` change the world.  Whatever does not depend on what a shell does
can be said of every shell; `primitives` has that of the system.
-/

namespace BootLayer.Host

/-! ### Values -/

/-- Append the bytes of the parts, the first of which has this index.  The first part that is
neither bytes nor text of narrow characters is the fault. -/
def joinFrom (index : Nat) (buffer : Bytes) : List Value → Except TypeFault Bytes
  | [] => .ok buffer
  | .bytes data :: rest => joinFrom (index + 1) (buffer ++ data) rest
  | .str text :: rest =>
    match Text.Latin1.encodeInto buffer text with
    | (buffer, none) => joinFrom (index + 1) buffer rest
    | (_, some wide) => .error (.wideCharacter wide)
  | other :: _ => .error (.joinPart index other.kind)

/-- Join bytes and texts into one byte string. -/
def join (parts : List Value) : Except TypeFault Bytes := joinFrom 0 [] parts

/-- Turn a value into a double: text is read, numbers are widened. -/
def number : Value → Except Error Double
  | .str text => (readNumber text).mapError .parse
  | other =>
    match other.number? with
    | some x => .ok x
    | none => .error (.type (.noNumber other.kind))

/-- Test a value against the tag of a name. -/
def istype (value : Value) (tag : String) : Except TypeFault Bool :=
  match Tag.ofName? tag with
  | some t => .ok (t.fits value)
  | none => .error (.unknownTag tag)

/-- The number of bytes of a packed double. -/
def packedWidth : Nat := 8

/-- Unpack a double; there have to be as many bytes as a packed one has. -/
def funpack (data : Bytes) : Except Error Double :=
  match Double.unpack? data with
  | some x => .ok x
  | none => .error (.size packedWidth data.length)

/-! ### The set -/

/-- Answer from the arguments alone. -/
def answer {α : Type} (result : Except Error α) : Action World α := fun world => (result, world)

/-- Answer from the world without changing it. -/
def inspect {α : Type} (look : World → Except IoFault α) : Action World α := fun world =>
  ((look world).mapError .io, world)

/-- Replace the contents of a file; a failure changes nothing. -/
def save (path : String) (data : Bytes) : Action World Unit := fun world =>
  match world.tree.save world.cwd path data with
  | .ok tree => (.ok (), { world with tree })
  | .error fault => (.error (.io fault), world)

/-- Run a command line in a shell.  A NUL in it is refused before anything runs. -/
def systemBy (shell : Shell.Runner) (command : String) : Action World Int32 := fun world =>
  if command.toList.contains '\x00' then (.error (.io .nulInCommand), world)
  else
    let (status, world) := shell command world
    (.ok status, world)

/-- Merge into the target: what becomes of it is told whatever the outcome is. -/
def merge (target source : Value) (world : World) : (Except Error Unit × Value) × World :=
  let (outcome, target) := mergeInPlace target source
  ((outcome.mapError .type, target), world)

/-- The primitives of the host with a shell. -/
def primitivesBy (shell : Shell.Runner) : Primitives World where
  join parts := answer ((join parts).mapError .type)
  merge := merge
  number value := answer (number value)
  istype value tag := answer ((istype value tag).mapError .type)
  fpack x := answer (.ok x.pack)
  funpack data := answer (funpack data)
  system := systemBy shell
  load path := inspect fun world => world.tree.load world.cwd path
  read path := inspect fun world => world.tree.read world.cwd path
  save := save
  argv world := (world.argv, world)

/-- The primitives of the host with the shell of the system. -/
abbrev primitives : Primitives World := primitivesBy Shell.execute

end BootLayer.Host
