import BootLayer.Primitives.Request

/-!
A set of primitives that writes down the requests it receives, for use in place of a runtime.  It
answers by rote, or refuses everything but the argument vector.
-/

namespace BootLayer

/-- The requests that a recorder has received, the latest last: the name and the arguments. -/
abbrev Journal : Type := List (String × List Value)

/-- How a recorder answers. -/
inductive Recorder where
  | answering
  | refusing
  deriving DecidableEq, Repr

namespace Recorder

/-- Write down a request and give the answer, or refuse. -/
def respond {α : Type} (mode : Recorder) (p : Primitive) (args : List Value)
    (answer : Except Error α) : Action Journal α := fun journal =>
  let reply :=
    match mode with
    | answering => answer
    | refusing => .error (.runtime (p.name ++ " unavailable"))
  (reply, journal ++ [(p.name, args)])

/-- Leave a mark in a map. -/
def mark : Value → Value
  | .map m => .map (m.insert "merged_by" (.str "runtime"))
  | other => other

/-- The recording set. -/
def primitives (mode : Recorder) : Primitives Journal where
  join parts := mode.respond .join [.list parts] (.ok (Text.Utf8.encode "joined"))
  merge target source := fun journal =>
    let (reply, journal) := mode.respond .merge [target, source] (.ok ()) journal
    match reply with
    | .ok () => ((.ok (), mark target), journal)
    | .error e => ((.error e, target), journal)
  number value := mode.respond .number [value] (.ok (Double.ofInt 99))
  istype value tag := mode.respond .istype [value, .str tag] (.ok true)
  fpack x := mode.respond .fpack [.float x] (.ok (Vector.replicate 8 7))
  funpack data := mode.respond .funpack [.bytes data] (.ok (Double.ofInt (-1)))
  system command := mode.respond .system [.str command] (.ok 42)
  load path := mode.respond .load [.str path] (.error (.runtime ("cannot open " ++ path)))
  read path := mode.respond .read [.str path] (.ok "source text")
  save path data := mode.respond .save [.str path, .bytes data] (.ok ())
  argv := fun journal => (["tern-vm", "boot.tn"], journal ++ [(Primitive.argv.name, [])])

end Recorder

end BootLayer
