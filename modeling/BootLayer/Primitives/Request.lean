import BootLayer.Primitives

/-!
Requests to a set of primitives, and calls by name.  A call gives a name and values; it is first
turned into a request, which checks the name, the number of arguments and their kinds in this
order, and encodes text that is to be saved.  Only then is the set asked, once.
-/

namespace BootLayer

/-! ### Names -/

/-- The eleven primitives. -/
inductive Primitive where
  | join
  | merge
  | number
  | istype
  | fpack
  | funpack
  | system
  | load
  | read
  | save
  | argv
  deriving DecidableEq, Repr

namespace Primitive

/-- All primitives, in the order in which they are listed. -/
def all : List Primitive :=
  [join, merge, number, istype, fpack, funpack, system, load, read, save, argv]

/-- The name by which a primitive is called. -/
def name : Primitive → String
  | join => "join"
  | merge => "merge"
  | number => "number"
  | istype => "istype"
  | fpack => "fpack"
  | funpack => "funpack"
  | system => "system"
  | load => "load"
  | read => "read"
  | save => "save"
  | argv => "argv"

/-- How many arguments a primitive takes. -/
def arity : Primitive → Nat
  | argv => 0
  | merge | istype | save => 2
  | _ => 1

/-- The primitive of a name. -/
def ofName? (text : String) : Option Primitive := all.find? fun p => p.name == text

end Primitive

/-! ### Requests -/

/-- A request to a set of primitives, its arguments checked. -/
inductive Request where
  | join (parts : List Value)
  | merge (target source : Value)
  | number (value : Value)
  | istype (value : Value) (tag : String)
  | fpack (x : Double)
  | funpack (data : Bytes)
  | system (command : String)
  | load (path : String)
  | read (path : String)
  | save (path : String) (data : Bytes)
  | argv

namespace Request

/-- The part of an argument that a primitive needs, or the fault of its kind. -/
def need {α : Type} (p : Primitive) (expects : String) (view : Value → Option α) (arg : Value) :
    Except Error α :=
  match view arg with
  | some a => .ok a
  | none => .error (.type (.argumentKind p.name expects arg.kind))

/-- The bytes to be saved: bytes as they are, text with one byte a character. -/
def payload : Value → Except Error Bytes
  | .bytes data => .ok data
  | .str text => (Text.Latin1.encode text).mapError fun wide => .type (.wideCharacter wide)
  | other => .error (.type (.argumentKind Primitive.save.name "bytes" other.kind))

/-- The request that a primitive makes of its arguments. -/
def ofArguments : Primitive → List Value → Except Error Request
  | .join, [parts] => (need .join "a list" Value.list? parts).map join
  | .merge, [target, source] => .ok (merge target source)
  | .number, [value] => .ok (number value)
  | .istype, [value, tag] => (need .istype "a tag name" Value.text? tag).map (istype value)
  | .fpack, [value] => (need .fpack "a number" Value.number? value).map fpack
  | .funpack, [value] => (need .funpack "bytes" Value.bytes? value).map funpack
  | .system, [command] => (need .system "a command string" Value.text? command).map system
  | .load, [path] => (need .load "a path string" Value.text? path).map load
  | .read, [path] => (need .read "a path string" Value.text? path).map read
  | .save, [path, data] =>
    match need .save "a path string" Value.text? path with
    | .ok path => (payload data).map (save path)
    | .error e => .error e
  | .argv, [] => .ok argv
  | p, args => .error (.type (.argumentCount p.name p.arity args.length))

/-- The request that a call by name makes. -/
def ofCall (name : String) (args : List Value) : Except Error Request :=
  match Primitive.ofName? name with
  | some p => ofArguments p args
  | none => .error (.type (.unknownPrimitive name))

end Request

namespace Primitives

variable {σ : Type}

/-- Put a request to a set, and give the answer as a value.  The answer to a merge is the target
as the set left it. -/
def perform (set : Primitives σ) : Request → Action σ Value
  | .join parts => (set.join parts).map .bytes
  | .merge target source => fun s =>
    match set.merge target source s with
    | ((.ok (), merged), s') => (.ok merged, s')
    | ((.error e, _), s') => (.error e, s')
  | .number value => (set.number value).map .float
  | .istype value tag => (set.istype value tag).map .bool
  | .fpack x => (set.fpack x).map fun packed => .bytes packed.toList
  | .funpack data => (set.funpack data).map .float
  | .system command => (set.system command).map fun code => .int code.toInt64
  | .load path => (set.load path).map .bytes
  | .read path => (set.read path).map .str
  | .save path data => (set.save path data).map fun () => .none
  | .argv => fun s =>
    let (words, s') := set.argv s
    (.ok (.list (words.map .str)), s')

/-- Call a primitive by name. -/
def call (set : Primitives σ) (name : String) (args : List Value) : Action σ Value :=
  match Request.ofCall name args with
  | .ok request => set.perform request
  | .error e => Action.fail e

end Primitives

end BootLayer
