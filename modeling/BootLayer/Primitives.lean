import BootLayer.Error

/-!
Sets of primitives.  A set answers eleven requests; each answer may depend on a state and change
it, also when the request fails.  `forward` passes every request on to another set and adds
nothing.  `onFirst` and `onSecond` let a set act on one part of a larger state.
-/

namespace BootLayer

/-- What a primitive does with a state: it gives a result or fails, and leaves a state. -/
abbrev Action (σ α : Type) : Type := σ → Except Error α × σ

namespace Action

variable {σ τ α β : Type}

/-- Fail and leave the state alone. -/
def fail (e : Error) : Action σ α := fun s => (.error e, s)

/-- Apply a function to the result. -/
def map (f : α → β) (act : Action σ α) : Action σ β := fun s =>
  match act s with
  | (.ok a, s') => (.ok (f a), s')
  | (.error e, s') => (.error e, s')

/-- Act on the first part of a pair. -/
def onFirst (act : Action σ α) : Action (σ × τ) α := fun s =>
  let (r, s') := act s.1
  (r, (s', s.2))

/-- Act on the second part of a pair. -/
def onSecond (act : Action τ α) : Action (σ × τ) α := fun s =>
  let (r, s') := act s.2
  (r, (s.1, s'))

end Action

/-- A set of primitives with a state. -/
structure Primitives (σ : Type) where
  /-- Join bytes and texts into one byte string. -/
  join : List Value → Action σ Bytes
  /-- Copy the entries of the second value onto the first, and tell what became of the first. -/
  merge : Value → Value → σ → (Except Error Unit × Value) × σ
  /-- Turn text or a number into a double. -/
  number : Value → Action σ Double
  /-- Test a value against the tag of a name. -/
  istype : Value → String → Action σ Bool
  /-- Pack a double into eight bytes. -/
  fpack : Double → Action σ (Vector UInt8 8)
  /-- Unpack a double from bytes. -/
  funpack : Bytes → Action σ Double
  /-- Run a command line and give its exit status. -/
  system : String → Action σ Int32
  /-- The bytes of a file. -/
  load : String → Action σ Bytes
  /-- The text of a file. -/
  read : String → Action σ String
  /-- Replace the contents of a file. -/
  save : String → Bytes → Action σ Unit
  /-- The argument vector of the program. -/
  argv : σ → List String × σ

namespace Primitives

variable {σ τ : Type}

/-- The set that passes every request on. -/
def forward (inner : Primitives σ) : Primitives σ where
  join parts := inner.join parts
  merge target source := inner.merge target source
  number value := inner.number value
  istype value tag := inner.istype value tag
  fpack x := inner.fpack x
  funpack bytes := inner.funpack bytes
  system command := inner.system command
  load path := inner.load path
  read path := inner.read path
  save path data := inner.save path data
  argv := inner.argv

/-- The set acting on the first part of a pair. -/
def onFirst (inner : Primitives σ) : Primitives (σ × τ) where
  join parts := (inner.join parts).onFirst
  merge target source s :=
    let (r, s') := inner.merge target source s.1
    (r, (s', s.2))
  number value := (inner.number value).onFirst
  istype value tag := (inner.istype value tag).onFirst
  fpack x := (inner.fpack x).onFirst
  funpack bytes := (inner.funpack bytes).onFirst
  system command := (inner.system command).onFirst
  load path := (inner.load path).onFirst
  read path := (inner.read path).onFirst
  save path data := (inner.save path data).onFirst
  argv s :=
    let (r, s') := inner.argv s.1
    (r, (s', s.2))

/-- The set acting on the second part of a pair. -/
def onSecond (inner : Primitives τ) : Primitives (σ × τ) where
  join parts := (inner.join parts).onSecond
  merge target source s :=
    let (r, s') := inner.merge target source s.2
    (r, (s.1, s'))
  number value := (inner.number value).onSecond
  istype value tag := (inner.istype value tag).onSecond
  fpack x := (inner.fpack x).onSecond
  funpack bytes := (inner.funpack bytes).onSecond
  system command := (inner.system command).onSecond
  load path := (inner.load path).onSecond
  read path := (inner.read path).onSecond
  save path data := (inner.save path data).onSecond
  argv s :=
    let (r, s') := inner.argv s.2
    (r, (s.1, s'))

end Primitives

end BootLayer
