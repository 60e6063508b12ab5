import BootLayer.Shell.Field
import BootLayer.Shell.Script
import BootLayer.World

/-!
The state that scripts run in.  A session has what all processes share, the world and the streams
that descriptors lead to, and the state of one process, which a child gets a copy of.  `Run` is an
action on a session that may be left before its end: for a loop, for a function, or for good.
-/

namespace BootLayer.Shell

/-! ### Streams -/

/-- What a descriptor leads to. -/
inductive Stream where
  /-- A file, at an offset; what is appended goes to its end. -/
  | file (place : Place) (offset : Nat) (mode : Mode)
  /-- The output channels of the world. -/
  | output
  | errors
  /-- What has been written to a pipe and not been read. -/
  | pipe (data : Bytes)
  | null
  deriving DecidableEq, Repr

/-! ### Processes -/

/-- A variable.  It may be without a value. -/
structure Variable where
  value : Option String := none
  exported : Bool := false
  readOnly : Bool := false
  deriving DecidableEq, Repr

/-- The state of a process. -/
structure Process where
  cwd : Place := []
  bindings : Dict Variable := .nil
  /-- Variables as they were before the calls under way, the last call first. -/
  saved : List (List (String × Option Variable)) := []
  functions : List (String × Command) := []
  aliases : List (String × String) := []
  /-- What the shell was started as. -/
  name : String := "sh"
  /-- What the program under way was started as. -/
  program : String := "sh"
  parameters : List String := []
  options : List Char := []
  /-- The actions for signals, and under 0 that for the end; an empty one ignores the signal. -/
  traps : List (Nat × String) := []
  descriptors : List (Nat × Nat) := []
  /-- The number of the process, and that of the shell it belongs to. -/
  number : Nat := 1
  shellNumber : Nat := 1
  /-- The number of the last job in the background. -/
  lastJob : Option Nat := none
  /-- The line under way, and the one up to which the script has been read. -/
  line : Nat := 1
  reached : Nat := 1
  /-- The command under way, of the shell's own ones. -/
  command : Option String := none
  /-- How many loops and functions are under way. -/
  loops : Nat := 0
  calls : Nat := 0
  status : Nat := 0
  /-- The status of the last command whose output was taken. -/
  outputStatus : Nat := 0
  /-- How far the options of the parameters have been read: which one is next, and how far the one
  before it has been read. -/
  optionIndex : Nat := 1
  optionOffset : Option Nat := none
  /-- The programs that have been looked up by name. -/
  hashed : List (String × String) := []
  /-- The processes that wait for this one. -/
  ancestors : List Nat := []
  /-- The status from before the action for a signal under way. -/
  trapStatus : Option Nat := none
  /-- Something could not be written. -/
  lostOutput : Bool := false
  mask : Nat := 18

/-- A job in the background: a command that runs in a state of its own, or its outcome. -/
structure Job where
  number : Nat
  /-- The number of the process that started it. -/
  parent : Nat
  process : Process
  body : Command
  outcome : Option Nat := none

/-- How a process ended. -/
inductive Outcome where
  | exited (status : Nat)
  | killed (signal : Nat)
  deriving DecidableEq, Repr

/-- The status that a parent sees. -/
def Outcome.status : Outcome → Nat
  | exited status => status % 256
  | killed signal => 128 + signal

/-! ### Sessions -/

/-- All that a running script can see. -/
structure Session where
  world : World
  streams : Array Stream := #[]
  /-- The documents of the scripts read so far. -/
  documents : List (Nat × Word) := []
  nextDocument : Nat := 0
  nextProcess : Nat := 2
  jobs : List Job := []
  /-- Signals that have been sent and not been noticed: to which process, and which. -/
  signals : List (Nat × Nat) := []
  process : Process := {}

/-- How an action is left before its end. -/
inductive Leave where
  /-- Some loops are left; the last one of them may go on. -/
  | loops (count : Nat) (goesOn : Bool)
  | function
  /-- The process ends. -/
  | ended
  /-- The process ends because of an error. -/
  | failed
  | killed (signal : Nat)
  deriving DecidableEq, Repr

/-- An action of a process. -/
abbrev Run (α : Type) : Type := ExceptT Leave (StateM Session) α

namespace Run

/-- The state of the process. -/
def process : Run Process := return (← get).process

/-- Change the state of the process. -/
def change (f : Process → Process) : Run Unit :=
  modify fun session => { session with process := f session.process }

/-- The file tree. -/
def tree : Run Node := return (← get).world.tree

/-- Change the file tree. -/
def setTree (tree : Node) : Run Unit :=
  modify fun session => { session with world := { session.world with tree } }

/-- Leave a status. -/
def setStatus (status : Nat) : Run Unit := change fun p => { p with status }

/-- The option of a letter is on. -/
def isOn (option : Char) : Run Bool := return (← process).options.contains option

/-- Run an action to its end, however it is left. -/
def attempt {α : Type} (action : Run α) : Run (Except Leave α) := fun session =>
  let (result, session) := action session
  (.ok result, session)

/-- Go on as an action ended. -/
def resume {α : Type} (result : Except Leave α) : Run α := fun session => (result, session)

/-- Run an action and then another one, however the first is left. -/
def andFinally {α : Type} (action : Run α) (last : Run Unit) : Run α := do
  let result ← attempt action
  last
  resume result

/-! ### Reading and writing -/

/-- The stream that a descriptor leads to, with its number. -/
def stream? (descriptor : Nat) : Run (Option (Nat × Stream)) := do
  match (← process).descriptors.lookup descriptor with
  | some index => return ((← get).streams[index]?).map fun stream => (index, stream)
  | none => return none

/-- Replace a stream. -/
def setStream (index : Nat) (stream : Stream) : Run Unit :=
  modify fun session => { session with streams := session.streams.setIfInBounds index stream }

/-- Add a stream; its number. -/
def addStream (stream : Stream) : Run Nat := do
  let index := (← get).streams.size
  modify fun session => { session with streams := session.streams.push stream }
  return index

/-- Let a descriptor lead to a stream, or nowhere. -/
def connect (descriptor : Nat) (index : Option Nat) : Run Unit :=
  change fun p =>
    let others := p.descriptors.filter (·.1 ≠ descriptor)
    { p with descriptors := (index.map fun i => (descriptor, i)).toList ++ others }

/-- Some contents with data written over them at an offset. -/
def overwrite (old : Bytes) (offset : Nat) (data : Bytes) : Bytes :=
  let front := old.take offset
  front ++ List.replicate (offset - front.length) 0 ++ data ++ old.drop (offset + data.length)

/-- Write to a descriptor; it fails if the descriptor is closed. -/
def writeTo (descriptor : Nat) (data : Bytes) : Run Bool := do
  match ← stream? descriptor with
  | none =>
    if ¬data.isEmpty ∧ descriptor = 1 then change fun p => { p with lostOutput := true }
    return data.isEmpty
  | some (index, stream) =>
    match stream with
    | .output =>
      modify fun s => { s with world := { s.world with output := s.world.output ++ data } }
    | .errors =>
      modify fun s => { s with world := { s.world with errors := s.world.errors ++ data } }
    | .pipe old => setStream index (.pipe (old ++ data))
    | .null => pure ()
    | .file _ _ .read =>
      if ¬data.isEmpty ∧ descriptor = 1 then change fun p => { p with lostOutput := true }
      return data.isEmpty
    | .file place offset mode =>
      match (← tree).at? place with
      | some (.file old) =>
        let offset := if mode = .append then old.length else offset
        setTree ((← tree).put place (.file (overwrite old offset data)))
        setStream index (.file place (offset + data.length) mode)
      | _ => pure ()
    return true

/-- Write text to the standard output. -/
def write (text : String) : Run Unit := discard <| writeTo 1 (bytesOf text)

/-- Write text and a line end to the standard output. -/
def writeLine (text : String) : Run Unit := write (text ++ "\n")

/-- Write a line to the channel for errors. -/
def complain (text : String) : Run Unit := discard <| writeTo 2 (bytesOf (text ++ "\n"))

/-- What a descriptor has to read; it is not taken.  There is nothing if the descriptor is closed or
leads to a directory. -/
def pending? (descriptor : Nat) : Run (Option Bytes) := do
  match ← stream? descriptor with
  | none => return none
  | some (_, stream) =>
    match stream with
    | .pipe data => return some data
    | .file place offset mode =>
      if mode ≠ .read ∧ mode ≠ .readWrite then return none
      match (← tree).at? place with
      | some (.dir _) => return none
      | some node => return some ((node.contents?.getD []).drop offset)
      | none => return some []
    | .output | .errors | .null => return some []

/-- Take some bytes from a descriptor. -/
def consume (descriptor : Nat) (count : Nat) : Run Unit := do
  match ← stream? descriptor with
  | some (index, .pipe data) => setStream index (.pipe (data.drop count))
  | some (index, .file place offset mode) =>
    setStream index (.file place (offset + count) mode)
  | _ => pure ()

/-- Why a descriptor has nothing to read. -/
def unreadable (descriptor : Nat) : Run String := do
  match ← stream? descriptor with
  | some (_, .file _ _ .read) | some (_, .file _ _ .readWrite) => return "Is a directory"
  | _ => return "Bad file descriptor"

/-- Take all that a descriptor has to read. -/
def readAll (descriptor : Nat) : Run (Option Bytes) := do
  match ← pending? descriptor with
  | some data =>
    consume descriptor data.length
    return some data
  | none => return none

/-! ### Complaints -/

/-- Write a complaint of the shell, which names its line and the command under way. -/
def warn (text : String) : Run Unit := do
  let p ← process
  let command := (p.command.map (· ++ ": ")).getD ""
  complain (p.name ++ ": " ++ toString p.line ++ ": " ++ command ++ text)

/-- Complain, and end the process unless it can go on after an error. -/
def fail {α : Type} (text : String) : Run α := do
  warn text
  setStatus 2
  throw .failed

/-! ### Variables -/

/-- A variable of the shell. -/
def variableOf (name : String) : Run (Option Variable) := return (← process).bindings.find? name

/-- The value of a variable. -/
def value? (name : String) : Run (Option String) := return (← variableOf name).bind Variable.value

/-- Set a variable as it is, whatever it was before. -/
def setVariable (name : String) (entry : Option Variable) : Run Unit :=
  change fun p =>
    { p with
      bindings :=
        match entry with
        | some entry => p.bindings.insert name entry
        | none => p.bindings.erase name }

/-- Set the value of a variable. -/
def assign (name value : String) : Run Unit := do
  let old := (← variableOf name).getD {}
  if old.readOnly then fail (name ++ ": is read only")
  if name = "OPTIND" then
    match count? value with
    | some index => change fun p => { p with optionIndex := max 1 index, optionOffset := none }
    | none => fail ("Illegal number: " ++ value)
  let exported := old.exported || (← isOn 'a')
  setVariable name (some { old with value := some value, exported })
  if name = "PATH" then change fun p => { p with hashed := [] }

/-- Keep a variable as it is, to be put back when the call under way ends. -/
def keep (name : String) : Run Unit := do
  let old ← variableOf name
  change fun p =>
    match p.saved with
    | first :: rest =>
      if first.any (·.1 == name) then p else { p with saved := ((name, old) :: first) :: rest }
    | [] => p

/-- Run an action, and put back the variables that it keeps. -/
def withKept {α : Type} (action : Run α) : Run α := do
  change fun p => { p with saved := [] :: p.saved }
  andFinally action do
    let p ← process
    change fun p => { p with saved := p.saved.tail }
    for (name, old) in p.saved.head?.getD [] do setVariable name old

/-- The variables that programs see. -/
def environment : Run (List (String × String)) := do
  return (← process).bindings.toList.filterMap fun (name, entry) =>
    if entry.exported then entry.value.map fun value => (name, value) else none

/-- The characters that separate fields. -/
def separators : Run (List Char) := do
  match ← value? "IFS" with
  | some text => return text.toList
  | none => return Field.defaultSeparators

/-! ### Paths -/

/-- The place that a path leads to. -/
def resolve (path : String) : Run (Except IoFault Place) := do
  return (← tree).resolve (← process).cwd (toText path)

/-- The node at a path. -/
def node? (path : String) : Run (Option Node) := do
  match ← resolve path with
  | .ok place => return (← tree).at? place
  | .error _ => return none

/-- The contents of the file at a path. -/
def load (path : String) : Run (Except IoFault Bytes) := do
  return (← tree).load (← process).cwd (toText path)

end Run

/-! ### Listings -/

/-- Where a name stands in a listing that is kept in so many rows. -/
def row (rows : Nat) (name : String) : Nat :=
  let codes := name.toList.map Char.toNat
  ((codes.head?.getD 0) * 16 + codes.foldl (· + ·) 0) % 32768 % rows

/-- Entries in the order in which they are listed: by rows, and in a row as they were added. -/
def inRows {α : Type} (rows : Nat) (entries : List (String × α)) : List (String × α) :=
  entries.mergeSort fun a b => row rows a.1 ≤ row rows b.1

/-! ### Repetition -/

/-- How often anything is repeated at most. -/
def maxRepetitions : Nat := 1000000

/-- Repeat an action from a state until it gives a result.  The fuel counts repetitions. -/
def iterate {σ α : Type} : Nat → (σ → Run (σ ⊕ α)) → σ → Run α
  | 0, _, _ => throw (.killed 9)
  | fuel + 1, step, state => do
    match ← step state with
    | .inl state => iterate fuel step state
    | .inr result => return result

end BootLayer.Shell
