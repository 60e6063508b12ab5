import BootLayer.Shell.Condition
import BootLayer.Shell.Format
import BootLayer.Shell.Session
import BootLayer.Shell.Signal

/-!
The commands that the shell carries out itself, as far as they run no other commands.  Each takes
its arguments and gives a status.
-/

namespace BootLayer.Shell

/-- A command of the shell. -/
abbrev Builtin : Type := List String → Run Nat

namespace Builtin

open Run

/-! ### Arguments -/

/-- The options at the front of arguments, each with its own argument if it takes one, and what
follows them. -/
structure Options where
  letters : List (Char × String) := []
  operands : List String := []

/-- The option is among those given. -/
def Options.has (options : Options) (c : Char) : Bool := options.letters.any (·.1 == c)

/-- Read the options at the front of arguments: `plain` ones, and those that take an argument.  The
fuel counts arguments and characters. -/
def readOptions (plain valued : List Char) : Nat → List String → List (Char × String) → Run Options
  | 0, operands, letters => return ⟨letters.reverse, operands⟩
  | fuel + 1, arguments, letters => do
    match arguments with
    | [] => return ⟨letters.reverse, []⟩
    | first :: rest =>
      match first.toList with
      | ['-', '-'] => return ⟨letters.reverse, rest⟩
      | '-' :: c :: more =>
        let next := if more.isEmpty then rest else String.ofList ('-' :: more) :: rest
        if plain.contains c then readOptions plain valued fuel next ((c, "") :: letters)
        else if valued.contains c then
          if ¬more.isEmpty then
            readOptions plain valued fuel rest ((c, String.ofList more) :: letters)
          else
            match rest with
            | value :: rest => readOptions plain valued fuel rest ((c, value) :: letters)
            | [] => fail ("No arg for -" ++ String.singleton c ++ " option")
        else fail ("Illegal option -" ++ String.singleton c)
      | _ => return ⟨letters.reverse, arguments⟩

/-- The options of arguments, and what follows them. -/
def options (plain valued : String) (arguments : List String) : Run Options :=
  let size := arguments.foldl (fun n text => n + text.length) arguments.length
  readOptions plain.toList valued.toList (size + 1) arguments []

/-- The count that an argument has to be. -/
def count (text : String) : Run Nat := do
  match count? text with
  | some n => return n
  | none => fail ("Illegal number: " ++ text)

/-- Text between single quotes, the way a script would have to write it. -/
def quoted (text : String) : String :=
  let quote (c : Char) : List Char := if c = '\'' then "'\"'\"'".toList else [c]
  "'" ++ String.ofList (text.toList.flatMap quote) ++ "'"

/-- The name and the value of an argument with an equals sign. -/
def splitAssignment (argument : String) : String × Option String :=
  let name := argument.toList.takeWhile (· ≠ '=')
  match argument.toList.drop name.length with
  | _ :: value => (String.ofList name, some (String.ofList value))
  | [] => (argument, none)

/-- Refuse what is no name of a variable. -/
def checkName (name : String) : Run Unit := do
  if ¬isName name.toList then fail (name ++ ": bad variable name")

/-! ### Status and text -/

/-- Leave a status, whatever the arguments are. -/
def always (status : Nat) : Builtin := fun _ => return status

/-- Write the arguments. -/
def echo : Builtin := fun arguments => do
  write (Format.echo arguments)
  return 0

/-- Write arguments as a format says.  Complaints come first. -/
def printf : Builtin := fun arguments => do
  match (← options "" "" arguments).operands with
  | [] => fail "usage: printf format [arg ...]"
  | format :: arguments =>
    let output := Format.printf format arguments
    for text in output.complaints.reverse do warn text
    write output.text
    if output.failed then
      setStatus 2
      throw .failed
    return if output.complaints.isEmpty then 0 else 1

/-- The files that conditions ask about. -/
def files : Run Condition.Files := do
  let session ← get
  let tree := session.world.tree
  let cwd := session.process.cwd
  let place? (path : String) : Option Place := (tree.resolve cwd (toText path)).toOption
  return {
    place?
    node? := fun path => (place? path).bind fun place => tree.at? place
    isRunnable := fun path => (place? path).any fun place => session.world.runnable.contains place }

/-- Test a condition. -/
def test : Builtin := fun arguments => do
  match Condition.holds (← files) arguments with
  | .ok truth => return if truth then 0 else 1
  | .error text => fail text

/-- Test a condition between brackets. -/
def bracket : Builtin := fun arguments => do
  if arguments.getLast?.any (·.startsWith "]") then test arguments.dropLast
  else fail "missing ]"

/-! ### Directories -/

/-- The path without slashes at its end, for the text of a place. -/
def placeText (place : Place) : String := ofText (Path.text place)

/-- Go to a place. -/
def enter (place : Place) : Run Unit := do
  let old := (← value? "PWD").getD (placeText (← process).cwd)
  change fun p => { p with cwd := place }
  let publish (name value : String) : Run Unit := do
    assign name value
    change fun p =>
      { p with
        bindings := p.bindings.insert name
          { (p.bindings.find? name).getD {} with exported := true, value := some value } }
  publish "OLDPWD" old
  publish "PWD" (placeText place)

/-- The place that a path names without regard to what is there: two dots take the name before them
away. -/
def namedPlace (cwd : Place) (path : String) : Place :=
  let start : Place := if Path.isAbsolute path then [] else cwd
  let step (names : List String) (name : String) : List String :=
    if name = "." then names else if name = ".." then names.tail else name :: names
  ((Path.names path).foldl step start.reverse).reverse

/-- Go to another directory. -/
def cd : Builtin := fun arguments => do
  let read ← options "LP" "" arguments
  let given := read.operands.head?
  let follows := (read.letters.getLast?).any (·.1 == 'P')
  let target ←
    match given with
    | none => pure ((← value? "HOME").getD "")
    | some "-" => pure ((← value? "OLDPWD").getD "")
    | some path => pure path
  let place? (path : String) : Run (Option Place) := do
    let direct := namedPlace (← process).cwd (toText path)
    match ← resolve (if follows then path else placeText direct) with
    | .ok place => return if ((← tree).at? place).any Node.isDir then some place else none
    | .error _ => return none
  let isFixed : Bool :=
    match target.splitToList (· = '/') with
    | "" :: _ :: _ | "." :: _ | ".." :: _ => true
    | _ => false
  let path := if target = "" then "." else target
  -- the directories to look in, and whether the way is shown
  let searched := (← value? "CDPATH").getD ""
  let starts : List String := if isFixed then [] else searched.splitToList (· = ':')
  let mut found : Option (Place × Bool) := none
  for start in starts do
    if found.isNone then
      if let some place ← place? (if start = "" then path else start ++ "/" ++ path) then
        found := some (place, start ≠ "")
  if found.isNone then found := (← place? path).map fun place => (place, false)
  match found with
  | none => fail ("can't cd to " ++ target)
  | some (place, shown) =>
    enter place
    if shown ∨ given = some "-" then writeLine (placeText place)
    return 0

/-- Write the working directory. -/
def pwd : Builtin := fun arguments => do
  let _ ← options "LP" "" arguments
  writeLine (placeText (← process).cwd)
  return 0

/-! ### Variables -/

/-- List variables, each after some words. -/
def listVariables (lead : String) (isListed : Variable → Bool) : Run Unit := do
  for (name, entry) in (← process).bindings.toList do
    if isListed entry then
      match entry.value with
      | some value => writeLine (lead ++ name ++ "=" ++ quoted value)
      | none => if lead ≠ "" then writeLine (lead ++ name)

/-- Mark variables, after setting those with a value; without any, list those that are marked. -/
def mark (lead : String) (isMarked : Variable → Bool) (withMark : Variable → Variable) : Builtin :=
  fun arguments => do
    let given ← options "p" "" arguments
    if given.has 'p' ∨ given.operands.isEmpty then listVariables lead isMarked
    else
      for argument in given.operands do
        let (name, value) := splitAssignment argument
        checkName name
        if let some value := value then assign name value
        setVariable name (some (withMark ((← variableOf name).getD {})))
    return 0

/-- Show variables to programs. -/
def exportNames : Builtin :=
  mark "export " Variable.exported fun entry => { entry with exported := true }

/-- Protect variables from changes. -/
def readOnly : Builtin :=
  mark "readonly " Variable.readOnly fun entry => { entry with readOnly := true }

/-- Drop variables or functions. -/
def unset : Builtin := fun arguments => do
  let given ← options "vf" "" arguments
  let isFunction := (given.letters.getLast?.map Prod.fst) == some 'f'
  for name in given.operands do
    if isFunction then
      change fun p => { p with functions := p.functions.filter (·.1 ≠ name) }
    else
      checkName name
      if ((← variableOf name).getD {}).readOnly then fail (name ++ ": is read only")
      setVariable name none
  return 0

/-- Make variables belong to the function under way. -/
def makeLocal : Builtin := fun arguments => do
  if (← process).calls = 0 then fail "not in a function"
  for argument in arguments do
    let (name, value) := splitAssignment argument
    checkName name
    keep name
    if let some value := value then assign name value
  return 0

/-- The options of the shell: their letters and names. -/
def shellOptions : List (Char × String) :=
  [('e', "errexit"), ('f', "noglob"), ('I', "ignoreeof"), ('i', "interactive"), ('m', "monitor"),
    ('n', "noexec"), ('s', "stdin"), ('x', "xtrace"), ('v', "verbose"), ('V', "vi"), ('E', "emacs"),
    ('C', "noclobber"), ('a', "allexport"), ('b', "notify"), ('u', "nounset"), ('p', "privileged"),
    ('\x01', "nolog"), ('\x02', "debug")]

/-- The letters of the options that are on, as a parameter shows them. -/
def activeOptions (p : Process) : String :=
  String.ofList ((shellOptions.reverse.map Prod.fst).filter fun c =>
    p.options.contains c && ' ' < c)

/-- Turn an option on or off. -/
def setOption (isOn : Bool) (c : Char) : Run Unit := do
  if (shellOptions.lookup c).isNone ∨ c < ' ' then
    fail ("Illegal option -" ++ String.singleton c)
  change fun p =>
    { p with options := (if isOn then [c] else []) ++ p.options.filter (· ≠ c) }

/-- Turn an option on or off by its name; without one, show all options. -/
def setNamedOption (isOn : Bool) (name : Option String) : Run Unit := do
  match name with
  | some name =>
    match shellOptions.find? fun (_, full) => full == name with
    | some (c, _) => change fun p =>
        { p with options := (if isOn then [c] else []) ++ p.options.filter (· ≠ c) }
    | none => fail ("Illegal option -o " ++ name)
  | none =>
    let p ← process
    if isOn then writeLine "Current option settings"
    for (c, full) in shellOptions do
      let isActive := p.options.contains c
      if isOn then
        let padding := String.ofList (List.replicate (16 - full.length) ' ')
        writeLine (full ++ padding ++ (if isActive then "on" else "off"))
      else writeLine ("set " ++ (if isActive then "-o " else "+o ") ++ full)

/-- Read options of the shell; what follows them, and whether it is the parameters even if it is
empty.  The fuel counts arguments. -/
def readShellOptions : Nat → List String → Run (List String × Bool)
  | 0, rest => return (rest, false)
  | fuel + 1, arguments => do
    match arguments with
    | [] => return ([], false)
    | first :: rest =>
      match first.toList with
      | ['-'] =>
        change fun p => { p with options := p.options.filter fun c => c ≠ 'x' ∧ c ≠ 'v' }
        return (rest, false)
      | ['-', '-'] => return (rest, true)
      | sign :: letters =>
        if sign = '-' ∨ sign = '+' then
          let mut rest := rest
          for c in letters do
            if c = 'o' then
              setNamedOption (sign = '-') rest.head?
              rest := rest.tail
            else setOption (sign = '-') c
          readShellOptions fuel rest
        else return (arguments, false)
      | [] => return (arguments, false)

/-- Set options and parameters; without arguments, list the variables. -/
def set : Builtin := fun arguments => do
  if arguments.isEmpty then listVariables "" fun _ => true
  else
    let (parameters, always) ← readShellOptions (arguments.length + 1) arguments
    if always ∨ ¬parameters.isEmpty then
      change fun p => { p with parameters, optionIndex := 1, optionOffset := none }
  return 0

/-- Drop the first parameters. -/
def shift : Builtin := fun arguments => do
  let n ← (arguments.head?.map count).getD (pure 1)
  if (← process).parameters.length < n then fail "can't shift that many"
  change fun p =>
    { p with parameters := p.parameters.drop n, optionIndex := 1, optionOffset := none }
  return 0

/-! ### Input -/

/-- The characters of a line at the front of some bytes, whether each was escaped, how many bytes
the line takes, and whether it is complete. -/
def takeLine (raw : Bool) : Bytes → List (Char × Bool) × Nat × Bool
  | [] => ([], 0, false)
  | b :: rest =>
    if b = 10 then ([], 1, true)
    else if b = 0 then
      let (cs, n, complete) := takeLine raw rest
      (cs, n + 1, complete)
    else if b = 92 ∧ ¬raw then
      match rest with
      | [] => ([], 1, false)
      | next :: rest =>
        let (cs, n, complete) := takeLine raw rest
        if next = 10 then (cs, n + 2, complete)
        else ((Char.ofNat next.toNat, true) :: cs, n + 2, complete)
    else
      let (cs, n, complete) := takeLine raw rest
      ((Char.ofNat b.toNat, false) :: cs, n + 1, complete)

/-- Read a line into variables. -/
def read : Builtin := fun arguments => do
  let given ← options "r" "p" arguments
  if given.operands.isEmpty then fail "arg count"
  let data ← pending? 0
  let (cs, taken, complete) := takeLine (given.has 'r') (data.getD [])
  consume 0 taken
  let fields := Field.splitLine (← separators) given.operands.length cs
  for (operand, index) in given.operands.zipIdx do
    let (name, _) := splitAssignment operand
    checkName name
    assign name (fields[index]?.getD "")
  return if complete then 0 else 1

/-- Read the next option of the parameters, or of further arguments. -/
def getopts : Builtin := fun arguments => do
  match arguments with
  | letters :: name :: given =>
    let p ← process
    let words := if given.isEmpty then p.parameters else given
    let isPast : Bool := words.length + 1 < p.optionIndex
    let index := if isPast then 1 else p.optionIndex
    let offset := if isPast then none else p.optionOffset
    let isQuiet := letters.startsWith ":"
    -- what is left of the word under way, and the number of the next word
    let current : Option (List Char) :=
      match offset, index with
      | some offset, index + 2 =>
        let word := ((words[index]?).getD "").toList
        if offset < word.length then some (word.drop offset) else none
      | _, _ => none
    let (rest, index) : Option (List Char) × Nat :=
      match current with
      | some cs => (some cs, index)
      | none =>
        match (words[index - 1]?).map String.toList with
        | some ('-' :: c :: cs) =>
          if c = '-' ∧ cs.isEmpty then (none, index + 1) else (some (c :: cs), index + 1)
        | _ => (none, index)
    let finish (letter : String) (index : Nat) (left : Option (List Char)) (status : Nat) :
        Run Nat := do
      assign "OPTIND" (toString index)
      checkName name
      assign name letter
      let length := ((words[index - 2]?).getD "").length
      change fun p =>
        { p with
          optionIndex := index
          optionOffset := left.map fun cs => length - cs.length }
      return status
    match rest with
    | some (c :: cs) =>
      let letter := String.singleton c
      let known := letters.toList.dropWhile (· ≠ c)
      if c = ':' ∨ known.isEmpty then
        if isQuiet then assign "OPTARG" letter
        else
          complain ("Illegal option -" ++ letter)
          setVariable "OPTARG" none
        finish "?" index (some cs) 0
      else if known[1]? = some ':' then
        if ¬cs.isEmpty then
          assign "OPTARG" (String.ofList cs)
          finish letter index none 0
        else
          match words[index - 1]? with
          | some value =>
            assign "OPTARG" value
            finish letter (index + 1) none 0
          | none =>
            if isQuiet then
              assign "OPTARG" letter
              finish ":" index none 0
            else
              complain ("No arg for -" ++ letter ++ " option")
              setVariable "OPTARG" none
              finish "?" index none 0
      else
        assign "OPTARG" ""
        finish letter index (some cs) 0
    | _ => finish "?" index none 1
  | _ => fail "Usage: getopts optstring var [arg...]"

/-! ### Aliases -/

/-- The text of an alias as it is listed. -/
def aliasText (name value : String) : String := name ++ "=" ++ quoted value

/-- The name and the text of an alias to be set; the name has at least one character. -/
def aliasDefinition (argument : String) : String × Option String :=
  match argument.toList with
  | first :: rest =>
    match rest.dropWhile (· ≠ '=') with
    | _ :: value =>
      (String.ofList (first :: rest.takeWhile (· ≠ '=')), some (String.ofList value))
    | [] => (argument, none)
  | [] => (argument, none)

/-- Set aliases or show them. -/
def defineAlias : Builtin := fun arguments => do
  if arguments.isEmpty then
    for (name, value) in inRows 39 (← process).aliases do writeLine (aliasText name value)
    return 0
  let mut status := 0
  for argument in arguments do
    match aliasDefinition argument with
    | (name, some value) =>
      change fun p =>
        if (p.aliases.lookup name).isSome then
          { p with aliases := p.aliases.map fun old => if old.1 = name then (name, value) else old }
        else { p with aliases := p.aliases ++ [(name, value)] }
    | (name, none) =>
      match (← process).aliases.lookup name with
      | some value => writeLine (aliasText name value)
      | none =>
        complain ("alias: " ++ name ++ " not found")
        status := 1
  return status

/-- Drop aliases. -/
def unalias : Builtin := fun arguments => do
  let given ← options "a" "" arguments
  if given.has 'a' then
    change fun p => { p with aliases := [] }
    return 0
  let mut status := 0
  for name in given.operands do
    if ((← process).aliases.lookup name).isSome then
      change fun p => { p with aliases := p.aliases.filter (·.1 ≠ name) }
    else
      complain ("unalias: " ++ name ++ " not found")
      status := 1
  return status

/-! ### Signals -/

/-- The jobs of this process, in the order in which they were started. -/
def ownJobs : Run (List Job) := do
  let number := (← process).number
  return (← get).jobs.filter (·.parent = number)

/-- The number of the process of a job that is named after a percent sign. -/
def jobNamed (text : String) : Run Nat := do
  let jobs ← ownJobs
  match text.toList.tail with
  | [] | ['+'] | ['%'] =>
    match jobs.getLast? with
    | some job => return job.number
    | none => fail "No current job"
  | ['-'] =>
    match jobs.dropLast.getLast? with
    | some job => return job.number
    | none => fail "No previous job"
  | digits =>
    match (count? (String.ofList digits)).bind fun n => if n = 0 then none else jobs[n - 1]? with
    | some job => return job.number
    | none => fail ("No such job: " ++ text)

/-- List the jobs that have not ended, the last one first. -/
def jobs : Builtin := fun arguments => do
  for text in (← options "lp" "" arguments).operands do let _ ← jobNamed text
  let own ← ownJobs
  for (job, i) in own.zipIdx.reverse do
    if job.outcome.isNone then
      let mark := if i + 1 = own.length then "+" else if i + 2 = own.length then "-" else " "
      let text := "[" ++ toString (i + 1) ++ "] " ++ mark ++ " Running"
      writeLine (text ++ String.ofList (List.replicate (33 - text.length) ' '))
  return 0

/-- Send a signal to a process: to this one, to one that waits for it, or to a job. -/
def send (signal number : Nat) : Run Bool := do
  let p ← process
  let isJob := (← get).jobs.any fun job => job.number = number ∧ job.outcome.isNone
  if number = p.number then
    match p.traps.lookup signal with
    | some _ =>
      modify fun s => { s with signals := s.signals ++ [(number, signal)] }
      return true
    | none =>
      if Signal.isHarmless signal then return true else throw (.killed signal)
  else if p.ancestors.contains number ∨ isJob then
    modify fun s => { s with signals := s.signals ++ [(number, signal)] }
    return true
  else return false

/-- The lines that say how signals are sent. -/
def killUsage : String :=
  "Usage: kill [-s sigspec | -signum | -sigspec] [pid | job]... or\nkill -l [exitstatus]"

/-- Send a signal to processes, or list the signals. -/
def kill : Builtin := fun arguments => do
  let direct : Option Nat :=
    match arguments.head?.map String.toList with
    | some ('-' :: name) => Signal.ofText? (String.ofList name)
    | _ => none
  let (signal, lists, targets) ←
    match direct with
    | some signal => pure (some signal, false, arguments.tail)
    | none => do
      if ¬arguments.head?.any (·.startsWith "-") then pure (some 15, false, arguments)
      else
        let given ← options "l" "s" arguments
        let signal ←
          match given.letters.filter (·.1 == 's') with
          | [] => pure 15
          | (_, name) :: _ =>
            match Signal.ofText? name with
            | some signal => pure signal
            | none => fail ("invalid signal number or name: " ++ name)
        pure (some signal, given.has 'l', given.operands)
  if lists then
    match targets with
    | [] =>
      for n in List.range (Signal.last + 1) do writeLine (Signal.name n)
      return 0
    | text :: _ =>
      let n ← count text
      let n := if 128 < n then n - 128 else n
      if n = 0 ∨ Signal.last < n then
        fail ("invalid signal number or exit status: " ++ text)
      writeLine (Signal.name n)
      return 0
  if targets.isEmpty then fail killUsage
  let mut status := 0
  for target in targets do
    let number ←
      match target.toList with
      | '%' :: _ => do
        let _ ← jobNamed target
        pure none
      | '-' :: digits => do
        let _ ← count (String.ofList digits)
        pure none
      | _ => do pure (some (← count target))
    let isSent ←
      match number with
      | some 0 => send (signal.getD 15) (← process).number
      | some n => send (signal.getD 15) n
      | none => pure false
    if ¬isSent then
      warn "No such process\n"
      status := 1
  return status

/-- Arrange what is done about signals, or list the arrangements. -/
def trap : Builtin := fun arguments => do
  let operands := (← options "" "" arguments).operands
  let nameOf (signal : Nat) : String := if signal = 0 then "EXIT" else Signal.name signal
  let signalOf? (text : String) : Option Nat :=
    if text.map Char.toUpper = "EXIT" then some 0 else Signal.ofText? text
  let isNumber (text : String) : Bool := text ≠ "" && text.toList.all Char.isDigit
  match operands with
  | [] =>
    for signal in List.range (Signal.last + 1) do
      if let some action := (← process).traps.lookup signal then
        writeLine ("trap -- " ++ quoted action ++ " " ++ nameOf signal)
    return 0
  | first :: rest =>
    let resets : Bool := rest.isEmpty || (isNumber first && (signalOf? first).isSome)
    let action := if resets ∨ first = "-" then none else some first
    for text in (if resets then operands else rest) do
      match signalOf? text with
      | some signal =>
        change fun p =>
          { p with
            traps :=
              (action.map fun action => (signal, action)).toList ++
                p.traps.filter (·.1 ≠ signal) }
      | none =>
        complain ("trap: " ++ text ++ ": bad trap")
        return 1
    return 0

/-! ### Limits -/

/-- The digits of a number in base eight, at least four. -/
def octal (n : Nat) : String :=
  let digits := Nat.toDigits 8 n
  String.ofList (List.replicate (4 - digits.length) '0' ++ digits)

/-- The bits of a mask as letters that say what is allowed. -/
def maskText (mask : Nat) : String :=
  let allowed (shift : Nat) : String :=
    let bits := 7 - mask / shift % 8
    (if 4 ≤ bits then "r" else "") ++ (if 2 ≤ bits % 4 then "w" else "") ++
      (if bits % 2 = 1 then "x" else "")
  "u=" ++ allowed 64 ++ ",g=" ++ allowed 8 ++ ",o=" ++ allowed 1

/-- The mask after a clause such as `g-w`; nothing if it is malformed. -/
def applyClause (mask : Nat) (clause : List Char) : Option Nat :=
  let who := clause.takeWhile fun c => "ugoa".toList.contains c
  match clause.drop who.length with
  | sign :: letters =>
    if ¬"=+-".toList.contains sign ∨ letters.any fun c => !"rwxXst".toList.contains c then none
    else
      let bit (c : Char) (value : Nat) : Nat := if letters.contains c then value else 0
      let bits := bit 'r' 4 + bit 'w' 2 + bit 'x' 1
      let isMeant (c : Char) : Bool := who.isEmpty || who.contains 'a' || who.contains c
      let change (c : Char) (shift : Nat) (mask : Nat) : Nat :=
        if isMeant c then
          let old := mask / shift % 8
          let new :=
            match sign with
            | '=' => 7 - bits
            | '+' => old &&& (7 - bits)
            | _ => old ||| bits
          mask - old * shift + new * shift
        else mask
      some (change 'u' 64 (change 'g' 8 (change 'o' 1 mask)))
  | [] => none

/-- Show or set the mask of permissions. -/
def umask : Builtin := fun arguments => do
  let given ← options "S" "" arguments
  match given.operands with
  | [] =>
    let mask := (← process).mask
    writeLine (if given.has 'S' then maskText mask else octal mask)
    return 0
  | text :: _ =>
    if text.toList.head?.any Char.isDigit then
      if text.toList.all Format.isOctal then
        let mask := text.toList.foldl (fun n c => n * 8 + (c.toNat - '0'.toNat)) 0
        change fun p => { p with mask := mask % 512 }
        return 0
      else fail ("Illegal number: " ++ text)
    else
      let clauses := (text.splitToList (· = ',')).map String.toList
      match clauses.foldlM applyClause (← process).mask with
      | some mask =>
        change fun p => { p with mask }
        return 0
      | none => fail ("Illegal mode: " ++ text)

/-- Show a limit; none is set. -/
def ulimit : Builtin := fun arguments => do
  let given ← options "HSatfdscmlpnvwr" "" arguments
  match given.operands with
  | [] => writeLine "unlimited"
  | text :: _ => if text ≠ "unlimited" ∧ (count? text).isNone then fail "bad number"
  return 0

/-- Write the times that have been used. -/
def times : Builtin := fun _ => do
  writeLine "0m0.000000s 0m0.000000s\n0m0.000000s 0m0.000000s"
  return 0

/-- Refuse to go on with a job. -/
def noJob : Builtin := fun arguments => do
  let name := arguments.head?.getD "%"
  if name.startsWith "%" then
    let _ ← jobNamed name
    fail ("job " ++ name ++ " not created under job control")
  else fail ("No such job: " ++ name)

/-! ### Leaving -/

/-- End the process. -/
def exit : Builtin := fun arguments => do
  let p ← process
  match arguments with
  | [] => setStatus (p.trapStatus.getD p.status)
  | text :: _ => setStatus (← count text)
  throw .ended

/-- Leave the function under way. -/
def leaveFunction : Builtin := fun arguments => do
  let p ← process
  match arguments with
  | [] => setStatus (p.trapStatus.getD p.status)
  | text :: _ => setStatus (← count text)
  throw .function

/-- Leave loops, or go on with the next round of one. -/
def leave (goesOn : Bool) : Builtin := fun arguments => do
  let n ← (arguments.head?.map count).getD (pure 1)
  if n = 0 then fail ("Illegal number: " ++ arguments.head?.getD "")
  let loops := (← process).loops
  if loops = 0 then return 0
  setStatus 0
  throw (.loops (min n loops) goesOn)

/-! ### Tables -/

/-- The commands that end the shell when they fail, and whose variables stay. -/
def special : List (String × Builtin) :=
  [(":", always 0), ("break", leave false), ("continue", leave true), ("exit", exit),
    ("export", exportNames), ("local", makeLocal), ("readonly", readOnly),
    ("return", leaveFunction), ("set", set), ("shift", shift), ("times", times),
    ("trap", trap), ("unset", unset)]

/-- The other commands. -/
def regular : List (String × Builtin) :=
  [("[", bracket), ("alias", defineAlias), ("bg", noJob), ("cd", cd), ("chdir", cd), ("echo", echo),
    ("false", always 1), ("fg", noJob), ("getopts", getopts), ("jobs", jobs), ("kill", kill),
    ("printf", printf), ("pwd", pwd), ("read", read), ("test", test), ("true", always 0),
    ("ulimit", ulimit), ("umask", umask), ("unalias", unalias)]

/-- The names of the commands that run other commands or look for them. -/
def specialNames : List String := [".", "eval", "exec"] ++ special.map Prod.fst

@[inherit_doc specialNames]
def regularNames : List String := ["command", "hash", "type", "wait"] ++ regular.map Prod.fst

/-- The commands that take assignments as arguments. -/
def declaring : List String := ["alias", "export", "local", "readonly"]

end Builtin

end BootLayer.Shell
