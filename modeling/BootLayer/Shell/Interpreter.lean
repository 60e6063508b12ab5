import BootLayer.Shell.Expansion
import BootLayer.Shell.Reader
import BootLayer.Shell.Redirection
import BootLayer.Shell.Utility

/-!
Running commands.  A command runs in the state of a process and leaves a status; subshells, parts of
pipelines and programs run in children, which work on a copy of that state.  Children run to their
end one after the other; a job in the background runs when it is waited for, or when its parent has
ended.
-/

namespace BootLayer.Shell

open Run

/-! ### Calls -/

/-- How many calls of functions can stand inside one another. -/
def maxCalls : Nat := 1000

/-- What the first fields of a call tell. -/
inductive Head where
  /-- More fields are needed. -/
  | open
  /-- The call, and whether functions are left out of account. -/
  | call (fields : List String) (bare : Bool)

/-- What stands after the word `command`. -/
def afterCommand (whole : List String) : List String → Head
  | [] => .open
  | first :: rest =>
    match first.toList with
    | ['-', '-'] => if rest.isEmpty then .open else .call rest true
    | '-' :: c :: letters =>
      if (c :: letters).all (· = 'p') then afterCommand whole rest else .call whole true
    | _ => .call (first :: rest) true

/-- What the fields of a call tell, given which names are functions.  The fuel counts fields. -/
def headOf (isFunction : String → Bool) : Nat → Bool → List String → Head
  | _, _, [] => .open
  | 0, bare, fields => .call fields bare
  | fuel + 1, bare, name :: rest =>
    if name = "command" ∧ (bare ∨ ¬isFunction name) then
      match afterCommand (name :: rest) rest with
      | .open => .open
      | .call fields _ =>
        if fields.length ≤ rest.length then headOf isFunction fuel true fields
        else .call fields true
    else .call (name :: rest) bare

/-- Expand words until the command is known: the fields so far, whether functions are left out of
account, and the words that are left. -/
def gather (substitute : Substitute) (isFunction : String → Bool) :
    List Word → List String → Run (List String × Bool × List Word)
  | words, fields => do
    match headOf isFunction fields.length false fields with
    | .call fields bare => return (fields, bare, words)
    | .open =>
      match words with
      | [] => return (fields, false, [])
      | word :: rest =>
        let more ← Expansion.fields substitute word
        gather substitute isFunction rest (fields ++ more)
  termination_by words => words.length

/-- Complain that a redirection names no descriptor, where the reading of the script has got to. -/
def badDescriptor {α : Type} : Run α := do
  change fun p => { p with line := p.reached }
  fail "Syntax error: Bad fd number"

/-- Expand the target of a redirection. -/
def expandRedirect (substitute : Substitute) : Redirect → Run Redirection
  | .file descriptor mode target =>
    return .file descriptor mode (← Expansion.text substitute false target)
  | .duplicate descriptor target => do
    match (← Expansion.text substitute false target).toList with
    | ['-'] => return .duplicate descriptor none
    | [c] =>
      if c.isDigit then return .duplicate descriptor (some (c.toNat - '0'.toNat))
      else badDescriptor
    | _ => badDescriptor
  | .document descriptor number => do
    return .document descriptor (((← get).documents.lookup number).getD [])

/-- The descriptor that a redirection is about. -/
def Redirection.descriptor : Redirection → Nat
  | file descriptor _ _ | duplicate descriptor _ | document descriptor _ => descriptor

/-- Carry out redirections for an action, unless one is turned down, and take them back after it. -/
def redirected (substitute : Substitute) (redirections : List Redirection)
    (action : Bool → Run Unit) : Run Unit := do
  let before := (← process).descriptors
  let expand : Word → Run String := Expansion.document substitute
  andFinally (do action (← Redirection.applyAll expand redirections)) do
    for redirection in redirections do
      connect redirection.descriptor (before.lookup redirection.descriptor)

/-! ### Programs -/

/-- The directories where the utilities are kept. -/
def utilityDirectories : List Place := [["usr", "bin"], ["bin"]]

/-- The programs that run other programs. -/
def runners : List String :=
  ["sh", "dash", "env", "find", "nice", "nohup", "timeout", "which", "xargs"]

/-- A file that can be run as a program. -/
inductive Program where
  | utility (name : String)
  /-- A script. -/
  | script (path : String)
  /-- A script that names the utility to run it, and perhaps an argument for that. -/
  | interpreted (name interpreter : String) (argument : Option String) (path : String)
  | unreadable
  | missing

/-- The program can be run. -/
def Program.isFound : Program → Bool
  | utility _ | script _ | interpreted _ _ _ _ => true
  | unreadable | missing => false

/-- The name of the utility that is kept at a path. -/
def utilityAt? (path : String) : Option String :=
  let names := Path.names (toText path)
  let base := names.getLast?.getD ""
  let isKept := utilityDirectories.contains names.dropLast && path.startsWith "/"
  if isKept ∧ (runners.contains base ∨ (Utility.table.lookup base).isSome) then some base else none

/-- The interpreter that the first line of a script names, and what else it says. -/
def interpreter? (text : String) : Option (String × Option String) :=
  match text.toList with
  | '#' :: '!' :: rest =>
    let isBlank (c : Char) : Bool := c == ' ' || c == '\t'
    let line := (rest.takeWhile (· ≠ '\n')).dropWhile isBlank
    let line := (line.reverse.dropWhile isBlank).reverse
    let name := line.takeWhile fun c => !isBlank c
    let argument := (line.drop name.length).dropWhile isBlank
    if name.isEmpty then none
    else some (String.ofList name, if argument.isEmpty then none else some (String.ofList argument))
  | _ => none

/-- The program at a path. -/
def programAt (path : String) : Run Program := do
  if let some name := utilityAt? path then return .utility name
  match ← resolve path with
  | .error _ => return .missing
  | .ok place =>
    if !(← get).world.runnable.contains place then return .unreadable
    let contents := (((← tree).at? place).bind Node.contents?).getD []
    match interpreter? (ofBytes contents) with
    | none => return .script path
    | some (interpreter, argument) =>
      match utilityAt? interpreter with
      | some name => return .interpreted name interpreter argument path
      | none => return .missing

/-- The paths of something with a name in a list of directories. -/
def pathsIn (directories name : String) : List String :=
  (directories.splitToList (· = ':')).map fun directory =>
    if directory = "" then name else directory ++ "/" ++ name

/-- The paths where something with a name is looked for. -/
def candidates (name : String) : Run (List String) := do
  if name.toList.contains '/' then return [name]
  return pathsIn ((← value? "PATH").getD "") name

/-- The path of the program with a name, which is looked up unless it has a slash. -/
def locate (name : String) : Run (Option String) := do
  if name.toList.contains '/' then return some name
  (← candidates name).findM? fun path => return (← programAt path).isFound

/-- Where programs are looked for if no variable tells. -/
def standardDirectories : String := "/bin:/usr/bin"

/-- The program that one utility runs for another; if there is none, the reason and a status. -/
def programNamed (name : String) : Run (Except (String × Nat) Program) := do
  let directories := (← value? "PATH").getD standardDirectories
  let paths := if name.toList.contains '/' then [name] else pathsIn directories name
  let found ← paths.findM? fun path => return !(← programAt path) matches .missing
  match found with
  | none => return .error ("No such file or directory", 127)
  | some path =>
    match ← programAt path with
    | .missing => return .error ("No such file or directory", 127)
    | .unreadable => return .error ("Permission denied", 126)
    | program => return .ok program

/-- Write the paths of programs. -/
def which : Utility :=
  Utility.withOptions { plain := "as" } 2 fun given => do
    let mut status := 0
    for name in given.operands do
      let paths ← (← candidates name).filterM fun path => return (← programAt path).isFound
      if paths.isEmpty then status := 1
      if ¬given.has 's' then
        for path in (if given.has 'a' then paths else paths.take 1) do writeLine path
    return status

/-- Complain that no program has been found. -/
def reportMissing (name : String) : Run Unit := do
  let isThere ← (← candidates name).anyM fun path => return (← node? path).isSome
  warn (name ++ (if isThere then ": Permission denied" else ": not found"))
  setStatus 127

/-- Note that a program was looked up. -/
def remember (name path : String) : Run Unit := do
  if ¬name.toList.contains '/' then
    change fun p => { p with hashed := p.hashed.filter (·.1 ≠ name) ++ [(name, path)] }

/-- What a name stands for, said in words if `verbose`; nothing if it is unknown. -/
def describe (verbose : Bool) (name : String) : Run Bool := do
  let p ← process
  let say (short long : String) : Run Bool := do
    writeLine (if verbose then name ++ " is " ++ long else short)
    return true
  if Token.keywords.contains name then say name "a shell keyword"
  else
    match p.aliases.lookup name with
    | some value => say ("alias " ++ Builtin.aliasText name value) ("an alias for " ++ value)
    | none =>
      if p.functions.any (·.1 == name) then say name "a shell function"
      else if Builtin.specialNames.contains name then say name "a special shell builtin"
      else if Builtin.regularNames.contains name then say name "a shell builtin"
      else
        match ← locate name with
        | some path =>
          if (← programAt path).isFound then
            let isHashed := p.hashed.any (·.1 == name)
            say path ((if isHashed then "a tracked alias for " else "") ++ path)
          else
            if verbose then writeLine (name ++ ": not found")
            return false
        | none =>
          if verbose then writeLine (name ++ ": not found")
          return false

/-- Tell what names stand for. -/
def describeAll (verbose : Bool) (names : List String) : Run Nat := do
  let mut status := 0
  for name in names do
    if !(← describe verbose name) then status := 127
  return status

/-- Look up programs, or show or forget those that were. -/
def hash : Builtin := fun arguments => do
  let given ← Builtin.options "r" "" arguments
  if given.has 'r' then
    change fun p => { p with hashed := [] }
    return 0
  if given.operands.isEmpty then
    for (_, path) in inRows 31 (← process).hashed do writeLine path
    return 0
  let mut status := 0
  for name in given.operands do
    match ← locate name with
    | some path => remember name path
    | none =>
      warn (name ++ ": not found")
      status := 1
  return status

/-! ### Processes -/

/-- The state of a child: it has no arrangements for signals except to ignore them. -/
def Process.child (p : Process) (number : Nat) : Process :=
  { p with
    number
    ancestors := p.number :: p.ancestors
    traps := p.traps.filter fun (signal, action) => signal ≠ 0 ∧ action = ""
    trapStatus := none
    lostOutput := false
    reached := 1 }

/-- The variables that every shell starts with. -/
def startVariables (parent : Nat) : List (String × Variable) :=
  [("IFS", " \t\n"), ("OPTIND", "1"), ("PPID", toString parent), ("PS1", "$ "), ("PS2", "> "),
    ("PS4", "+ ")].map fun (name, value) => (name, { value := some value })

/-- The state of a shell that is started as a program: of the variables it sees those that are
exported. -/
def Process.fresh (p : Process) (name : String) : Process :=
  let seen := (p.bindings.toList.filter (·.2.exported)).map fun (name, entry) =>
    (name, { entry with readOnly := false })
  { cwd := p.cwd
    bindings := Entries.ofList (seen ++ startVariables (p.ancestors.head?.getD 0))
    name
    traps := p.traps
    descriptors := p.descriptors
    number := p.number
    shellNumber := p.number
    ancestors := p.ancestors
    mask := p.mask }

/-- Report how a child ended, and take its status; the last command of a process ends the way its
child did. -/
def conclude (last : Bool) (outcome : Outcome) : Run Unit := do
  match outcome with
  | .exited _ => pure ()
  | .killed signal =>
    if last ∧ (← process).traps.isEmpty then throw (.killed signal)
    if ¬Signal.isQuiet signal then complain (Signal.description signal)
  setStatus outcome.status

/-- What a round of a loop came to. -/
inductive Round where
  | done
  | again
  | ended
  deriving DecidableEq

/-- Run a part of a loop. -/
def round (action : Run Unit) : Run Round := do
  match ← attempt action with
  | .ok () => return .done
  | .error (.loops 1 goesOn) => return if goesOn then .again else .ended
  | .error (.loops (n + 2) goesOn) => throw (.loops (n + 1) goesOn)
  | .error other => throw other

/-- Run a command of the shell under its name.  If it fails, the shell goes on unless the command is
a special one. -/
def underName (name : String) (special : Bool) (action : Run Nat) : Run Unit := do
  let before := (← process).command
  change fun p => { p with command := some name, lostOutput := false }
  let result ← attempt action
  if (← process).lostOutput then
    warn (name ++ ": I/O error")
    change fun p => { p with lostOutput := false }
    if let .ok status := result then
      change fun p => { p with command := before }
      setStatus (status ||| 1)
      return
  change fun p => { p with command := before }
  match result with
  | .ok status => setStatus status
  | .error .failed => if special then throw .failed
  | .error other => throw other

/-- Write the trace of a command to where the errors went before it was redirected. -/
def trace (descriptors : List (Nat × Nat)) (words : List String) : Run Unit := do
  if ← isOn 'x' then
    let now := (← process).descriptors
    change fun p => { p with descriptors }
    complain ((← value? "PS4").getD "+ " ++ " ".intercalate words)
    change fun p => { p with descriptors := now }

/-- The options and operands of a shell that is started as a program. -/
structure Invocation where
  /-- The script is the first operand. -/
  isCommand : Bool := false
  operands : List String := []

/-- Read the arguments of a shell.  The fuel counts arguments. -/
def invocation : Nat → Bool → List String → Run Invocation
  | 0, isCommand, operands => return { isCommand, operands }
  | fuel + 1, isCommand, arguments => do
    match arguments with
    | [] => return { isCommand }
    | first :: rest =>
      match first.toList with
      | ['-'] | ['-', '-'] => return { isCommand, operands := rest }
      | sign :: letters =>
        if sign = '-' ∨ sign = '+' then
          let mut rest := rest
          let mut isCommand := isCommand
          for c in letters do
            if c = 'c' then isCommand := true
            else if c = 'o' then
              Builtin.setNamedOption (sign = '-') rest.head?
              rest := rest.tail
            else if c ≠ 'l' then Builtin.setOption (sign = '-') c
          invocation fuel isCommand rest
        else return { isCommand, operands := arguments }
      | [] => return { isCommand, operands := arguments }

mutual

/-- Run a command.  With `tested` its failure does not end the shell; with `last` nothing follows it
in the process.  The fuel counts how deep commands stand inside one another. -/
def evaluate (fuel : Nat) (tested last : Bool) (command : Command) : Run Unit := do
  match fuel with
  | 0 => throw (.killed 11)
  | fuel + 1 =>
    if ← isOn 'n' then return
    let substitute : Substitute := substituted fuel
    let isChecked ←
      match command with
      | .simple line assignments words redirects =>
        simple fuel tested last line assignments words redirects
        pure true
      | .negated body =>
        evaluate fuel true false body
        setStatus (if (← process).status = 0 then 1 else 0)
        pure false
      | .sequence first second =>
        evaluate fuel tested false first
        evaluate fuel tested last second
        pure false
      | .both first second =>
        evaluate fuel true false first
        if (← process).status = 0 then evaluate fuel tested last second
        pure false
      | .either first second =>
        evaluate fuel true false first
        if (← process).status ≠ 0 then evaluate fuel tested last second
        pure false
      | .conditional test yes no =>
        evaluate fuel true false test
        if (← process).status = 0 then evaluate fuel tested last yes
        else
          match no with
          | some no => evaluate fuel tested last no
          | none => setStatus 0
        pure false
      | .loop isUntil test body =>
        change fun p => { p with loops := p.loops + 1 }
        let status ← andFinally
          (iterate maxRepetitions
            (fun (status : Nat) => do
              match ← round (evaluate fuel true false test) with
              | .again => return .inl status
              | .ended => return .inr status
              | .done =>
                if ((← process).status = 0) = (isUntil = true) then return .inr status
                match ← round (evaluate fuel tested false body) with
                | .ended => return .inr (← process).status
                | _ => return .inl (← process).status)
            0)
          (change fun p => { p with loops := p.loops - 1 })
        setStatus status
        pure false
      | .each line name words body =>
        change fun p => { p with line }
        let fields ← words.mapM (Expansion.fields substitute)
        change fun p => { p with loops := p.loops + 1 }
        setStatus 0
        andFinally
          (iterate maxRepetitions
            (fun (values : List String) => do
              match values with
              | [] => return .inr ()
              | value :: rest =>
                assign name value
                match ← round (evaluate fuel tested false body) with
                | .ended => return .inr ()
                | _ => return .inl rest)
            fields.flatten)
          (change fun p => { p with loops := p.loops - 1 })
        pure false
      | .choice line subject branches =>
        change fun p => { p with line }
        let text := (← Expansion.text substitute false subject).toList
        let chosen ← branches.findM? fun (patterns, _) =>
          patterns.anyM fun word => return Pattern.fits (← Expansion.pattern substitute word) text
        match chosen with
        | some (_, some body) =>
          evaluate fuel tested last body
        | _ => setStatus 0
        pure false
      | .define name body =>
        change fun p =>
          { p with functions := (name, body) :: p.functions.filter (·.1 ≠ name) }
        setStatus 0
        pure false
      | .redirected line body redirects =>
        change fun p => { p with line }
        let redirections ← redirects.mapM (expandRedirect substitute)
        redirected substitute redirections fun accepted => do
          if accepted then evaluate fuel tested false body
        pure false
      | .subshell line body redirects =>
        change fun p => { p with line }
        let redirections ← redirects.mapM (expandRedirect substitute)
        let outcome ← inChild fuel do
          if ← Redirection.applyAll (Expansion.document substitute) redirections then
            evaluate fuel tested true body
        conclude last outcome
        pure true
      | .background body =>
        let s ← get
        let number := s.nextProcess
        let null ← addStream .null
        let child := s.process.child number
        let child :=
          { child with descriptors := (0, null) :: child.descriptors.filter (·.1 ≠ 0) }
        let job : Job := { number, parent := s.process.number, process := child, body }
        modify fun s => { s with nextProcess := number + 1, jobs := s.jobs ++ [job] }
        change fun p => { p with lastJob := some number }
        setStatus 0
        pure true
      | .pipe parts =>
        pipeline fuel tested (← process).status parts none
        pure true
    notice fuel
    if isChecked ∧ ¬tested ∧ (← process).status ≠ 0 ∧ (← isOn 'e') then throw .ended
    if last then throw .ended

/-- Run commands of which each reads what the one before it writes; all of them start out from a
status. -/
def pipeline (fuel : Nat) (tested : Bool) (status : Nat) (parts : List Command)
    (input : Option Nat) : Run Unit := do
  match fuel with
  | 0 => throw (.killed 11)
  | fuel + 1 =>
    match parts with
    | [] => pure ()
    | part :: rest =>
      let output ← if rest.isEmpty then pure none else some <$> addStream (.pipe [])
      let outcome ← inChild fuel do
        setStatus status
        if let some index := input then connect 0 (some index)
        if let some index := output then connect 1 (some index)
        evaluate fuel tested true part
      conclude false outcome
      if ¬rest.isEmpty then pipeline fuel tested status rest output

/-- Run a simple command: its words are expanded first, then its redirections are carried out, then
its variables are set. -/
def simple (fuel : Nat) (tested last : Bool) (line : Nat) (assignments : List (String × Word))
    (words : List Word) (redirects : List Redirect) : Run Unit := do
  match fuel with
  | 0 => throw (.killed 11)
  | fuel + 1 =>
    change fun p => { p with line, outputStatus := 0 }
    let substitute : Substitute := substituted fuel
    let functions := (← process).functions
    let isFunction (name : String) : Bool := functions.any (·.1 == name)
    let (first, bare, rest) ← gather substitute isFunction words []
    let name := first.head?.getD ""
    let function? := if bare then none else functions.lookup name
    let isSpecial := function?.isNone && Builtin.specialNames.contains name
    let isOwn := function?.isNone && (isSpecial || Builtin.regularNames.contains name)
    let expand : Word → Run (List String) :=
      if isOwn ∧ Builtin.declaring.contains name then Expansion.argument substitute
      else Expansion.fields substitute
    let call := first ++ (← rest.mapM expand).flatten
    let isFatal := isSpecial && !bare
    -- variables stay after a special command and without any command
    let keeps := !(call.isEmpty || isFatal)
    let runsProgram := name == "exec" && isSpecial && 1 < call.length
    let redirections ← redirects.mapM (expandRedirect substitute)
    let descriptors := (← process).descriptors
    let body (accepted : Bool) : Run Unit := do
      if ¬accepted then
        if isFatal then throw .failed
      else
        let values ← assignments.mapM fun (name, word) => do
          let value ← Expansion.text substitute true word
          if keeps then keep name
          assign name value
          if keeps ∨ runsProgram then
            setVariable name (some { (← variableOf name).getD {} with exported := true })
          return name ++ "=" ++ value
        trace descriptors (values ++ call)
        match call with
        | [] => setStatus (← process).outputStatus
        | name :: arguments =>
          match function? with
          | some function => callFunction fuel tested function arguments
          | none =>
            if isOwn then
              underName name isFatal (own fuel tested name arguments)
            else external fuel last name arguments
    let whole : Run Unit :=
      if name = "exec" ∧ isSpecial then do
        body (← Redirection.applyAll (Expansion.document substitute) redirections)
      else redirected substitute redirections body
    if keeps then withKept whole else whole

/-- Call a function. -/
def callFunction (fuel : Nat) (tested : Bool) (body : Command) (arguments : List String) :
    Run Unit := do
  match fuel with
  | 0 => throw (.killed 11)
  | fuel + 1 =>
    let before ← process
    if before.calls ≥ maxCalls then
      fail ("Maximum function recursion depth (" ++ toString maxCalls ++ ") reached")
    change fun p =>
      { p with
        parameters := arguments
        optionIndex := 1
        optionOffset := none
        loops := 0
        calls := p.calls + 1 }
    let result ← attempt (evaluate fuel tested false body)
    change fun p =>
      { p with
        parameters := before.parameters
        optionIndex := before.optionIndex
        optionOffset := before.optionOffset
        loops := before.loops
        calls := before.calls }
    match result with
    | .error .function => pure ()
    | result => resume result

/-- Run a command of the shell. -/
def own (fuel : Nat) (tested : Bool) (name : String) (arguments : List String) : Run Nat := do
  match fuel with
  | 0 => throw (.killed 11)
  | fuel + 1 =>
    match name with
    | "eval" =>
      script fuel tested false (" ".intercalate arguments)
      return (← process).status
    | "." =>
      match (← Builtin.options "" "" arguments).operands with
      | [] => return 0
      | path :: _ =>
        let found ←
          if path.toList.contains '/' then pure (some path)
          else
            (← candidates path).findM? fun path => do
              match ← node? path with
              | some (.file _) => return true
              | _ => return false
        match found with
        | none => fail (path ++ ": not found")
        | some path =>
          let data ←
            match ← load path with
            | .ok data => pure data
            | .error .isADirectory => pure []
            | .error fault =>
              fail ("cannot open " ++ path ++ ": " ++ Redirection.reason "No such file" fault)
          change fun p => { p with command := some path }
          match ← attempt (script fuel tested false (ofBytes data)) with
          | .ok () | .error .function => return (← process).status
          | .error other => throw other
    | "exec" =>
      match arguments with
      | [] => return 0
      | name :: arguments =>
        match ← locate name with
        | none =>
          reportMissing name
          throw .ended
        | some path =>
          match ← programAt path with
          | .missing =>
            warn (name ++ ": not found")
            setStatus 127
            throw .ended
          | .unreadable =>
            warn (name ++ ": Permission denied")
            setStatus 126
            throw .ended
          | program =>
            change fun p =>
              { p with traps := p.traps.filter fun (signal, action) => signal ≠ 0 ∧ action = "" }
            start fuel program name arguments
            throw .ended
    | "command" =>
      let given ← Builtin.options "pvV" "" arguments
      match given.letters.filter (·.1 ≠ 'p') with
      | [] => return 0
      | letters => describeAll (letters.any (·.1 == 'V')) (given.operands.take 1)
    | "type" => describeAll true arguments
    | "hash" => hash arguments
    | "wait" =>
      let operands := (← Builtin.options "" "" arguments).operands
      let number := (← process).number
      if operands.isEmpty then
        for job in (← get).jobs do
          if job.parent = number then discard <| finishJob fuel job.number
        return 0
      let mut status := 0
      for text in operands do
        let number ←
          if text.startsWith "%" then Builtin.jobNamed text else Builtin.count text
        status := (← finishJob fuel number).getD 127
      return status
    | _ =>
      match (Builtin.special.lookup name).or (Builtin.regular.lookup name) with
      | some builtin => builtin arguments
      | none => fail (name ++ ": not found")

/-- Run a program in a child. -/
def external (fuel : Nat) (last : Bool) (name : String) (arguments : List String) : Run Unit := do
  match fuel with
  | 0 => throw (.killed 11)
  | fuel + 1 =>
    match ← locate name with
    | none => reportMissing name
    | some path =>
      remember name path
      match ← programAt path with
      | .missing =>
        warn (name ++ ": not found")
        setStatus 127
      | .unreadable =>
        warn (name ++ ": Permission denied")
        setStatus 126
      | program => conclude last (← inChild fuel (start fuel program name arguments))

/-- Run a program in this process, up to its end. -/
def start (fuel : Nat) (program : Program) (name : String) (arguments : List String) :
    Run Unit := do
  match fuel with
  | 0 => throw (.killed 11)
  | fuel + 1 =>
    match program with
    | .missing | .unreadable => setStatus 126
    | .script path => shell fuel path (path :: arguments)
    | .interpreted base interpreter argument path =>
      start fuel (.utility base) interpreter (argument.toList ++ path :: arguments)
    | .utility base =>
      change fun p => { p with program := name }
      let execute (call : List String) : Run (Except (String × Nat) Outcome) := do
        match call with
        | [] => return .ok (.exited 0)
        | name :: arguments =>
          match ← programNamed name with
          | .error fault => return .error fault
          | .ok program => return .ok (← inChild fuel (start fuel program name arguments))
      let finish (utility : Utility) : Run Unit := do
        let status ← utility arguments
        if (← process).lostOutput then
          complain (name ++ ": write error: Bad file descriptor")
          setStatus (max 1 status)
        else setStatus status
      match base with
      | "sh" | "dash" => shell fuel name arguments
      | "env" =>
        let run (given : Utility.Given) : Run Nat := do
          changedEnvironment fuel given
          return (← process).status
        setStatus (← Utility.withOptions Utility.envOptions 125 run arguments)
      | "nice" | "nohup" | "timeout" => wrapped fuel base arguments
      | "which" => finish which
      | _ =>
        match (Utility.table.lookup base).or ((Utility.running execute).lookup base) with
        | some utility => finish utility
        | none => setStatus 127

/-- Run a program by its name in this process, on behalf of another one, which tells in its own
words why that cannot be done. -/
def named (fuel : Nat) (words : String → String) (call : List String) : Run Unit := do
  match fuel with
  | 0 => throw (.killed 11)
  | fuel + 1 =>
    match call with
    | [] => setStatus 0
    | name :: arguments =>
      match ← programNamed name with
      | .ok program => start fuel program name arguments
      | .error (text, status) =>
        Utility.report (words (Utility.quote name ++ ": " ++ text))
        setStatus status

/-- Run a program under other conditions, which make no difference here. -/
def wrapped (fuel : Nat) (base : String) (arguments : List String) : Run Unit := do
  match fuel with
  | 0 => throw (.killed 11)
  | fuel + 1 =>
    let known : Utility.Known :=
      match base with
      | "nice" => { valued := "n", long := [("adjustment", 'n')], mixed := false }
      | "timeout" =>
        { plain := "v", valued := "ks", mixed := false
          long := [("kill-after", 'k'), ("signal", 's')] }
      | _ => { mixed := false }
    let failed (words : String) : String := "failed to run command " ++ words
    let run (given : Utility.Given) : Run Nat := do
      match base, given.operands with
      | "nice", [] =>
        writeLine "0"
        return 0
      | "nice", call =>
        named fuel id call
        return (← process).status
      | "nohup", [] => Utility.missingOperand 125
      | "nohup", call =>
        named fuel failed call
        return (← process).status
      | _, interval :: name :: rest =>
        if Utility.isInterval interval then
          named fuel failed (name :: rest)
          return (← process).status
        else
          Utility.misused ("invalid time interval " ++ Utility.quoteWord interval)
          return 125
      | _, _ =>
        complain ("Try '" ++ (← process).program ++ " --help' for more information.")
        return 125
    setStatus (← Utility.withOptions known 125 run arguments)

/-- Run a program with other variables, or list the variables. -/
def changedEnvironment (fuel : Nat) (given : Utility.Given) : Run Unit := do
  match fuel with
  | 0 => throw (.killed 11)
  | fuel + 1 =>
    let isDash := given.operands.head? = some "-"
    if given.has 'i' ∨ isDash then
      change fun p =>
        { p with bindings := Entries.ofList (p.bindings.toList.filter fun e => !e.2.exported) }
    for (c, name) in given.options do
      if c = 'u' then setVariable name none
    let words := if isDash then given.operands.tail else given.operands
    let settings := words.takeWhile fun word => word.toList.contains '='
    for setting in settings do
      let (name, value) := Builtin.splitAssignment setting
      setVariable name (some { value, exported := true })
    match words.drop settings.length with
    | [] =>
      let ending := if given.has '0' then "\x00" else "\n"
      for (name, value) in ← environment do write (name ++ "=" ++ value ++ ending)
      setStatus 0
    | call => named fuel id call

/-- Be a shell that is started as a program. -/
def shell (fuel : Nat) (name : String) (arguments : List String) : Run Unit := do
  match fuel with
  | 0 => throw (.killed 11)
  | fuel + 1 =>
    change fun p => { p.fresh name with line := 0 }
    let given ← invocation (arguments.length + 1) false arguments
    let begin (name : String) (parameters : List String) : Run Unit :=
      change fun p => { p with name, parameters, line := 1 }
    match given.isCommand, given.operands with
    | true, [] => fail "-c requires an argument"
    | true, [text] => script fuel false true text
    | true, text :: name :: parameters =>
      begin name parameters
      script fuel false true text
    | false, [] =>
      let data ← readAll 0
      script fuel false false (ofBytes (data.getD []))
    | false, path :: parameters =>
      if ← isOn 's' then
        let data ← readAll 0
        begin name given.operands
        script fuel false false (ofBytes (data.getD []))
      else
        match ← load path with
        | .ok data =>
          begin path parameters
          script fuel false false (ofBytes data)
        | .error .isADirectory => setStatus 0
        | .error fault =>
          fail ("cannot open " ++ path ++ ": " ++ Redirection.reason "No such file" fault)

/-- Run a script. -/
def script (fuel : Nat) (tested last : Bool) (text : String) : Run Unit := do
  match fuel with
  | 0 => throw (.killed 11)
  | fuel + 1 =>
    let ran : Bool ← iterate maxRepetitions
      (fun ((source, ran) : Source × Bool) => do
        let s ← get
        let source :=
          { source with aliases := s.process.aliases, documents := [], next := s.nextDocument }
        match nextCommand source with
        | .error misplaced =>
          change fun p => { p with line := misplaced.line }
          fail ("Syntax error: " ++ misplaced.message)
        | .ok (none, _) => return .inr ran
        | .ok (some command, source) =>
          modify fun s =>
            { s with
              documents := source.documents ++ s.documents
              nextDocument := source.next }
          let isLast :=
            match source.ahead with
            | some .endOfFile => true
            | _ => false
          change fun p => { p with reached := source.line }
          match command with
          | none => return .inl (source, ran)
          | some command =>
            evaluate fuel tested (last && isLast) command
            return .inl (source, true))
      ({ chars := text.toList }, false)
    if !ran then setStatus 0

/-- Run a command in a child and take its output. -/
def substituted (fuel : Nat) (command : Command) : Run String := do
  match fuel with
  | 0 => throw (.killed 11)
  | fuel + 1 =>
    let index ← addStream (.pipe [])
    let before := (← process).status
    let outcome ← inChild fuel do
      connect 1 (some index)
      evaluate fuel false true command
    conclude false outcome
    setStatus before
    change fun p => { p with outputStatus := outcome.status }
    match (← get).streams[index]? with
    | some (.pipe data) =>
      setStream index (.pipe [])
      return ofBytes data
    | _ => return ""

/-- Run an action in a child. -/
def inChild (fuel : Nat) (action : Run Unit) : Run Outcome := do
  match fuel with
  | 0 => throw (.killed 11)
  | fuel + 1 =>
    let parent ← process
    let number := (← get).nextProcess
    modify fun s => { s with nextProcess := number + 1, process := parent.child number }
    let result ← attempt action
    let outcome ← finish fuel result
    change fun _ => parent
    return outcome

/-- Bring a process to its end, given how its last action was left. -/
def finish (fuel : Nat) (result : Except Leave Unit) : Run Outcome := do
  match fuel with
  | 0 => throw (.killed 11)
  | fuel + 1 =>
    let p ← process
    let outcome ←
      match result, p.traps.lookup 0 with
      | .error (.killed signal), _ => pure (Outcome.killed signal)
      | _, none | _, some "" => pure (Outcome.exited p.status)
      | _, some action =>
        change fun p =>
          { p with
            traps := p.traps.filter (·.1 ≠ 0), trapStatus := some p.status, loops := 0, calls := 0 }
        match ← attempt (script fuel false false action) with
        | .error (.killed signal) => pure (Outcome.killed signal)
        | .error .ended | .error .failed => pure (Outcome.exited (← process).status)
        | _ => pure (Outcome.exited p.status)
    for job in (← get).jobs do
      if job.parent = p.number then discard <| finishJob fuel job.number
    return outcome

/-- Run a job to its end, unless it has; its status. -/
def finishJob (fuel : Nat) (number : Nat) : Run (Option Nat) := do
  match fuel with
  | 0 => throw (.killed 11)
  | fuel + 1 =>
    match (← get).jobs.find? (·.number = number) with
    | none => return none
    | some job =>
      match job.outcome with
      | some status => return some status
      | none =>
        let current ← process
        change fun _ => job.process
        let result ← attempt do
          notice fuel
          evaluate fuel false true job.body
        let outcome ← finish fuel result
        change fun _ => current
        let done (other : Job) : Job :=
          if other.number = number then { other with outcome := some outcome.status } else other
        modify fun s => { s with jobs := s.jobs.map done }
        if let .killed signal := outcome then
          if ¬Signal.isQuiet signal then complain (Signal.description signal)
        return some outcome.status

/-- Notice the signals that have been sent to this process. -/
def notice (fuel : Nat) : Run Unit := do
  match fuel with
  | 0 => throw (.killed 11)
  | fuel + 1 =>
    let number := (← process).number
    let sent := (← get).signals.filter (·.1 = number)
    if sent.isEmpty then return
    modify fun s => { s with signals := s.signals.filter (·.1 ≠ number) }
    for (_, signal) in sent do
      let p ← process
      match p.traps.lookup signal with
      | some "" => pure ()
      | some action =>
        let status := p.trapStatus.getD p.status
        change fun p => { p with trapStatus := some status }
        let result ← attempt (script fuel false false action)
        change fun q => { q with trapStatus := p.trapStatus }
        match result with
        | .ok () => setStatus status
        | .error other => throw other
      | none => if ¬Signal.isHarmless signal then throw (.killed signal)

end

end BootLayer.Shell
