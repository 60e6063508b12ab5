import BootLayer.CommandLine.Command
import BootLayer.Number.Decimal

/-!
Reading the words of a command line.  Words are taken one by one, first at the top level and, from
the name of a command on, at the level of that command.  A word is an option, a cluster of
one-letter switches, a value for the option before it, or a positional; after `--` every word is a
positional.

A value is only looked at when the next option or positional begins or the words end, so of several
faults the one that is looked at first is reported.
-/

namespace BootLayer.CommandLine

/-- How the words of a command line are refused, or answered without running a command. -/
inductive Usage where
  | displayHelp
  | displayVersion
  | displayHelpOnMissing
  | missingSubcommand
  | invalidSubcommand
  | missingRequired
  | unknownArgument
  | invalidValue
  | tooManyValues
  | conflict
  | valueValidation
  deriving DecidableEq, Repr

/-! ### What there is to be given -/

/-- An option that takes a value. -/
inductive Valued where
  | config
  | identity
  | text
  | hex
  deriving DecidableEq, Repr

/-- An option that takes none. -/
inductive Switch where
  | verbose
  | template
  | raw
  | help
  | version
  deriving DecidableEq, Repr

/-- The name of a command. -/
inductive CommandName where
  | detect
  | config
  | join
  | merge
  | number
  | istype
  | fpack
  | funpack
  | system
  | load
  | read
  | save
  | argv
  deriving DecidableEq, Repr

namespace CommandName

/-- All names. -/
def all : List CommandName :=
  [detect, config, join, merge, number, istype, fpack, funpack, system, load, read, save, argv]

/-- The word of a name. -/
def word : CommandName → String
  | detect => "detect"
  | config => "config"
  | join => "join"
  | merge => "merge"
  | number => "number"
  | istype => "istype"
  | fpack => "fpack"
  | funpack => "funpack"
  | system => "system"
  | load => "load"
  | read => "read"
  | save => "save"
  | argv => "argv"

/-- The name of a word. -/
def ofWord? (w : String) : Option CommandName := all.find? fun c => c.word == w

/-- How many positionals a command needs. -/
def positionals : CommandName → Nat
  | detect | config | join | argv => 0
  | merge | istype => 2
  | _ => 1

/-- The command takes any number of positionals. -/
def isVariadic (c : CommandName) : Bool := c == join

/-- A word that starts with a hyphen may be a positional, unless it is a known option. -/
def allowsHyphen (c : CommandName) : Bool := c == number || c == fpack

end CommandName

/-- The word that shows help for a command. -/
def helpWord : String := "help"

/-- The top level, or the level of a command. -/
abbrev Level : Type := Option CommandName

namespace Level

/-- The option of a long name. -/
def valued? (level : Level) (name : String) : Option Valued :=
  if name = "config" then some .config
  else if name = "identity" then some .identity
  else if level = some .save ∧ name = "text" then some .text
  else if level = some .save ∧ name = "hex" then some .hex
  else none

/-- The switch of a long name. -/
def switch? (level : Level) (name : String) : Option Switch :=
  if name = "verbose" then some .verbose
  else if name = "help" then some .help
  else if level = none ∧ name = "version" then some .version
  else if level = some .config ∧ name = "template" then some .template
  else if (level = some .join ∨ level = some .load) ∧ name = "raw" then some .raw
  else none

/-- The switch of a letter. -/
def letter? (level : Level) (c : Char) : Option Switch :=
  if c = 'v' then some .verbose
  else if c = 'h' then some .help
  else if level = none ∧ c = 'V' then some .version
  else none

/-- There is a positional after `taken` others. -/
def hasPositional (level : Level) (taken : Nat) : Bool :=
  match level with
  | some c => c.isVariadic || taken < c.positionals
  | none => false

/-- The positional after `taken` others may start with a hyphen. -/
def hyphenAt (level : Level) (taken : Nat) : Bool :=
  match level with
  | some c => c.allowsHyphen && taken < c.positionals
  | none => false

end Level

/-! ### What has been given -/

/-- What the words of one level have given so far. -/
structure Given where
  config : Option String := none
  identity : Option String := none
  text : Option String := none
  hex : Option String := none
  verbose : Bool := false
  template : Bool := false
  raw : Bool := false
  positionals : List String := []
  deriving DecidableEq, Repr

namespace Given

/-- The value of an option. -/
def valueOf (given : Given) : Valued → Option String
  | .config => given.config
  | .identity => given.identity
  | .text => given.text
  | .hex => given.hex

/-- Give an option its value.  Only the configuration path must not be empty, and nothing is given
twice. -/
def setValue (given : Given) (option : Valued) (value : String) : Except Usage Given :=
  if (given.valueOf option).isSome then .error .conflict
  else if option = .config ∧ value = "" then .error .invalidValue
  else .ok <|
    match option with
    | .config => { given with config := some value }
    | .identity => { given with identity := some value }
    | .text => { given with text := some value }
    | .hex => { given with hex := some value }

/-- Turn a switch on. -/
def setSwitch (given : Given) : Switch → Except Usage Given
  | .help => .error .displayHelp
  | .version => .error .displayVersion
  | .verbose => if given.verbose then .error .conflict else .ok { given with verbose := true }
  | .template => if given.template then .error .conflict else .ok { given with template := true }
  | .raw => if given.raw then .error .conflict else .ok { given with raw := true }

/-- Add positionals.  That of `fpack` has to be a number. -/
def addPositionals (given : Given) (level : Level) (values : List String) : Except Usage Given :=
  if level = some .fpack ∧ values.any (fun v => (Numeral.read v.toList).isNone) then
    .error .valueValidation
  else .ok { given with positionals := given.positionals ++ values }

/-- Nothing has been given. -/
def isEmpty (given : Given) : Bool :=
  given.config.isNone && given.identity.isNone && !given.verbose

end Given

/-- Words that have been taken but not yet looked at. -/
inductive Pending where
  | nothing
  | value (option : Valued) (word : Option String)
  | positionals (words : List String)
  deriving DecidableEq, Repr

/-- The state between two words of a level. -/
structure Scan where
  given : Given := {}
  pending : Pending := .nothing
  /-- How many positionals have been taken. -/
  taken : Nat := 0
  /-- All further words are positionals. -/
  trailing : Bool := false
  deriving DecidableEq, Repr

namespace Scan

/-- Look at the pending words. -/
def settle (scan : Scan) (level : Level) : Except Usage Scan :=
  match scan.pending with
  | .nothing => .ok scan
  | .value _ none => .error .invalidValue
  | .value option (some word) =>
    (scan.given.setValue option word).map fun given => { scan with given, pending := .nothing }
  | .positionals words =>
    (scan.given.addPositionals level words).map fun given =>
      { scan with given, pending := .nothing }

/-- Turn a switch on. -/
def turnOn (scan : Scan) (level : Level) (switch : Switch) : Except Usage Scan :=
  match scan.settle level with
  | .error fault => .error fault
  | .ok scan => (scan.given.setSwitch switch).map fun given => { scan with given }

/-- Turn on the switches of a cluster of letters. -/
def turnOnAll (level : Level) : Scan → List Char → Except Usage Scan
  | scan, [] => .ok scan
  | scan, c :: rest =>
    match level.letter? c with
    | none => .error .unknownArgument
    | some switch =>
      match scan.turnOn level switch with
      | .error fault => .error fault
      | .ok scan => turnOnAll level scan rest

/-- Take the word as the value that an option waits for, or as a positional. -/
def takeWord (scan : Scan) (level : Level) (word : String) : Except Usage Scan :=
  match scan.trailing, scan.pending with
  | false, .value option none => .ok { scan with pending := .value option (some word) }
  | _, _ =>
    if level.hasPositional scan.taken then
      match scan.pending, level with
      | .positionals words, some .join =>
        .ok { scan with pending := .positionals (words ++ [word]), taken := scan.taken + 1 }
      | _, _ =>
        (scan.settle level).map fun scan =>
          { scan with pending := .positionals [word], taken := scan.taken + 1 }
    else
      match level with
      | some _ => .error .unknownArgument
      | none =>
        if scan.trailing ∧ (word = helpWord ∨ (CommandName.ofWord? word).isSome) then
          .error .unknownArgument
        else .error .invalidSubcommand

/-- Take a word that starts with two hyphens: a name, and a value if an equals sign follows. -/
def takeLong (scan : Scan) (level : Level) (word : String) (body : List Char) :
    Except Usage Scan :=
  let name := String.ofList (body.takeWhile (· ≠ '='))
  let value : Option String :=
    match body.dropWhile (· ≠ '=') with
    | _ :: rest => some (String.ofList rest)
    | [] => none
  match level.valued? name, level.switch? name, value with
  | some option, _, some value =>
    match scan.settle level with
    | .error fault => .error fault
    | .ok scan => (scan.given.setValue option value).map fun given => { scan with given }
  | some option, _, none =>
    (scan.settle level).map fun scan => { scan with pending := .value option none }
  | none, some _, some _ => .error .tooManyValues
  | none, some switch, none => scan.turnOn level switch
  | none, none, _ =>
    if level.hyphenAt scan.taken then scan.takeWord level word else .error .unknownArgument

/-- Take a word that starts with one hyphen: a cluster of letters. -/
def takeShort (scan : Scan) (level : Level) (word : String) (letters : List Char) :
    Except Usage Scan :=
  if level.hyphenAt scan.taken ∧ letters.any (fun c => (level.letter? c).isNone) then
    scan.takeWord level word
  else turnOnAll level scan letters

/-- Take one word of a level. -/
def take (scan : Scan) (level : Level) (word : String) : Except Usage Scan :=
  if scan.trailing then scan.takeWord level word
  else match word.toList with
    | ['-', '-'] => .ok { scan with trailing := true }
    | '-' :: '-' :: body => scan.takeLong level word body
    | '-' :: c :: letters => scan.takeShort level word (c :: letters)
    | _ => scan.takeWord level word

/-- The scan is in the middle of an option: the next word is its value. -/
def awaits (scan : Scan) : Bool :=
  match scan.pending with
  | .value _ none => true
  | _ => false

/-- Take all words of a level. -/
def takeAll (level : Level) : Scan → List String → Except Usage Scan
  | scan, [] => .ok scan
  | scan, word :: rest =>
    match scan.take level word with
    | .error fault => .error fault
    | .ok scan => takeAll level scan rest

end Scan

/-! ### A command -/

/-- The command that the words of its level describe.  Conflicts come before gaps. -/
def commandOf (name : CommandName) (given : Given) : Except Usage Command :=
  if given.text.isSome ∧ given.hex.isSome then .error .conflict
  else match name, given.positionals with
    | .detect, _ => .ok .detect
    | .config, _ => .ok (.config given.template)
    | .join, parts => .ok (.primitive (.join parts given.raw))
    | .merge, [target, source] => .ok (.primitive (.merge target source))
    | .number, [text] => .ok (.primitive (.number text))
    | .istype, [value, tag] => .ok (.primitive (.istype value tag))
    | .fpack, [text] =>
      match Numeral.read text.toList with
      | some numeral => .ok (.primitive (.fpack numeral.toDouble))
      | none => .error .valueValidation
    | .funpack, [hex] => .ok (.primitive (.funpack hex))
    | .system, [command] => .ok (.primitive (.system command))
    | .load, [path] => .ok (.primitive (.load path given.raw))
    | .read, [path] => .ok (.primitive (.read path))
    | .save, [path] =>
      if given.text.isNone ∧ given.hex.isNone then .error .missingRequired
      else .ok (.primitive (.save path given.text given.hex))
    | .argv, _ => .ok (.primitive .argv)
    | _, _ => .error .missingRequired

/-- Read the words after the name of a command. -/
def readCommand (name : CommandName) (words : List String) : Except Usage (Given × Command) :=
  match Scan.takeAll (some name) {} words with
  | .error fault => .error fault
  | .ok scan =>
    match scan.settle (some name) with
    | .error fault => .error fault
    | .ok scan => (commandOf name scan.given).map fun command => (scan.given, command)

/-! ### The whole line -/

/-- Which help is asked for after the word `help`: that of the program or that of a command. -/
def readHelp : List String → Usage
  | [] => .displayHelp
  | [word] =>
    if word = helpWord ∨ (CommandName.ofWord? word).isSome then .displayHelp
    else .invalidSubcommand
  | _ => .invalidSubcommand

/-- Read the words from the top level on.  An option given at both levels counts as given after
the name of the command. -/
def readTop (scan : Scan) : List String → Except Usage Invocation
  | [] =>
    match scan.settle none with
    | .error fault => .error fault
    | .ok scan => .error (if scan.given.isEmpty then .displayHelpOnMissing else .missingSubcommand)
  | word :: rest =>
    let isName := !scan.trailing && !scan.awaits
    if isName ∧ word = helpWord then .error (readHelp rest)
    else match isName, CommandName.ofWord? word with
      | true, some name =>
        match readCommand name rest with
        | .error fault => .error fault
        | .ok (inner, command) =>
          (scan.settle none).map fun outer =>
            { config := inner.config.or outer.given.config
              identity := inner.identity.or outer.given.identity
              verbose := inner.verbose || outer.given.verbose
              command }
      | _, _ =>
        match scan.take none word with
        | .error fault => .error fault
        | .ok scan => readTop scan rest

/-- Read the words of a command line, the name of the program left out. -/
def readArguments (words : List String) : Except Usage Invocation := readTop {} words

end BootLayer.CommandLine
