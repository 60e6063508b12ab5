import BootLayer.Shell.Builtin
import BootLayer.Shell.Redirection

/-!
What the utilities have in common: how they read their options, take their input, quote names in
complaints and turn bytes into lines.  A utility takes its arguments and gives a status, like a
command of the shell.
-/

namespace BootLayer.Shell

/-- A program that is not a shell. -/
abbrev Utility : Type := List String → Run Nat

namespace Utility

open Run

/-! ### Options -/

/-- The options that a utility knows. -/
structure Known where
  /-- Letters by themselves. -/
  plain : String := ""
  /-- Letters that take an argument. -/
  valued : String := ""
  /-- Long names, each for a letter. -/
  long : List (String × Char) := []
  /-- Options may stand after operands. -/
  mixed : Bool := true

/-- Options, each with its argument, and operands. -/
structure Given where
  options : List (Char × String) := []
  operands : List String := []

/-- The option is among those given. -/
def Given.has (given : Given) (c : Char) : Bool := given.options.any (·.1 == c)

/-- The argument of the last option of a letter. -/
def Given.value? (given : Given) (c : Char) : Option String :=
  (given.options.reverse.find? (·.1 == c)).map Prod.snd

/-- The long options that a name may mean. -/
def Known.matching (known : Known) (name : String) : List (String × Char) :=
  match known.long.filter (·.1 == name) with
  | [] => known.long.filter fun (full, _) => full.startsWith name
  | exact' => exact'

/-- Read options and operands, or tell what is wrong.  The fuel counts arguments and characters. -/
def Known.read (known : Known) : Nat → List String → Given → Except String Given
  | 0, rest, given => .ok { given with operands := given.operands ++ rest }
  | _, [], given => .ok given
  | fuel + 1, first :: rest, given =>
    let isKnown (c : Char) : Bool := known.plain.toList.contains c
    let takes (c : Char) : Bool := known.valued.toList.contains c
    let add (c : Char) (value : String) : Given :=
      { given with options := given.options ++ [(c, value)] }
    match first.toList with
    | ['-', '-'] => .ok { given with operands := given.operands ++ rest }
    | '-' :: '-' :: text =>
      let name := text.takeWhile (· ≠ '=')
      let value := (text.drop name.length).tail
      let shown := "--" ++ String.ofList name
      match known.matching (String.ofList name) with
      | [] => .error ("unrecognized option '--" ++ String.ofList text ++ "'")
      | (full, c) :: others =>
        if others.any (·.2 ≠ c) then
          let listed := ((full, c) :: others).map fun (full, _) => " '--" ++ full ++ "'"
          .error ("option '" ++ shown ++ "' is ambiguous; possibilities:" ++ String.join listed)
        else if takes c then
          if name.length < text.length then known.read fuel rest (add c (String.ofList value))
          else
            match rest with
            | value :: rest => known.read fuel rest (add c value)
            | [] => .error ("option '--" ++ full ++ "' requires an argument")
        else if name.length < text.length then
          .error ("option '--" ++ full ++ "' doesn't allow an argument")
        else known.read fuel rest (add c "")
    | '-' :: c :: more =>
      let next := if more.isEmpty then rest else String.ofList ('-' :: more) :: rest
      if isKnown c then known.read fuel next (add c "")
      else if takes c then
        if ¬more.isEmpty then known.read fuel rest (add c (String.ofList more))
        else
          match rest with
          | value :: rest => known.read fuel rest (add c value)
          | [] => .error ("option requires an argument -- '" ++ String.singleton c ++ "'")
      else .error ("invalid option -- '" ++ String.singleton c ++ "'")
    | _ =>
      if known.mixed then
        known.read fuel rest { given with operands := given.operands ++ [first] }
      else .ok { given with operands := given.operands ++ first :: rest }

/-- Complain in the name of the utility. -/
def report (text : String) : Run Unit := do
  complain ((← process).program ++ ": " ++ text)

/-- Tell in the name of the utility what it does. -/
def announce (text : String) : Run Unit := do
  writeLine ((← process).program ++ ": " ++ text)

/-- Complain about the way a utility was called, and point to its help. -/
def misused (text : String) : Run Unit := do
  report text
  complain ("Try '" ++ (← process).program ++ " --help' for more information.")

/-- Run a utility on the options and operands it was given; the status is for those it does not
know. -/
def withOptions (known : Known) (status : Nat) (action : Given → Run Nat) : Utility :=
  fun arguments => do
    let size := arguments.foldl (fun n text => n + text.length + 1) 1
    match known.read size arguments {} with
    | .ok given => action given
    | .error text =>
      misused text
      return status

/-- The complaint that an operand is missing. -/
def missingOperand (status : Nat) : Run Nat := do
  misused "missing operand"
  return status

/-! ### Names in complaints -/

/-- The character has to be quoted where a name stands by itself. -/
def needsQuotes (isFirst : Bool) (c : Char) : Bool :=
  " !\"$&()*:;<=>[^\x60|?\\'".toList.contains c || (isFirst && (c == '#' || c == '~'))

/-- The character can be shown. -/
def isShown (c : Char) : Bool := ' ' ≤ c && c ≤ '~'

/-- A character that cannot be shown, as an escape. -/
def escaped (c : Char) : String :=
  match [('\x07', "a"), ('\x08', "b"), ('\t', "t"), ('\n', "n"), ('\x0b', "v"), ('\x0c', "f"),
      ('\r', "r")].lookup c with
  | some letter => "\\" ++ letter
  | none =>
    let digits := Nat.toDigits 8 c.toNat
    "\\" ++ String.ofList (List.replicate (3 - digits.length) '0' ++ digits)

/-- Text between quotes, with escapes between quotes of their own. -/
def quoteParts : Nat → List Char → String
  | 0, _ => ""
  | _, [] => ""
  | fuel + 1, cs =>
    let shown := cs.takeWhile isShown
    let rest := cs.drop shown.length
    let hidden := rest.takeWhile fun c => !isShown c
    let after := rest.drop hidden.length
    let quote (c : Char) : List Char := if c = '\'' then "'\\''".toList else [c]
    let first := if shown.isEmpty then "" else "'" ++ String.ofList (shown.flatMap quote) ++ "'"
    let second :=
      if hidden.isEmpty then "" else "$'" ++ String.join (hidden.map escaped) ++ "'"
    first ++ second ++ quoteParts fuel after

/-- A name between quotes. -/
def quote (name : String) : String :=
  let cs := name.toList
  if cs.all isShown then
    if cs.contains '\'' ∧ cs.all fun c => !"\"$\x60\\!".toList.contains c then "\"" ++ name ++ "\""
    else if cs.isEmpty then "''"
    else quoteParts (cs.length + 1) cs
  else
    let text := quoteParts (cs.length + 1) cs
    if text.startsWith "$" then "''" ++ text else text

/-- A word between quotes, with escapes for quotes, backslashes and what cannot be shown. -/
def quoteWord (word : String) : String :=
  let shown (c : Char) : String :=
    if c = '\'' ∨ c = '\\' then "\\" ++ String.singleton c
    else if isShown c then String.singleton c
    else escaped c
  "'" ++ String.join (word.toList.map shown) ++ "'"

/-- A name, between quotes if it needs them. -/
def quoteIfNeeded (name : String) : String :=
  let cs := name.toList
  let isPlain := !cs.isEmpty && cs.all isShown &&
    (cs.zipIdx.all fun (c, i) => !needsQuotes (i == 0) c) && name != "\x7b" && name != "\x7d"
  if isPlain then name else quote name

/-- Why something about a file failed. -/
def reason : IoFault → String
  | .notFound => "No such file or directory"
  | .notADirectory => "Not a directory"
  | .isADirectory => "Is a directory"
  | .nameTooLong => "File name too long"
  | _ => "Invalid argument"

/-! ### Input -/

/-- What there is to read under a name; a dash stands for the standard input.  If there is nothing,
the reason, and whether the file could be opened. -/
def input (name : String) : Run (Except (String × Bool) Bytes) := do
  let device := if name = "-" then some 0 else Redirection.device? name
  match device with
  | some descriptor =>
    match ← readAll descriptor with
    | some data => return .ok data
    | none => return .error (← unreadable descriptor, true)
  | none =>
    match ← load name with
    | .ok data => return .ok data
    | .error fault => return .error (reason fault, fault == .isADirectory)

/-- Read the inputs of a utility one after the other.  Those that cannot be read are complained
about in the given words. -/
def inputs (words : String → String → Bool → String) (names : List String) :
    Run (List (String × Bytes) × Nat) := do
  let names := if names.isEmpty then ["-"] else names
  let mut found := #[]
  let mut status := 0
  for name in names do
    match ← input name with
    | .ok data => found := found.push (name, data)
    | .error (text, opened) =>
      report (words name text opened)
      status := 1
  return (found.toList, status)

/-- The usual words for an input that cannot be read. -/
def plainly (name text : String) (_opened : Bool) : String :=
  quoteIfNeeded name ++ ": " ++ text

/-! ### Lines -/

/-- The lines of some bytes with their ends; the last one may lack it. -/
def linesWithEnds (ending : UInt8) : Bytes → List Bytes
  | [] => []
  | b :: rest =>
    if b = ending then [b] :: linesWithEnds ending rest
    else
      match linesWithEnds ending rest with
      | first :: lines => (b :: first) :: lines
      | [] => [[b]]

/-- The lines of some bytes without their ends. -/
def splitLines (ending : UInt8) : Bytes → List Bytes
  | [] => []
  | b :: rest =>
    if b = ending then [] :: splitLines ending rest
    else
      match splitLines ending rest with
      | first :: lines => (b :: first) :: lines
      | [] => [[b]]

/-- Some bytes end in a line end. -/
def endsLine (ending : UInt8) (data : Bytes) : Bool := data.getLast? == some ending

/-- The bytes of a text and of a line end. -/
def lineOf (text : String) : Bytes := bytesOf (text ++ "\n")

/-- A number with blanks in front of it. -/
def padLeft (width : Nat) (text : String) : String :=
  String.ofList (List.replicate (width - text.length) ' ') ++ text

/-- Write bytes to the standard output. -/
def put (data : Bytes) : Run Unit := discard <| writeTo 1 data

end Utility

end BootLayer.Shell
