import BootLayer.Shell.Regex

/-!
Programs of the line editor.  A program is a list of steps, each with the lines it applies to; a
block knows where it ends.  `Program.read` reads a program, or tells what is wrong and after how
many characters.
-/

namespace BootLayer.Shell.Utility.Editor

/-! ### Steps -/

/-- An expression; without one the last expression used is meant. -/
structure Expression where
  regex : Option Regex
  ignoresCase : Bool := false

/-- What a single line can be picked by. -/
inductive Address where
  | line (number : Nat)
  | last
  | fitting (expression : Expression)
  /-- Every so many lines, from a first one on. -/
  | every (first step : Nat)

/-- Where a range of lines ends. -/
inductive Extent where
  | upTo (address : Address)
  /-- So many lines later. -/
  | later (count : Nat)
  /-- At a multiple of a number. -/
  | multiple (count : Nat)

/-- The lines that a step applies to. -/
structure Selection where
  first : Option Address := none
  extent : Option Extent := none
  negated : Bool := false

/-- A part of a replacement. -/
inductive Piece where
  | char (c : Char)
  | group (number : Nat)
  /-- A change of case, by its letter. -/
  | case (letter : Char)

/-- A substitution. -/
structure Substitution where
  expression : Expression
  pieces : List Piece
  /-- The first match that is replaced. -/
  first : Nat := 1
  /-- Those after it are replaced as well. -/
  all : Bool := false
  prints : Bool := false
  file : Option String := none

/-- What a step does. -/
inductive Instruction where
  | block (after : Nat)
  | close
  | label (name : String)
  /-- Go to a label, or to the end: always, after a substitution, or if there was none. -/
  | jump (kind : Char) (target : Option String)
  | substitute (substitution : Substitution)
  | replaceChars (pairs : List (Char × Char))
  | append (text : String)
  | insert (text : String)
  | change (text : String)
  | readFile (path : String)
  | writeFile (path : String)
  | quit (silently : Bool) (status : Nat)
  /-- One of the commands that are a letter by themselves. -/
  | plain (letter : Char)

/-- A step. -/
structure Step where
  selection : Selection
  instruction : Instruction

/-- A program, and whether it turns off the output at the end of each round. -/
structure Program where
  steps : Array Step
  isQuiet : Bool := false

/-! ### Reading -/

/-- What has not been read, how many characters have, the steps so far and the blocks that are open.
-/
structure Source where
  left : List Char
  used : Nat := 0
  steps : Array Step := #[]
  blocks : List Nat := []

/-- A reader of programs. -/
abbrev Scan (α : Type) : Type := StateT Source (Except (Nat × String)) α

namespace Scan

/-- Turn the program down. -/
def refuse {α : Type} (text : String) : Scan α := do throw ((← get).used, text)

/-- Take the next character. -/
def next : Scan (Option Char) := do
  match (← get).left with
  | c :: rest =>
    modify fun s => { s with left := rest, used := s.used + 1 }
    return some c
  | [] => return none

/-- Put a character back. -/
def back (c : Option Char) : Scan Unit :=
  match c with
  | some c => modify fun s => { s with left := c :: s.left, used := s.used - 1 }
  | none => pure ()

/-- Take characters while they have a property. -/
def takeWhile (p : Char → Bool) : Scan (List Char) := do
  let cs := (← get).left.takeWhile p
  modify fun s => { s with left := s.left.drop cs.length, used := s.used + cs.length }
  return cs

/-- Take the next character that is no blank. -/
def nextVisible : Scan (Option Char) := do
  let _ ← takeWhile fun c => c == ' ' || c == '\t'
  next

/-- Take digits. -/
def number : Scan Nat := do
  return (← takeWhile Char.isDigit).foldl (fun n c => n * 10 + (c.toNat - '0'.toNat)) 0

/-- Read text up to a mark.  With `lines` a line end after a backslash belongs to it.  The fuel
counts characters. -/
def upTo (mark : Char) (lines : Bool) : Nat → List Char → Scan (Option (List Char))
  | 0, _ => return none
  | fuel + 1, soFar => do
    match ← next with
    | none => return none
    | some '\\' =>
      match ← next with
      | none => return none
      | some d =>
        if d = mark then upTo mark lines fuel (d :: soFar)
        else if d = '\n' ∧ ¬lines then return none
        else upTo mark lines fuel (d :: '\\' :: soFar)
    | some c =>
      if c = mark then return some soFar.reverse
      else if c = '\n' then
        back (some c)
        return none
      else upTo mark lines fuel (c :: soFar)

end Scan

open Scan

/-- Text with the escapes for control characters carried out. -/
def controls : List Char → List Char
  | '\\' :: c :: rest =>
    match [('n', '\n'), ('t', '\t'), ('f', '\x0c'), ('v', '\x0b'), ('a', '\x07'),
        ('r', '\r')].lookup c with
    | some control => control :: controls rest
    | none => '\\' :: c :: controls rest
  | c :: rest => c :: controls rest
  | [] => []

/-- The expression that a text spells. -/
def expression (extended : Bool) (text : List Char) (ignoresCase : Bool) : Scan Expression := do
  if text.isEmpty then return { regex := none }
  match Regex.read extended (String.ofList (controls text)) with
  | .ok regex => return { regex := some regex, ignoresCase }
  | .error text => refuse text

/-- Read an address, if there is one. -/
def address (extended : Bool) : Scan (Option Address) := do
  let size := (← get).left.length + 1
  let fitting (mark : Char) : Scan (Option Address) := do
    match ← upTo mark true size [] with
    | none => refuse "unterminated address regex"
    | some text =>
      let letters ← Scan.takeWhile fun c => c == 'I' || c == 'M'
      return some (.fitting (← expression extended text (letters.contains 'I')))
  match ← next with
  | some '/' => fitting '/'
  | some '\\' =>
    match ← next with
    | some mark => fitting mark
    | none => refuse "unexpected \x60,'"
  | some '$' => return some .last
  | some c =>
    back (some c)
    if c.isDigit then
      let first ← number
      match ← nextVisible with
      | some '~' =>
        let step ← number
        return some (if step = 0 then .line first else .every first step)
      | other =>
        back other
        return some (.line first)
    else return none
  | none => return none

/-- Read the end of a range. -/
def extent (extended : Bool) : Scan Extent := do
  match ← nextVisible with
  | some '+' => return .later (← number)
  | some '~' => return .multiple (← number)
  | other =>
    back other
    match ← address extended with
    | some address => return .upTo address
    | none =>
      let _ ← next
      refuse "unexpected \x60,'"

/-- Read which lines a step applies to, and the character after that. -/
def selection (extended : Bool) : Scan (Selection × Option Char) := do
  let first ← address extended
  let mut selection : Selection := { first }
  let mut c ← nextVisible
  if first.isSome ∧ c = some ',' then
    selection := { selection with extent := some (← extent extended) }
    c ← nextVisible
  if let some (.line 0) := first then
    match selection.extent with
    | some (.upTo (.fitting _)) => pure ()
    | _ => refuse "invalid usage of line address 0"
  if c = some '!' then
    selection := { selection with negated := true }
    c ← nextVisible
    if c = some '!' then refuse "multiple \x60!'s"
  return (selection, c)

/-- Read the end of a step. -/
def finish : Scan Unit := do
  match ← nextVisible with
  | none | some '\n' | some ';' => pure ()
  | some c =>
    if c = '\x7d' ∨ c = '#' then back (some c) else refuse "extra characters after command"

/-- The text of a command that takes lines, up to a line end that has no backslash in front of it.
-/
def lines : Nat → List Char → Scan (List Char)
  | 0, soFar => return soFar.reverse
  | fuel + 1, soFar => do
    match ← next with
    | none | some '\n' => return soFar.reverse
    | some '\\' =>
      match ← next with
      | none => return soFar.reverse
      | some d =>
        match controls ['\\', d] with
        | [control] => lines fuel (control :: soFar)
        | _ => lines fuel (d :: soFar)
    | some c => lines fuel (c :: soFar)

/-- Read the text of a command that takes lines. -/
def text : Scan String := do
  let wanted := "expected \\ after \x60a', \x60c' or \x60i'"
  match ← nextVisible with
  | none | some '\n' => refuse wanted
  | some '\\' =>
    match ← next with
    | none => refuse wanted
    | some '\n' => pure ()
    | other => back other
  | other => back other
  let cs ← lines ((← get).left.length + 1) []
  return String.ofList cs ++ "\n"

/-- The pieces of a replacement. -/
def pieces : List Char → List Piece
  | '\\' :: c :: rest =>
    let first : Piece :=
      if c.isDigit then .group (c.toNat - '0'.toNat)
      else if "LUElu".toList.contains c then .case c
      else
        match controls ['\\', c] with
        | [control] => .char control
        | _ => .char c
    first :: pieces rest
  | '&' :: rest => .group 0 :: pieces rest
  | c :: rest => .char c :: pieces rest
  | [] => []

/-- How many groups an expression has. -/
def groupCount : Regex → Nat
  | .group _ body => groupCount body + 1
  | .sequence first second | .either first second => groupCount first + groupCount second
  | .repeated body _ _ => groupCount body
  | _ => 0

/-- Read a path, up to the end of the line. -/
def path : Scan String := do
  let _ ← Scan.takeWhile fun c => c == ' ' || c == '\t'
  let cs ← Scan.takeWhile (· ≠ '\n')
  if cs.isEmpty then refuse "missing filename in r/R/w/W commands"
  return String.ofList cs

/-- Read the letters after a substitution.  The fuel counts characters. -/
def flags : Nat → Substitution × Bool × Bool → Scan (Substitution × Bool)
  | 0, (s, ignoresCase, _) => return (s, ignoresCase)
  | fuel + 1, (s, ignoresCase, counted) => do
    match ← next with
    | none | some '\n' | some ';' => return (s, ignoresCase)
    | some c =>
      if c = 'i' ∨ c = 'I' then flags fuel (s, true, counted)
      else if c = 'm' ∨ c = 'M' ∨ c = ' ' then flags fuel (s, ignoresCase, counted)
      else if c = 'g' then
        if s.all then refuse "multiple \x60g' options to \x60s' command"
        else flags fuel ({ s with all := true }, ignoresCase, counted)
      else if c = 'p' then
        if s.prints then refuse "multiple \x60p' options to \x60s' command"
        else flags fuel ({ s with prints := true }, ignoresCase, counted)
      else if c.isDigit then
        if counted then refuse "multiple number options to \x60s' command"
        back (some c)
        let first ← number
        if first = 0 then refuse "number option to \x60s' command may not be zero"
        flags fuel ({ s with first }, ignoresCase, true)
      else if c = 'w' then return ({ s with file := some (← path) }, ignoresCase)
      else if c = '\x7d' ∨ c = '#' then
        back (some c)
        return (s, ignoresCase)
      else refuse "unknown option to \x60s'"

/-- Read a substitution. -/
def substitution (extended : Bool) : Scan Substitution := do
  let size := (← get).left.length + 1
  let unterminated := "unterminated \x60s' command"
  match ← next with
  | none => refuse unterminated
  | some mark =>
    match ← upTo mark true size [] with
    | none => refuse unterminated
    | some pattern =>
      match ← upTo mark true size [] with
      | none => refuse unterminated
      | some replacement =>
        let parts := pieces replacement
        let (s, ignoresCase) ← flags size
          ({ expression := { regex := none }, pieces := parts }, false, false)
        let expression ← expression extended pattern ignoresCase
        if let some regex := expression.regex then
          let most := groupCount regex
          for piece in parts do
            if let .group n := piece then
              if most < n then
                refuse ("invalid reference \\" ++ toString n ++ " on \x60s' command's RHS")
        return { s with expression }

/-- Text with the escapes of a list of characters carried out. -/
def listed : List Char → List Char
  | '\\' :: c :: rest =>
    match controls ['\\', c] with
    | [control] => control :: listed rest
    | _ => if c = '\\' then '\\' :: listed rest else '\\' :: c :: listed rest
  | c :: rest => c :: listed rest
  | [] => []

/-- Read the two lists of a replacement of characters. -/
def charPairs : Scan (List (Char × Char)) := do
  let size := (← get).left.length + 1
  let unterminated := "unterminated \x60y' command"
  match ← next with
  | none => refuse unterminated
  | some mark =>
    match ← upTo mark true size [] with
    | none => refuse unterminated
    | some old =>
      match ← upTo mark true size [] with
      | none => refuse unterminated
      | some new =>
        let old := listed old
        let new := listed new
        if old.length ≠ new.length then
          refuse "strings for \x60y' command are different lengths"
        finish
        return old.zip new

/-- The commands that are a letter by themselves. -/
def plainLetters : List Char := "dDpPnNhHgGxz=lF".toList

/-- Read what a step does, after its first character. -/
def instruction (extended : Bool) (selection : Selection) (c : Char) : Scan Instruction := do
  if plainLetters.contains c then
    if c = 'l' then
      let _ ← Scan.takeWhile fun c => c == ' '
      let _ ← number
    finish
    return .plain c
  match c with
  | '\x7b' =>
    modify fun s => { s with blocks := s.steps.size :: s.blocks }
    return .block 0
  | '\x7d' =>
    match (← get).blocks with
    | [] => refuse "unexpected \x60\x7d'"
    | start :: rest =>
      if selection.first.isSome then refuse "\x7d doesn't want any addresses"
      modify fun s =>
        { s with
          blocks := rest
          steps := s.steps.modify start fun step =>
            { step with instruction := .block (s.steps.size + 1) } }
      finish
      return .close
  | ':' =>
    if selection.first.isSome then refuse ": doesn't want any addresses"
    let _ ← Scan.takeWhile fun c => c == ' '
    let name ← Scan.takeWhile fun c => !isSpace c && c != ';'
    if name.isEmpty then refuse "\":\" lacks a label"
    return .label (String.ofList name)
  | 'b' | 't' | 'T' =>
    let _ ← Scan.takeWhile fun c => c == ' '
    let name ← Scan.takeWhile fun c => !isSpace c && c != ';' && c != '\x7d'
    finish
    return .jump c (if name.isEmpty then none else some (String.ofList name))
  | 's' => return .substitute (← substitution extended)
  | 'y' => return .replaceChars (← charPairs)
  | 'a' => return .append (← text)
  | 'i' => return .insert (← text)
  | 'c' => return .change (← text)
  | 'r' => return .readFile (← path)
  | 'w' => return .writeFile (← path)
  | 'q' | 'Q' =>
    if selection.extent.isSome then refuse "command only uses one address"
    let _ ← Scan.takeWhile fun c => c == ' '
    let status ← number
    finish
    return .quit (c == 'Q') status
  | c => refuse ("unknown command: \x60" ++ String.singleton c ++ "'")

/-- Read steps up to the end of the program.  The fuel counts characters. -/
def readSteps (extended : Bool) : Nat → Scan Unit
  | 0 => return
  | fuel + 1 => do
    let _ ← Scan.takeWhile fun c => isSpace c || c == ';'
    match (← get).left with
    | [] => return
    | '#' :: _ =>
      let _ ← Scan.takeWhile (· ≠ '\n')
      readSteps extended fuel
    | _ =>
      let (selection, c) ← selection extended
      match c with
      | none => refuse "missing command"
      | some '#' => refuse "comments don't accept any addresses"
      | some c =>
        let instruction ← instruction extended selection c
        modify fun s => { s with steps := s.steps.push { selection, instruction } }
        readSteps extended fuel

/-- Read a program. -/
def Program.read (extended : Bool) (source : String) : Except (Nat × String) Program := do
  let cs := source.toList
  let ((), s) ← (readSteps extended (cs.length + 1)).run { left := cs }
  if ¬s.blocks.isEmpty then throw (0, "unmatched \x60\x7b'")
  return { steps := s.steps, isQuiet := cs.take 3 = ['#', 'n', '\n'] || cs = ['#', 'n'] }

/-- The label that a jump wants and the program lacks. -/
def Program.missingLabel? (program : Program) : Option String :=
  let labels := program.steps.toList.filterMap fun step =>
    match step.instruction with
    | .label name => some name
    | _ => none
  program.steps.toList.findSome? fun step =>
    match step.instruction with
    | .jump _ (some name) => if labels.contains name then none else some name
    | _ => none

end BootLayer.Shell.Utility.Editor
