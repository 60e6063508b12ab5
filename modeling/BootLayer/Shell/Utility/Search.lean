import BootLayer.Shell.Regex
import BootLayer.Shell.Utility.Basic

/-!
The utility that looks for lines.  A line is selected if one of the expressions matches in it, as a
whole line or as whole words if that is asked for; `Search.spans` gives the parts of a line that
match.
-/

namespace BootLayer.Shell.Utility

namespace Search

/-- What is looked for. -/
structure Wanted where
  expressions : List Regex
  ignoresCase : Bool := false
  wholeLines : Bool := false
  wholeWords : Bool := false

/-- Where a match that starts at a position may end. -/
def finishes (wanted : Wanted) (subject : Regex.Subject) (start : Nat) : List Nat :=
  let all := wanted.expressions.flatMap fun regex =>
    (Regex.ends subject regex { position := start }).map Regex.Way.position
  let isWord (i : Nat) : Bool := (subject.chars[i]?).any Regex.isWordChar
  all.filter fun finish =>
    (!wanted.wholeLines || (start == 0 && finish == subject.chars.size)) &&
      (!wanted.wholeWords || wanted.wholeLines ||
        ((start == 0 || !isWord (start - 1)) && !isWord finish))

/-- The longest match that starts at a position. -/
def finish? (wanted : Wanted) (subject : Regex.Subject) (start : Nat) : Option Nat :=
  match finishes wanted subject start with
  | [] => none
  | all => some (all.foldl max 0)

/-- The line of a text. -/
def subject (wanted : Wanted) (line : Bytes) : Regex.Subject :=
  { chars := (line.map fun b => Char.ofNat b.toNat).toArray, ignoresCase := wanted.ignoresCase }

/-- A line has a match. -/
def isSelected (wanted : Wanted) (line : Bytes) : Bool :=
  let subject := subject wanted line
  (List.range (subject.chars.size + 1)).any fun i => (finish? wanted subject i).isSome

/-- The parts of a line that match and are not empty, one after the other.  The fuel counts
positions. -/
def spans (wanted : Wanted) (subject : Regex.Subject) : Nat → Nat → List (Nat × Nat)
  | 0, _ => []
  | fuel + 1, start =>
    if subject.chars.size ≤ start then []
    else
      match finish? wanted subject start with
      | some finish =>
        if start < finish then (start, finish) :: spans wanted subject fuel finish
        else spans wanted subject fuel (start + 1)
      | none => spans wanted subject fuel (start + 1)

/-- How the lines are shown. -/
structure Shown where
  names : Bool
  numbers : Bool
  offsets : Bool
  partsOnly : Bool
  before : Nat
  after : Nat

/-- A line of an input with its number, its offset and whether it is selected. -/
structure Line where
  number : Nat
  offset : Nat
  data : Bytes
  selected : Bool

/-- What stands in front of a line. -/
def lead (shown : Shown) (name : String) (mark : String) (line : Line) (offset : Nat) : Bytes :=
  bytesOf ((if shown.names then name ++ mark else "") ++
    (if shown.numbers then toString line.number ++ mark else "") ++
    (if shown.offsets then toString offset ++ mark else ""))

/-- The output for the selected lines of an input, and for the lines around them. -/
def output (wanted : Wanted) (shown : Shown) (inverted : Bool) (ending : UInt8) (name : String)
    (lines : List Line) : Bytes :=
  let chosen := (lines.filter Line.selected).map Line.number
  let isNear (line : Line) : Bool :=
    chosen.any fun n => n ≤ line.number + shown.before && line.number ≤ n + shown.after
  let hasContext := 0 < shown.before || 0 < shown.after
  let kept := if hasContext then lines.filter isNear else lines.filter Line.selected
  (kept.foldl
    (fun ((last, data) : Option Nat × Bytes) line =>
      let gap := hasContext && last.any (· + 1 < line.number)
      let mark := if line.selected then ":" else "-"
      let text : Bytes :=
        if shown.partsOnly then
          if inverted || !line.selected then []
          else
            let subject := subject wanted line.data
            (spans wanted subject (subject.chars.size + 1) 0).flatMap fun (start, finish) =>
              lead shown name mark line (line.offset + start) ++
                (line.data.drop start).take (finish - start) ++ [ending]
        else lead shown name mark line line.offset ++ line.data ++ [ending]
      (some line.number, data ++ (if gap then bytesOf "--\n" else []) ++ text))
    (none, [])).2

/-- The lines of an input, of which so many are selected at most.  What follows the last one that
may be selected is left out, except for lines after it that are shown. -/
def linesOf (wanted : Wanted) (inverted : Bool) (most : Option Nat) (after : Nat) (ending : UInt8)
    (data : Bytes) : List Line :=
  let step (state : Nat × Nat × Nat × List Line) (line : Bytes) : Nat × Nat × Nat × List Line :=
    let (number, offset, count, lines) := state
    let isDone := most.any (· ≤ count)
    let selected := !isDone && (isSelected wanted line != inverted)
    let entry : Line := { number := number + 1, offset, data := line, selected }
    (number + 1, offset + line.length + 1, if selected then count + 1 else count, entry :: lines)
  let (_, _, _, lines) := (splitLines ending data).foldl step (0, 0, 0, [])
  if most.isNone then lines.reverse
  else
    let tail := lines.takeWhile fun line => !line.selected
    (lines.drop tail.length).reverse ++ tail.reverse.take after

/-- The options. -/
def known : Known :=
  { plain := "EFGPUZabchHilLnoqrRsTvwxyz", valued := "efmABC"
    long := [("extended-regexp", 'E'), ("fixed-strings", 'F'), ("basic-regexp", 'G'),
      ("perl-regexp", 'P'), ("regexp", 'e'), ("file", 'f'), ("ignore-case", 'i'),
      ("invert-match", 'v'), ("word-regexp", 'w'), ("line-regexp", 'x'), ("count", 'c'),
      ("files-without-match", 'L'), ("files-with-matches", 'l'), ("max-count", 'm'),
      ("only-matching", 'o'), ("quiet", 'q'), ("silent", 'q'), ("no-messages", 's'),
      ("byte-offset", 'b'), ("with-filename", 'H'), ("no-filename", 'h'), ("line-number", 'n'),
      ("initial-tab", 'T'), ("null", 'Z'), ("after-context", 'A'), ("before-context", 'B'),
      ("context", 'C'), ("text", 'a'), ("recursive", 'r'), ("dereference-recursive", 'R'),
      ("null-data", 'z')] }

/-- The arguments with a bare count of lines written out, and without a wish for colours. -/
def spelled (arguments : List String) : List String :=
  arguments.flatMap fun text =>
    match text.toList with
    | '-' :: c :: digits =>
      if c.isDigit ∧ digits.all Char.isDigit then ["-C", String.ofList (c :: digits)]
      else if text.startsWith "--color" ∨ text.startsWith "--colour" then []
      else [text]
    | _ => [text]

/-- The files below a path, by their paths.  The fuel counts levels. -/
def filesBelow : Nat → String → Node → List String
  | 0, _, _ => []
  | fuel + 1, path, node =>
    match node with
    | .dir children =>
      children.toList.flatMap fun (name, child) =>
        filesBelow fuel (if path = "" then ofText name else Path.join path (ofText name)) child
    | _ => [path]

end Search

open Run

/-- How to call the utility that looks for lines. -/
def searchUsage : Run Nat := do
  complain "Usage: grep [OPTION]... PATTERNS [FILE]..."
  complain "Try 'grep --help' for more information."
  return 2

/-- What is looked for, as options and operands say: the patterns, one a line, and the names of the
inputs.  There is nothing if a file with patterns cannot be read. -/
def wantedLines (given : Given) : Run (Option (List String × List String)) := do
  let mut lines : List String := []
  for (c, value) in given.options do
    if c = 'e' then lines := lines ++ value.splitToList (· = '\n')
    else if c = 'f' then
      match ← input value with
      | .ok data => lines := lines ++ (splitLines 10 data).map ofBytes
      | .error (text, _) =>
        report (value ++ ": " ++ text)
        return none
  if given.has 'e' ∨ given.has 'f' then return some (lines, given.operands)
  match given.operands with
  | first :: rest => return some (first.splitToList (· = '\n'), rest)
  | [] => return some ([], [])

/-- Write the lines of inputs in which an expression matches. -/
def grepWith (kind : Option Char) : Utility := fun arguments => do
  let arguments := Search.spelled arguments
  let size := arguments.foldl (fun n text => n + text.length + 1) 1
  match Search.known.read size arguments {} with
  | .error text =>
    report text
    searchUsage
  | .ok given =>
    if ¬given.has 'e' ∧ ¬given.has 'f' ∧ given.operands.isEmpty then return ← searchUsage
    let kind := ((given.options.reverse.find? fun (c, _) => "EFGP".toList.contains c).map
      Prod.fst).or kind
    let read (text : String) : Except String Regex :=
      if kind = some 'F' then .ok (Regex.literal text)
      else Regex.read (kind = some 'E' ∨ kind = some 'P') text
    let has (letters : String) : Bool := letters.toList.any given.has
    let count (c : Char) : Option String := given.value? c
    match [('A', count 'A'), ('B', count 'B'), ('C', count 'C')].find? fun (_, text) =>
        text.any fun text => (count? text).isNone with
    | some (_, text) =>
      report (text.getD "" ++ ": invalid context length argument")
      return 2
    | none =>
    if (count 'm').any fun text => (count? text).isNone then
      report "invalid max count"
      return 2
    match ← wantedLines given with
    | none => return 2
    | some (patterns, names) =>
    match patterns.mapM read with
    | .error text =>
      report text
      return 2
    | .ok expressions =>
      let wanted : Search.Wanted :=
        { expressions, ignoresCase := has "iy", wholeLines := has "x", wholeWords := has "w" }
      let recursive := has "rR"
      let inverted := has "v"
      let ending : UInt8 := if has "z" then 0 else 10
      let around := ((count 'C').bind count?).getD 0
      let before := ((count 'B').bind count?).getD around
      let after := ((count 'A').bind count?).getD around
      let most := (count 'm').bind count?
      let mut paths : List String := []
      for name in (if names.isEmpty then (if recursive then [""] else ["-"]) else names) do
        match ← node? (if name = "" then "." else name) with
        | some (.dir children) =>
          paths := paths ++
            (if recursive then Search.filesBelow 1000 name (.dir children) else [name])
        | _ => paths := paths ++ [name]
      let withNames := has "H" || ((1 < names.length || recursive) && !has "h")
      let shown : Search.Shown :=
        { names := withNames && !(has "h"), numbers := has "n", offsets := has "b",
          partsOnly := has "o", before, after }
      let mut found := false
      let mut failed := false
      let mut isFirst := true
      for path in paths do
        match ← input path with
        | .error (text, _) =>
          if !has "s" then report (path ++ ": " ++ text)
          failed := true
        | .ok data =>
          let label := if path = "-" then "(standard input)" else path
          let lines := Search.linesOf wanted inverted most after ending data
          let total := lines.countP Search.Line.selected
          if has "L" then
            if total = 0 then
              found := true
              if !has "q" then writeLine label
          else if 0 < total then found := true
          if has "q" ∨ has "L" then pure ()
          else if has "l" then
            if 0 < total then writeLine label
          else if has "c" then
            writeLine ((if shown.names then label ++ ":" else "") ++ toString total)
          else if 0 < total then
            if data.contains 0 ∧ !has "az" then
              report (label ++ ": binary file matches")
            else
              let separated := !isFirst && (0 < before || 0 < after)
              put ((if separated then bytesOf "--\n" else []) ++
                Search.output wanted shown inverted ending label lines)
              isFirst := false
      return if failed ∧ ¬(found ∧ given.has 'q') then 2 else if found then 0 else 1

/-- Look for basic expressions unless an option says otherwise. -/
def grep : Utility := grepWith none

/-- Look for extended expressions. -/
def egrep : Utility := grepWith (some 'E')

/-- Look for texts. -/
def fgrep : Utility := grepWith (some 'F')

end BootLayer.Shell.Utility
