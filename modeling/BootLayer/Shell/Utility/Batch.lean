import BootLayer.Shell.Utility.Basic

/-!
The utility that makes command lines out of its input.  How a command is run is a parameter, since
the utilities do not know about programs.
-/

namespace BootLayer.Shell.Utility

open Run

/-- Run a command and wait for its end; if it cannot be run, the reason and a status. -/
abbrev Execute : Type := List String → Run (Except (String × Nat) Outcome)

namespace Batch

/-- The words of a text, line by line: blanks separate them, and quotes and backslashes keep
characters as they are.  The fuel counts characters. -/
def words : Nat → List Char → Option (List Char) → List (List String) →
    Except String (List (List String))
  | 0, _, _, lines => .ok lines
  | fuel + 1, cs, word, lines =>
    let add : List (List String) :=
      match word, lines with
      | some cs, line :: rest => (String.ofList cs.reverse :: line) :: rest
      | some cs, [] => [[String.ofList cs.reverse]]
      | none, lines => lines
    let soFar := word.getD []
    let quoted (mark : Char) (name : String) (rest : List Char) :
        Except String (List (List String)) :=
      let inside := rest.takeWhile fun c => c != mark && c != '\n'
      match rest.drop inside.length with
      | c :: after =>
        if c = mark then words fuel after (some (inside.reverse ++ soFar)) lines
        else .error name
      | [] => .error name
    match cs with
    | [] => .ok add
    | '\n' :: rest => words fuel rest none ([] :: add)
    | '\'' :: rest => quoted '\'' "single" rest
    | '"' :: rest => quoted '"' "double" rest
    | '\\' :: c :: rest => words fuel rest (some (c :: soFar)) lines
    | c :: rest =>
      if c = ' ' ∨ c = '\t' then words fuel rest none add
      else words fuel rest (some (c :: soFar)) lines

/-- The words of a text, in lines. -/
def lines (text : String) : Except String (List (List String)) := do
  let cs := text.toList
  let found ← words (cs.length + 1) cs none [[]]
  return (found.reverse.map List.reverse).filter fun line => !line.isEmpty

/-- The items of a text between separators; the last one may lack its end. -/
def items (separator : Char) (text : String) : List String :=
  let parts := text.splitToList (· = separator)
  if parts.getLast? = some "" then parts.dropLast else parts

/-- Groups of so many items.  The fuel counts items. -/
def groups {α : Type} (size : Nat) : Nat → List α → List (List α)
  | 0, _ => []
  | _, [] => []
  | fuel + 1, list => list.take size :: groups size fuel (list.drop size)

/-- A text with all places of a part replaced.  The fuel counts characters. -/
def replaced (part by' : List Char) : Nat → List Char → List Char
  | 0, cs => cs
  | _, [] => []
  | fuel + 1, c :: rest =>
    if part.isPrefixOf (c :: rest) ∧ ¬part.isEmpty then
      by' ++ replaced part by' fuel ((c :: rest).drop part.length)
    else c :: replaced part by' fuel rest

/-- The options. -/
def known : Known :=
  { plain := "0rtpx", valued := "ndILPEs", mixed := false
    long := [("null", '0'), ("no-run-if-empty", 'r'), ("verbose", 't'), ("max-args", 'n'),
      ("delimiter", 'd'), ("replace", 'I'), ("max-lines", 'L'), ("max-procs", 'P'),
      ("exit", 'x'), ("max-chars", 's')] }

/-- The calls to be made, each with its arguments. -/
def calls (given : Given) (command : List String) (text : String) :
    Except String (List (List String)) := do
  let separator : Option Char :=
    if given.has '0' then some '\x00'
    else (given.value? 'd').map fun value =>
      if value = "\\n" then '\n' else if value = "\\t" then '\t' else value.toList.head?.getD '\x00'
  match given.value? 'I' with
  | some mark =>
    let found := items (separator.getD '\n') text
    let found :=
      if separator.isSome then found
      else
        (found.map fun line => String.ofList (line.toList.dropWhile isSpace)).filter (· ≠ "")
    return found.map fun item => command.map fun word =>
      String.ofList (replaced mark.toList item.toList (word.length + 1) word.toList)
  | none =>
    let lines ←
      match separator with
      | some c => pure ((items c text).map fun item => [item])
      | none => Batch.lines text
    let batches : List (List String) :=
      match (given.value? 'L').bind count?, (given.value? 'n').bind count? with
      | some size, _ => (groups size (lines.length + 1) lines).map List.flatten
      | none, some size => groups size (lines.flatten.length + 1) lines.flatten
      | none, none => if lines.isEmpty then [] else [lines.flatten]
    let batches := if batches.isEmpty ∧ ¬given.has 'r' then [[]] else batches
    return batches.map (command ++ ·)

end Batch

/-- Run a command on what the input lists. -/
def xargs (execute : Execute) : Utility :=
  withOptions Batch.known 1 fun given => do
    let bad := ['n', 'L'].find? fun c =>
      (given.value? c).any fun text => ((count? text).filter (0 < ·)).isNone
    if let some c := bad then
      misused ("invalid number \"" ++ (given.value? c).getD "" ++ "\" for -" ++
        String.singleton c ++ " option")
      return 1
    let command := if given.operands.isEmpty then ["echo"] else given.operands
    let text := ofBytes ((← readAll 0).getD [])
    match Batch.calls given command text with
    | .error kind =>
      report ("unmatched " ++ kind ++
        " quote; by default quotes are special to xargs unless you use the -0 option")
      return 1
    | .ok calls =>
      let index ← addStream .null
      connect 0 (some index)
      let mut status := 0
      for call in calls do
        if given.has 't' then complain (" ".intercalate (call.map quoteIfNeeded))
        let name := call.head?.getD ""
        match ← execute call with
        | .error (text, failure) =>
          report (name ++ ": " ++ text)
          return failure
        | .ok (.killed signal) =>
          report (name ++ ": terminated by signal " ++ toString signal)
          return 125
        | .ok (.exited 255) =>
          report (name ++ ": exited with status 255; aborting")
          return 124
        | .ok (.exited n) => if n ≠ 0 then status := 123
      return status

end BootLayer.Shell.Utility
