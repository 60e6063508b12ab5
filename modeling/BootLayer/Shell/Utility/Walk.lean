import BootLayer.Shell.Utility.Batch
import BootLayer.Shell.Utility.Files

/-!
The utility that walks through directories.  A condition is tried on each path; it can also do
things, such as writing the path or running a command on it.
-/

namespace BootLayer.Shell.Utility

open Run

namespace Walk

/-- A condition on a path. -/
inductive Condition where
  | always (truth : Bool)
  /-- The last name fits a pattern, or the whole path does. -/
  | named (pattern : List Pattern.Item) (ignoresCase whole : Bool)
  | isKind (letters : List Char)
  | isEmpty
  | print (ending : String)
  | prune
  | delete
  | run (words : List String)
  /-- Run a command once, on all paths. -/
  | runAll (words : List String)
  | not (c : Condition)
  | both (c d : Condition)
  | either (c d : Condition)

/-- The condition does something. -/
def Condition.acts : Condition → Bool
  | print _ | delete | run _ | runAll _ => true
  | not c => c.acts
  | both c d | either c d => c.acts || d.acts
  | _ => false

/-- The condition removes what it holds of, so that directories come after what is in them. -/
def Condition.deletes : Condition → Bool
  | delete => true
  | not c => c.deletes
  | both c d | either c d => c.deletes || d.deletes
  | _ => false

/-- The commands that are run on all paths. -/
def Condition.collected : Condition → List (List String)
  | runAll words => [words]
  | not c => c.collected
  | both c d | either c d => c.collected ++ d.collected
  | _ => []

/-- How deep the walk goes, and from where on. -/
structure Depths where
  least : Nat := 0
  most : Option Nat := none
  childrenFirst : Bool := false

/-- Reading a condition: the depths so far and the words that are left. -/
abbrev Reader (α : Type) : Type := StateT (Depths × List String) (Except String) α

/-- The words that are left. -/
def left : Reader (List String) := return (← get).2

/-- Set the words that are left. -/
def setLeft (words : List String) : Reader Unit := modify fun (d, _) => (d, words)

/-- The argument of a word. -/
def argument (word : String) : Reader String := do
  match ← left with
  | value :: rest =>
    setLeft rest
    return value
  | [] => throw ("missing argument to \x60" ++ word ++ "'")

/-- The number that an argument has to be. -/
def number (word : String) : Reader Nat := do
  let value ← argument word
  match count? value with
  | some n => return n
  | none => throw ("Expected a positive decimal integer argument to " ++ word ++ ", but got " ++
      quote value)

/-- A pattern. -/
def pattern (ignoresCase : Bool) (text : String) : List Pattern.Item :=
  let symbols (cs : List Char) : List Symbol :=
    cs.map fun c => { char := if ignoresCase then c.toLower else c, literal := false }
  Pattern.read (symbols text.toList)

mutual

/-- Alternatives.  The fuel counts words. -/
def alternatives (fuel : Nat) : Reader Condition := do
  match fuel with
  | 0 => throw "expression too long"
  | fuel + 1 =>
    let first ← sequence fuel
    match ← left with
    | "-o" :: rest | "-or" :: rest =>
      setLeft rest
      return .either first (← alternatives fuel)
    | _ => return first

/-- Conditions that all have to hold. -/
def sequence (fuel : Nat) : Reader Condition := do
  match fuel with
  | 0 => throw "expression too long"
  | fuel + 1 =>
    let first ← single fuel
    match ← left with
    | [] | "-o" :: _ | "-or" :: _ | ")" :: _ => return first
    | "-a" :: rest | "-and" :: rest =>
      setLeft rest
      return .both first (← sequence fuel)
    | _ => return .both first (← sequence fuel)

/-- A single condition. -/
def single (fuel : Nat) : Reader Condition := do
  match fuel with
  | 0 => throw "expression too long"
  | fuel + 1 =>
    match ← left with
    | [] => return .always true
    | word :: rest =>
      setLeft rest
      match word with
      | "!" | "-not" => return .not (← single fuel)
      | "(" =>
        let inside ← alternatives fuel
        match ← left with
        | ")" :: rest =>
          setLeft rest
          return inside
        | _ =>
          throw ("invalid expression; I was expecting to find a ')' somewhere " ++
            "but did not see one.")
      | "-name" => return .named (pattern false (← argument word)) false false
      | "-iname" => return .named (pattern true (← argument word)) true false
      | "-path" | "-wholename" => return .named (pattern false (← argument word)) false true
      | "-type" => return .isKind ((← argument word).toList.filter (· ≠ ','))
      | "-empty" => return .isEmpty
      | "-true" => return .always true
      | "-false" => return .always false
      | "-print" => return .print "\n"
      | "-print0" => return .print "\x00"
      | "-prune" => return .prune
      | "-delete" => return .delete
      | "-maxdepth" =>
        let n ← number word
        modify fun (d, words) => ({ d with most := some n }, words)
        return .always true
      | "-mindepth" =>
        let n ← number word
        modify fun (d, words) => ({ d with least := n }, words)
        return .always true
      | "-depth" =>
        modify fun (d, words) => ({ d with childrenFirst := true }, words)
        return .always true
      | "-exec" =>
        let words ← left
        let call := words.takeWhile fun w => w != ";" && w != "+"
        match words.drop call.length with
        | ";" :: rest =>
          setLeft rest
          return .run call
        | "+" :: rest =>
          setLeft rest
          return .runAll call
        | _ => throw "missing argument to \x60-exec'"
      | _ =>
        if word.startsWith "-" then throw ("unknown predicate \x60" ++ word ++ "'")
        else throw ("paths must precede expression: \x60" ++ word ++ "'")

end

/-- A path below a starting point. -/
structure Item where
  path : String
  node : Node
  depth : Nat

/-- What a walk has found: the paths for the commands that are run once, and whether something went
wrong. -/
structure Report where
  collected : List String := []
  failed : Bool := false

/-- The place of the mark for the path in the words of a command. -/
def pathMark : String := "\x7b\x7d"

/-- The words of a command for a path. -/
def wordsFor (words : List String) (path : String) : List String :=
  words.map fun word =>
    String.ofList (Batch.replaced pathMark.toList path.toList (word.length + 1) word.toList)

/-- Try a condition on a path: whether it holds, and whether what is below is left out. -/
def attempt (execute : Execute) (item : Item) : Condition → Report → Run (Bool × Bool × Report)
  | .always truth, r => return (truth, false, r)
  | .named pattern ignoresCase whole, r => do
    let text := if whole then item.path else lastName item.path
    let text := if ignoresCase then text.toList.map Char.toLower else text.toList
    return (Pattern.fits pattern text, false, r)
  | .isKind letters, r =>
    let letter : Char :=
      match item.node with
      | .dir _ => 'd'
      | .file _ => 'f'
      | .null => 'c'
    return (letters.contains letter, false, r)
  | .isEmpty, r =>
    let holds : Bool :=
      match item.node with
      | .dir children => children.toList.isEmpty
      | .file data => data.isEmpty
      | .null => false
    return (holds, false, r)
  | .print ending, r => do
    write (item.path ++ ending)
    return (true, false, r)
  | .prune, r => return (true, true, r)
  | .delete, r => do
    match ← resolve item.path with
    | .ok place =>
      let hasChildren :=
        match (← tree).at? place with
        | some (.dir children) => !children.toList.isEmpty
        | _ => false
      if hasChildren then
        report ("cannot delete " ++ quote item.path ++ ": Directory not empty")
        return (false, false, { r with failed := true })
      removeAt place
      return (true, false, r)
    | .error _ => return (false, false, r)
  | .run words, r => do
    match ← execute (wordsFor words item.path) with
    | .ok outcome => return (outcome.status == 0, false, r)
    | .error (text, _) =>
      report (quote (words.head?.getD "") ++ ": " ++ text)
      return (false, false, r)
  | .runAll _, r => return (true, false, { r with collected := r.collected ++ [item.path] })
  | .not c, r => do
    let (holds, prunes, r) ← attempt execute item c r
    return (!holds, prunes, r)
  | .both c d, r => do
    let (holds, prunes, r) ← attempt execute item c r
    if !holds then return (false, prunes, r)
    let (holds, alsoPrunes, r) ← attempt execute item d r
    return (holds, prunes || alsoPrunes, r)
  | .either c d, r => do
    let (holds, prunes, r) ← attempt execute item c r
    if holds then return (true, prunes, r)
    let (holds, alsoPrunes, r) ← attempt execute item d r
    return (holds, prunes || alsoPrunes, r)

/-- Try a condition on a path and on all below it.  The fuel counts levels. -/
def below (execute : Execute) (condition : Condition) (depths : Depths) :
    Nat → Item → Report → Run Report
  | 0, _, r => return r
  | fuel + 1, item, r => do
    let isTried := depths.least ≤ item.depth
    let mut r := r
    let mut prunes := false
    if isTried ∧ ¬depths.childrenFirst then
      let (_, stops, next) ← attempt execute item condition r
      r := next
      prunes := stops
    if !prunes ∧ depths.most.all (item.depth < ·) then
      if let .dir children := item.node then
        for (name, child) in children.toList do
          let path := Path.join item.path (ofText name)
          r ← below execute condition depths fuel { path, node := child, depth := item.depth + 1 } r
    if isTried ∧ depths.childrenFirst then
      let (_, _, next) ← attempt execute item condition r
      r := next
    return r

end Walk

/-- Walk through directories and write the paths of which a condition holds. -/
def find (execute : Execute) : Utility := fun arguments => do
  let isCondition (word : String) : Bool := word.startsWith "-" || word == "(" || word == "!"
  let paths := arguments.takeWhile fun word => !isCondition word
  let words := arguments.drop paths.length
  match (Walk.alternatives (4 * words.length + 8)).run ({}, words) with
  | .error text =>
    report text
    return 1
  | .ok (condition, (depths, left)) =>
    if !left.isEmpty then
      report "invalid expression; you have too many ')'"
      return 1
    let condition := if condition.acts then condition else .both condition (.print "\n")
    let depths :=
      { depths with childrenFirst := depths.childrenFirst || condition.deletes }
    let mut r : Walk.Report := {}
    for path in (if paths.isEmpty then ["."] else paths) do
      match ← resolve path, ← node? path with
      | .ok _, some node =>
        r ← Walk.below execute condition depths 1000 { path, node, depth := 0 } r
      | .error fault, _ =>
        report (quote path ++ ": " ++ reason fault)
        r := { r with failed := true }
      | _, none =>
        report (quote path ++ ": " ++ reason .notFound)
        r := { r with failed := true }
    for words in condition.collected do
      if ¬r.collected.isEmpty then
        let call := words.flatMap fun word => if word = Walk.pathMark then r.collected else [word]
        match ← execute call with
        | .ok outcome => if outcome.status ≠ 0 then r := { r with failed := true }
        | .error (text, _) =>
          report (quote (call.head?.getD "") ++ ": " ++ text)
          r := { r with failed := true }
    return if r.failed then 1 else 0

end BootLayer.Shell.Utility
