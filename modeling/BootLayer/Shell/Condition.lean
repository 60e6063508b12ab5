import BootLayer.FileTree
import BootLayer.Shell.Name

/-!
The conditions of `test`.  Few arguments are read by their number first, as the standard asks for;
otherwise a condition is parsed with `-a` binding tighter than `-o`.  A word is an operator only
where what follows it leaves no other reading.
-/

namespace BootLayer.Shell.Condition

/-- What a condition can ask about paths. -/
structure Files where
  place? : String → Option Place
  node? : String → Option Node
  isRunnable : String → Bool

/-- The operators with one operand. -/
def unaries : List String :=
  ["-r", "-w", "-x", "-e", "-f", "-d", "-c", "-b", "-p", "-u", "-g", "-k", "-s", "-t", "-z", "-n",
    "-h", "-O", "-G", "-L", "-S"]

/-- The operators with two operands. -/
def binaries : List String :=
  ["=", "!=", "<", ">", "-eq", "-ne", "-ge", "-gt", "-le", "-lt", "-nt", "-ot", "-ef"]

/-- What a word is in a condition. -/
inductive Kind where
  | missing
  | operand
  | unary
  | binary
  | negation
  | conjunction
  | disjunction
  | opening
  | closing
  deriving DecidableEq

/-- What a word is by itself. -/
def kindOf (text : String) : Kind :=
  if unaries.contains text then .unary
  else if binaries.contains text then .binary
  else
    match text with
    | "!" => .negation
    | "-a" => .conjunction
    | "-o" => .disjunction
    | "(" => .opening
    | ")" => .closing
    | _ => .operand

/-- The words from one on. -/
abbrev Position : Type := List String

/-- What the word at a position is, given what follows. -/
def kindAt : Position → Kind
  | [] => .missing
  | [text] =>
    match kindOf text with
    | .unary | .opening => .operand
    | kind => kind
  | [text, _] => kindOf text
  | text :: next :: _ :: _ =>
    if kindOf text = .unary ∧ kindOf next = .binary then .operand else kindOf text

/-- The integer that an operand has to be. -/
def integer (text : String) : Except String Int :=
  match wholeInteger? false text with
  | some n => .ok n
  | none => .error ("Illegal number: " ++ text)

/-- The truth of an operator with one operand. -/
def unary (files : Files) (operator operand : String) : Except String Bool :=
  let node := files.node? operand
  match operator with
  | "-z" => .ok (operand == "")
  | "-n" => .ok (operand != "")
  | "-e" | "-r" | "-w" | "-O" | "-G" => .ok node.isSome
  | "-x" => .ok (node.any Node.isDir || files.isRunnable operand)
  | "-f" =>
    .ok <| node.any fun n =>
      match n with
      | .file _ => true
      | _ => false
  | "-d" => .ok (node.any Node.isDir)
  | "-c" =>
    .ok <| node.any fun n =>
      match n with
      | .null => true
      | _ => false
  | "-s" =>
    .ok <| node.any fun n =>
      match n with
      | .file data => !data.isEmpty
      | .dir _ => true
      | .null => false
  | "-t" => (integer operand).map fun _ => false
  | _ => .ok false

/-- The truth of an operator between two operands. -/
def binary (files : Files) (left operator right : String) : Except String Bool := do
  match operator with
  | "=" => return left == right
  | "!=" => return left != right
  | "<" => return left < right
  | ">" => return right < left
  | "-nt" | "-ot" => return false
  | "-ef" =>
    match files.place? left, files.place? right with
    | some a, some b => return a == b
    | _, _ => return false
  | _ =>
    let a ← integer left
    let b ← integer right
    match operator with
    | "-eq" => return a == b
    | "-ne" => return a != b
    | "-lt" => return a < b
    | "-le" => return a ≤ b
    | "-gt" => return b < a
    | _ => return b ≤ a

mutual

/-- Conditions of which one holds.  Each of the readers gives the truth and the position of the last
word that it has read; the kind is what the first word is taken for.  The fuel counts words. -/
def anyOf (fuel : Nat) (files : Files) (kind : Kind) (at' : Position) :
    Except String (Bool × Position) := do
  match fuel with
  | 0 => .error "expression too long"
  | fuel + 1 =>
    let (first, last) ← allOf fuel files kind at'
    if kindAt last.tail = .disjunction then
      let (others, last) ← anyOf fuel files (kindAt last.tail.tail) last.tail.tail
      return (first || others, last)
    else return (first, last)

/-- Conditions that hold all. -/
def allOf (fuel : Nat) (files : Files) (kind : Kind) (at' : Position) :
    Except String (Bool × Position) := do
  match fuel with
  | 0 => .error "expression too long"
  | fuel + 1 =>
    let (first, last) ← negated fuel files kind at'
    if kindAt last.tail = .conjunction then
      let (others, last) ← allOf fuel files (kindAt last.tail.tail) last.tail.tail
      return (first && others, last)
    else return (first, last)

/-- A condition that may be negated. -/
def negated (fuel : Nat) (files : Files) (kind : Kind) (at' : Position) :
    Except String (Bool × Position) := do
  match fuel with
  | 0 => .error "expression too long"
  | fuel + 1 =>
    if kind = .negation then
      let next := kindAt at'.tail
      let (truth, last) ← negated fuel files next (if next = .missing then at' else at'.tail)
      return (!truth, last)
    else primary fuel files kind at'

/-- A condition by itself. -/
def primary (fuel : Nat) (files : Files) (kind : Kind) (at' : Position) :
    Except String (Bool × Position) := do
  match fuel with
  | 0 => .error "expression too long"
  | fuel + 1 =>
    match kind, at' with
    | .missing, _ | _, [] => return (false, at')
    | .opening, _ :: rest =>
      if kindAt rest = .closing then return (false, rest)
      else
        let (truth, last) ← anyOf fuel files (kindAt rest) rest
        if kindAt last.tail = .closing then return (truth, last.tail)
        else .error "closing paren expected"
    | .unary, operator :: rest =>
      match rest with
      | operand :: _ => return (← unary files operator operand, rest)
      | [] => .error (operator ++ ": argument expected")
    | _, left :: rest =>
      if kindAt rest = .binary then
        match rest with
        | operator :: right :: more => return (← binary files left operator right, right :: more)
        | operator :: [] => .error (operator ++ ": argument expected")
        | [] => return (left != "", at')
      else return (left != "", at')

end

/-- The truth of a condition that is read as it stands. -/
def whole (files : Files) (kind : Kind) (words : Position) : Except String Bool := do
  let (truth, last) ← anyOf (4 * words.length + 4) files kind words
  match last with
  | text :: _ :: _ =>
    .error (if text = "" then "unexpected operator" else text ++ ": unexpected operator")
  | _ => return truth

/-- The truth of a condition, or what is wrong with it. -/
def holds (files : Files) : List String → Except String Bool
  | [] => .ok false
  | words =>
    let isBinary : Bool :=
      match words with
      | [_, operator, _] => kindOf operator = .binary
      | _ => false
    if isBinary then whole files .operand words
    else if words.length = 3 ∨ words.length = 4 then
      if words.head? = some "(" ∧ words.getLast? = some ")" then
        let inside := words.tail.dropLast
        whole files (kindAt inside) inside
      else if words.head? = some "!" then
        match words with
        | _ :: rest => (holds files rest).map (!·)
        | [] => .ok false
      else whole files (kindAt words) words
    else whole files (kindAt words) words
  termination_by words => words.length

end BootLayer.Shell.Condition
