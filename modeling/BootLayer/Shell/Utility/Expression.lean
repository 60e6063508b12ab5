import BootLayer.Shell.Regex
import BootLayer.Shell.Utility.Basic

/-!
Expressions whose operators and operands are separate arguments.  A value is a text or an integer;
a text that reads as an integer counts as one.  A part that cannot change the result is read and not
evaluated, so a fault in it does not show.
-/

namespace BootLayer.Shell.Utility

namespace Expression

/-- A value. -/
inductive Result where
  | text (text : String)
  | integer (n : Int)
  deriving DecidableEq, Repr

/-- A value as it is written. -/
def Result.shown : Result → String
  | text value => value
  | integer n => toString n

/-- The integer that a text spells: digits after at most one minus sign. -/
def integer? (text : String) : Option Int :=
  let (negative, digits) :=
    match text.toList with
    | '-' :: rest => (true, rest)
    | cs => (false, cs)
  if digits.isEmpty ∨ ¬digits.all Char.isDigit then none
  else
    let n : Nat := digits.foldl (fun n c => n * 10 + (c.toNat - '0'.toNat)) 0
    some (if negative then -(n : Int) else n)

/-- The integer that a value is. -/
def Result.integer? : Result → Option Int
  | text value => Expression.integer? value
  | integer n => some n

/-- The value is empty or zero. -/
def Result.isNull : Result → Bool
  | integer n => n == 0
  | text value =>
    match value.toList with
    | [] => true
    | '-' :: rest => !rest.isEmpty && rest.all (· == '0')
    | cs => cs.all (· == '0')

/-- Reading an expression: the last argument read, and those that are left. -/
abbrev Parser (α : Type) : Type := StateT (String × List String) (Except String) α

/-- Take the next argument if it is a certain one. -/
def takeIf (word : String) : Parser Bool := do
  match (← get).2 with
  | first :: rest =>
    if first = word then
      set (first, rest)
      return true
    return false
  | [] => return false

/-- Take the next argument if it is one of several. -/
def takeAny (words : List String) : Parser (Option String) := do
  match (← get).2 with
  | first :: rest =>
    if words.contains first then
      set (first, rest)
      return some first
    return none
  | [] => return none

/-- The words for a mistake in the form of an expression. -/
def malformed (text : String) : String := "syntax error: " ++ text

/-- Take the next argument, which has to be there. -/
def take : Parser String := do
  match ← get with
  | (last, []) => throw (malformed ("missing argument after " ++ quoteWord last))
  | (_, first :: rest) =>
    set (first, rest)
    return first

/-- Match an expression at the start of a text: the text of its first group, or how much it matches.
-/
def matched (text pattern : Result) : Except String Result := do
  let regex ← Regex.read false pattern.shown
  let subject : Regex.Subject := { chars := text.shown.toList.toArray }
  match regex.matchAt subject 0 with
  | some m =>
    return if regex.hasGroup then .text (String.ofList (m.group subject 1)) else .integer m.finish
  | none => return if regex.hasGroup then .text "" else .integer 0

/-- The part of a text from a position on, which is counted from one. -/
def portion (text : String) (start length : Int) : String :=
  if start ≤ 0 ∨ length ≤ 0 then ""
  else String.ofList ((text.toList.drop (start.toNat - 1)).take length.toNat)

/-- Where a text has the first of some characters, counted from one; zero if nowhere. -/
def firstOf (text wanted : String) : Nat :=
  match text.toList.findIdx? fun c => wanted.toList.contains c with
  | some i => i + 1
  | none => 0

/-- Combine two integers. -/
def arithmetic (operator : String) (left right : Result) : Except String Result :=
  match left.integer?, right.integer? with
  | some a, some b =>
    match operator with
    | "+" => .ok (.integer (a + b))
    | "-" => .ok (.integer (a - b))
    | "*" => .ok (.integer (a * b))
    | _ =>
      if b = 0 then .error "division by zero"
      else .ok (.integer (if operator = "/" then a.tdiv b else a.tmod b))
  | _, _ => .error "non-integer argument"

/-- Compare two values, as integers if both are. -/
def compared (operator : String) (left right : Result) : Result :=
  let order : Ordering :=
    match left.integer?, right.integer? with
    | some a, some b => compare a b
    | _, _ => compare left.shown right.shown
  let holds : Bool :=
    match operator with
    | "<" => order == .lt
    | "<=" => order != .gt
    | "=" | "==" => order == .eq
    | "!=" => order != .eq
    | ">=" => order != .lt
    | _ => order == .gt
  .integer (if holds then 1 else 0)

/-- The operators, from the loosest to the tightest. -/
def levels : List (List String) :=
  [["|"], ["&"], ["<", "<=", "=", "==", "!=", ">=", ">"], ["+", "-"], ["*", "/", "%"], [":"]]

/-- Combine values by an operator. -/
def combine (operator : String) (left right : Result) : Except String Result :=
  match operator with
  | "|" =>
    .ok (if !left.isNull then left else if !right.isNull then right else .integer 0)
  | "&" => .ok (if left.isNull || right.isNull then .integer 0 else left)
  | ":" => matched left right
  | "+" | "-" | "*" | "/" | "%" => arithmetic operator left right
  | _ => .ok (compared operator left right)

mutual

/-- An expression of operators at some levels.  The fuel counts arguments and levels. -/
def level (fuel : Nat) (active : Bool) (operators : List (List String)) : Parser Result := do
  match fuel with
  | 0 => throw "memory exhausted"
  | fuel + 1 =>
    match operators with
    | [] => operand fuel active
    | words :: tighter => continued fuel active words tighter (← level fuel active tighter)

/-- What follows the left side of an operator. -/
def continued (fuel : Nat) (active : Bool) (words : List String) (tighter : List (List String))
    (left : Result) : Parser Result := do
  match fuel with
  | 0 => throw "memory exhausted"
  | fuel + 1 =>
    match ← takeAny words with
    | none => return left
    | some operator =>
      let isNeeded :=
        match operator with
        | "|" => left.isNull
        | "&" => !left.isNull
        | _ => true
      let right ← level fuel (active && isNeeded) tighter
      let value ← if active then (combine operator left right : Except String Result) else pure left
      continued fuel active words tighter value

/-- An operand, or a call of a function by its name. -/
def operand (fuel : Nat) (active : Bool) : Parser Result := do
  match fuel with
  | 0 => throw "memory exhausted"
  | fuel + 1 =>
    match ← takeAny ["+", "length", "match", "index", "substr"] with
    | some "+" => return .text (← take)
    | some "length" => return .integer (← operand fuel active).shown.length
    | some "match" =>
      let text ← operand fuel active
      let pattern ← operand fuel active
      if active then matched text pattern else return text
    | some "index" =>
      let text ← operand fuel active
      let wanted ← operand fuel active
      return .integer (firstOf text.shown wanted.shown)
    | some _ =>
      let text ← operand fuel active
      let start ← operand fuel active
      let length ← operand fuel active
      match start.integer?, length.integer? with
      | some start, some length => return .text (portion text.shown start length)
      | _, _ => return .text ""
    | none =>
      if ← takeIf "(" then
        let value ← level fuel active levels
        match ← get with
        | (last, []) => throw (malformed ("expecting ')' after " ++ quoteWord last))
        | (_, next :: _) =>
          if ← takeIf ")" then return value
          throw (malformed ("expecting ')' instead of " ++ quoteWord next))
      if ← takeIf ")" then throw (malformed "unexpected ')'")
      return .text (← take)

end

/-- The value of an expression, or what is wrong with it. -/
def evaluate (arguments : List String) : Except String Result := do
  let (value, (_, left)) ← (level (8 * arguments.length + 8) true levels).run ("", arguments)
  match left with
  | [] => return value
  | first :: _ => .error (malformed ("unexpected argument " ++ quoteWord first))

end Expression

open Run

/-- Evaluate an expression and write its value. -/
def expr : Utility := fun arguments => do
  let arguments :=
    match arguments with
    | "--" :: rest => rest
    | arguments => arguments
  if arguments.isEmpty then missingOperand 2
  else
    match Expression.evaluate arguments with
    | .ok value =>
      writeLine value.shown
      return if value.isNull then 1 else 0
    | .error text =>
      report text
      return 2

end BootLayer.Shell.Utility
