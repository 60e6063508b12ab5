import BootLayer.Shell.Name

/-!
Arithmetic of the shell, on signed words of 64 bits that wrap around.  An expression is read into
tokens and evaluated while it is parsed, with operators in the order of precedence of `levels`; what
is not chosen by a condition is parsed without being evaluated.
-/

namespace BootLayer.Shell.Arithmetic

/-- A token of an expression. -/
inductive Token where
  | number (value : Int64)
  | name (name : String)
  | operator (text : String)
  /-- A character that has no meaning here. -/
  | unknown
  deriving DecidableEq, Repr

/-- What is wrong with an expression. -/
inductive Fault where
  | expected (what : String)
  | divisionByZero
  | illegalNumber (text : String)
  | readOnly (name : String)
  /-- The least number divided by minus one. -/
  | overflow
  deriving DecidableEq, Repr

/-- The message for a fault in an expression. -/
def Fault.message (expression : String) : Fault → String
  | expected what => "arithmetic expression: expecting " ++ what ++ ": \"" ++ expression ++ "\""
  | divisionByZero => "arithmetic expression: division by zero: \"" ++ expression ++ "\""
  | illegalNumber text => "Illegal number: " ++ text
  | readOnly name => name ++ ": is read only"
  | overflow => "arithmetic expression: overflow: \"" ++ expression ++ "\""

/-- The number nearest to an integer. -/
def saturate (n : Int) : Int64 :=
  if n < Int64.minValue.toInt then Int64.minValue
  else if Int64.maxValue.toInt < n then Int64.maxValue
  else Int64.ofInt n

/-! ### Tokens -/

/-- The operators, of two that start alike the longer one first. -/
def operators : List String :=
  ["<<=", ">>=", "<<", ">>", "<=", ">=", "==", "!=", "&&", "||", "*=", "/=", "%=", "+=", "-=",
    "&=", "^=", "|=", "=", "<", ">", "!", "&", "|", "^", "~", "+", "-", "*", "/", "%", "(", ")",
    "?", ":"]

/-- The tokens of an expression.  The fuel counts characters. -/
def tokens : Nat → List Char → List Token
  | 0, _ => []
  | _, [] => []
  | fuel + 1, c :: rest =>
    if c = ' ' ∨ c = '\t' ∨ c = '\n' then tokens fuel rest
    else if c.isDigit then
      match readInteger true (c :: rest) with
      | some (n, rest) => .number (saturate n) :: tokens fuel rest
      | none => [.unknown]
    else if isNameStart c then
      let name := (c :: rest).takeWhile isNameChar
      .name (String.ofList name) :: tokens fuel ((c :: rest).drop name.length)
    else
      match operators.find? fun text => text.toList.isPrefixOf (c :: rest) with
      | some text => .operator text :: tokens fuel ((c :: rest).drop text.length)
      | none => [.unknown]

/-! ### Evaluation -/

/-- The variables that an expression reads. -/
structure Scope where
  value? : String → Option String
  isReadOnly : String → Bool

/-- The tokens that are left, and the variables set so far, the last one first. -/
structure State where
  tokens : List Token
  assigned : List (String × Int64) := []

/-- An evaluation under way. -/
abbrev Evaluation (α : Type) : Type := ExceptT Fault (StateM State) α

/-- Give up. -/
def fail {α : Type} (fault : Fault) : Evaluation α := throw fault

/-- The next token. -/
def peek : Evaluation (Option Token) := return (← get).tokens.head?

/-- Drop the next token. -/
def advance : Evaluation Unit := modify fun state => { state with tokens := state.tokens.tail }

/-- Drop the operator if it comes next. -/
def dropIf (text : String) : Evaluation Bool := do
  if (← peek) = some (.operator text) then
    advance
    return true
  else return false

/-- The number that a variable holds; one that is not set holds zero. -/
def lookUp (scope : Scope) (name : String) : Evaluation Int64 := do
  match (← get).assigned.lookup name with
  | some n => return n
  | none =>
    let text := (scope.value? name).getD ""
    if text.toList.all isSpace then return 0
    else
      match wholeInteger? true text with
      | some n => return Int64.ofInt n
      | none => fail (.illegalNumber text)

/-- Set a variable. -/
def assign (scope : Scope) (name : String) (n : Int64) : Evaluation Unit := do
  if scope.isReadOnly name then fail (.readOnly name)
  modify fun state => { state with assigned := (name, n) :: state.assigned }

/-- The number of a truth value. -/
def truth (holds : Bool) : Int64 := if holds then 1 else 0

/-- Apply an operator to two numbers. -/
def apply (operator : String) (a b : Int64) : Evaluation Int64 := do
  match operator with
  | "*" => return a * b
  | "/" | "%" =>
    if b = 0 then fail .divisionByZero
    if a = Int64.minValue ∧ b = -1 then fail .overflow
    return if operator = "/" then a / b else a % b
  | "+" => return a + b
  | "-" => return a - b
  | "<<" => return a <<< (b &&& 63)
  | ">>" => return a >>> (b &&& 63)
  | "<" => return truth (a < b)
  | "<=" => return truth (a ≤ b)
  | ">" => return truth (b < a)
  | ">=" => return truth (b ≤ a)
  | "==" => return truth (a == b)
  | "!=" => return truth (a != b)
  | "&" => return a &&& b
  | "^" => return a ^^^ b
  | "|" => return a ||| b
  | _ => fail (.expected "primary")

/-- The operators between two operands, from those that bind loosest on. -/
def levels : List (List String) :=
  [["|"], ["^"], ["&"], ["==", "!="], ["<", "<=", ">", ">="], ["<<", ">>"], ["+", "-"],
    ["*", "/", "%"]]

/-- The operators that set a variable. -/
def settingOperators : List String :=
  ["=", "*=", "/=", "%=", "+=", "-=", "<<=", ">>=", "&=", "^=", "|="]

mutual

/-- An operand. -/
def primary (fuel : Nat) (scope : Scope) (idle : Bool) : Evaluation Int64 := do
  match fuel with
  | 0 => fail (.expected "primary")
  | fuel + 1 =>
    let token ← peek
    advance
    match token with
    | some (.number n) => return n
    | some (.name name) => if idle then return 0 else lookUp scope name
    | some (.operator "(") =>
      let n ← assignment fuel scope idle
      if ← dropIf ")" then return n else fail (.expected "')'")
    | some (.operator "+") => primary fuel scope idle
    | some (.operator "-") => return -(← primary fuel scope idle)
    | some (.operator "!") => return truth ((← primary fuel scope idle) == 0)
    | some (.operator "~") => return ~~~(← primary fuel scope idle)
    | _ => fail (.expected "primary")

/-- Operators of the given levels between operands. -/
def binary (fuel : Nat) (scope : Scope) (idle : Bool) (levels : List (List String)) :
    Evaluation Int64 := do
  match fuel with
  | 0 => fail (.expected "primary")
  | fuel + 1 =>
    match levels with
    | [] => primary fuel scope idle
    | level :: tighter => more fuel scope idle level tighter (← binary fuel scope idle tighter)

/-- Operators of one level after a first operand, from the left. -/
def more (fuel : Nat) (scope : Scope) (idle : Bool) (level : List String)
    (tighter : List (List String)) (a : Int64) : Evaluation Int64 := do
  match fuel with
  | 0 => fail (.expected "primary")
  | fuel + 1 =>
    match ← peek with
    | some (.operator text) =>
      if level.contains text then
        advance
        let b ← binary fuel scope idle tighter
        more fuel scope idle level tighter (← if idle then pure b else apply text a b)
      else return a
    | _ => return a

/-- Operands that hold both. -/
def conjunction (fuel : Nat) (scope : Scope) (idle : Bool) : Evaluation Int64 := do
  match fuel with
  | 0 => fail (.expected "primary")
  | fuel + 1 =>
    let a ← binary fuel scope idle levels
    if ← dropIf "&&" then
      let b ← conjunction fuel scope (idle || a == 0)
      return truth (a != 0 && b != 0)
    else return a

/-- Operands of which one holds. -/
def disjunction (fuel : Nat) (scope : Scope) (idle : Bool) : Evaluation Int64 := do
  match fuel with
  | 0 => fail (.expected "primary")
  | fuel + 1 =>
    let a ← conjunction fuel scope idle
    if ← dropIf "||" then
      let b ← disjunction fuel scope (idle || a != 0)
      return truth (a != 0 || b != 0)
    else return a

/-- A choice between two expressions. -/
def condition (fuel : Nat) (scope : Scope) (idle : Bool) : Evaluation Int64 := do
  match fuel with
  | 0 => fail (.expected "primary")
  | fuel + 1 =>
    let a ← disjunction fuel scope idle
    if ← dropIf "?" then
      let b ← assignment fuel scope (idle || a == 0)
      if !(← dropIf ":") then fail (.expected "':'")
      let c ← condition fuel scope (idle || a != 0)
      return if a != 0 then b else c
    else return a

/-- An expression, which may set a variable. -/
def assignment (fuel : Nat) (scope : Scope) (idle : Bool) : Evaluation Int64 := do
  match fuel with
  | 0 => fail (.expected "primary")
  | fuel + 1 =>
    match (← get).tokens with
    | .name name :: .operator operator :: _ =>
      if settingOperators.contains operator then
        advance
        advance
        let n ← assignment fuel scope idle
        if idle then return n
        let n ←
          if operator = "=" then pure n
          else apply (String.ofList operator.toList.dropLast) (← lookUp scope name) n
        assign scope name n
        return n
      else condition fuel scope idle
    | _ => condition fuel scope idle

end

/-- The value of an expression or what is wrong with it, and the variables it sets, in order. -/
def evaluate (scope : Scope) (expression : String) :
    Except Fault Int64 × List (String × Int64) :=
  let cs := expression.toList
  let tokens := tokens cs.length cs
  let whole : Evaluation Int64 := do
    let n ← assignment (16 * tokens.length + 32) scope false
    if (← peek).isSome then fail (.expected "EOF")
    return n
  let (result, state) := whole.run { tokens }
  (result, state.assigned.reverse)

end BootLayer.Shell.Arithmetic
