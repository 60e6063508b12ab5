import BootLayer.Shell.Pattern

/-!
Regular expressions, basic and extended.  Of the matches that start first the longest one counts.
`Regex.ends` gives all the ways in which an expression can match from a position; a repetition keeps
one way for each position that it reaches.
-/

namespace BootLayer.Shell

/-- A regular expression. -/
inductive Regex where
  | empty
  | char (c : Char)
  | any
  | oneOf (negated : Bool) (members : List Pattern.Member)
  | sequence (first second : Regex)
  | either (first second : Regex)
  | repeated (body : Regex) (least : Nat) (most : Option Nat)
  | group (number : Nat) (body : Regex)
  /-- What a group has matched. -/
  | again (number : Nat)
  | atStart
  | atEnd
  /-- The edge of a word: its start, its end, either of them, or neither. -/
  | wordStart
  | wordEnd
  | wordEdge
  | noWordEdge
  deriving Repr, DecidableEq

namespace Regex

/-! ### Matching -/

/-- A text to be searched. -/
structure Subject where
  chars : Array Char
  ignoresCase : Bool := false

/-- A position, and what the groups have matched: from where to where. -/
structure Way where
  position : Nat
  groups : List (Nat × Nat × Nat) := []
  deriving DecidableEq

/-- The character belongs to a word. -/
def isWordChar (c : Char) : Bool := c.isAlphanum || c == '_'

/-- Whether a word reaches to a position from the left, and to the right of it. -/
def wordAround (subject : Subject) (position : Nat) : Bool × Bool :=
  let isWord (i : Nat) : Bool := (subject.chars[i]?).any isWordChar
  (0 < position && isWord (position - 1), isWord position)

/-- The first way for each position. -/
def firstWays (ways : List Way) : List Way :=
  (ways.foldl
    (fun (kept : List Way) way =>
      if kept.any fun other => other.position == way.position then kept else way :: kept)
    []).reverse

/-- The ways to repeat a step, the longest ones first.  The fuel counts positions. -/
def repetitions (step : Way → List Way) (least : Nat) (most : Option Nat) :
    Nat → Nat → Way → List Way
  | 0, _, way => [way]
  | fuel + 1, count, way =>
    let stops := if least ≤ count then [way] else []
    if most.any (· ≤ count) then stops
    else
      let nexts := (firstWays (step way)).filter fun next =>
        way.position < next.position || count < least
      firstWays (nexts.flatMap (repetitions step least most fuel (count + 1)) ++ stops)

/-- All the ways in which an expression matches from one position on. -/
def ends (subject : Subject) : Regex → Way → List Way
  | empty, way => [way]
  | char c, way =>
    match subject.chars[way.position]? with
    | some d =>
      let same := if subject.ignoresCase then c.toLower == d.toLower else c == d
      if same then [{ way with position := way.position + 1 }] else []
    | none => []
  | any, way =>
    if way.position < subject.chars.size then [{ way with position := way.position + 1 }] else []
  | oneOf negated members, way =>
    match subject.chars[way.position]? with
    | some d =>
      let covers (c : Char) : Bool := members.any fun m => m.covers c
      let covered := covers d || (subject.ignoresCase && (covers d.toLower || covers d.toUpper))
      if covered != negated then [{ way with position := way.position + 1 }] else []
    | none => []
  | sequence first second, way => (ends subject first way).flatMap (ends subject second)
  | either first second, way => ends subject first way ++ ends subject second way
  | repeated body least most, way =>
    repetitions (ends subject body) least most (subject.chars.size + least + 2) 0 way
  | group number body, way =>
    (ends subject body way).map fun next =>
      { next with groups := (number, way.position, next.position) :: next.groups }
  | again number, way =>
    match way.groups.lookup number with
    | some (start, finish) =>
      let wanted := (subject.chars.extract start finish).toList
      let found := (subject.chars.extract way.position (way.position + wanted.length)).toList
      let fold (cs : List Char) : List Char :=
        if subject.ignoresCase then cs.map Char.toLower else cs
      if fold wanted = fold found then [{ way with position := way.position + wanted.length }]
      else []
    | none => []
  | atStart, way => if way.position = 0 then [way] else []
  | atEnd, way => if way.position = subject.chars.size then [way] else []
  | wordStart, way => if wordAround subject way.position = (false, true) then [way] else []
  | wordEnd, way => if wordAround subject way.position = (true, false) then [way] else []
  | wordEdge, way =>
    let (before, after) := wordAround subject way.position
    if before != after then [way] else []
  | noWordEdge, way =>
    let (before, after) := wordAround subject way.position
    if before == after then [way] else []

/-- A match: from where to where, and what the groups have matched. -/
structure Match where
  start : Nat
  finish : Nat
  groups : List (Nat × Nat × Nat)

/-- The longest match that starts at a position. -/
def matchAt (regex : Regex) (subject : Subject) (start : Nat) : Option Match :=
  let ways := ends subject regex { position := start }
  let finish := (ways.map Way.position).foldl max 0
  (ways.find? (·.position == finish)).map fun way => ⟨start, finish, way.groups⟩

/-- The first of the longest matches from a position on. -/
def search (regex : Regex) (subject : Subject) (start : Nat) : Option Match :=
  (List.range (subject.chars.size + 1 - start)).findSome? fun i =>
    regex.matchAt subject (start + i)

/-- The text of a group; a group without a match has none. -/
def Match.group (m : Match) (subject : Subject) (number : Nat) : List Char :=
  if number = 0 then (subject.chars.extract m.start m.finish).toList
  else
    match m.groups.lookup number with
    | some (start, finish) => (subject.chars.extract start finish).toList
    | none => []

/-- The expression has a group. -/
def hasGroup : Regex → Bool
  | group _ _ => true
  | sequence first second | either first second => first.hasGroup || second.hasGroup
  | repeated body _ _ => body.hasGroup
  | _ => false

/-! ### Reading -/

/-- A reader of expressions: how many groups there have been, and what is left. -/
abbrev Parser (α : Type) : Type := StateT (Nat × List Char) (Except String) α

/-- What is left. -/
def rest : Parser (List Char) := return (← get).2

/-- Set what is left. -/
def setRest (cs : List Char) : Parser Unit := modify fun (n, _) => (n, cs)

/-- The members of a bracketed set up to its end.  The fuel counts characters. -/
def members : Nat → Bool → List Char → Except String (List Pattern.Member × List Char)
  | 0, _, _ => .error "Unmatched [, [^, [:, [., or [="
  | _, _, [] => .error "Unmatched [, [^, [:, [., or [="
  | fuel + 1, isFirst, c :: cs => do
    if c = ']' ∧ ¬isFirst then return ([], cs)
    let named (mark : Char) (cs : List Char) : Option (List Char × List Char) :=
      let name := cs.takeWhile (· ≠ mark)
      match cs.drop name.length with
      | _ :: ']' :: after => some (name, after)
      | _ => none
    match c, cs with
    | '[', ':' :: more =>
      match named ':' more with
      | some (name, after) =>
        let text := String.ofList name
        if (Pattern.classes.lookup text).isNone then .error "Invalid character class name"
        let (ms, left) ← members fuel false after
        return (.named text :: ms, left)
      | none => .error "Unmatched [, [^, [:, [., or [="
    | _, _ =>
      let (first, cs) ←
        match c, cs with
        | '[', mark :: more =>
          if mark = '=' ∨ mark = '.' then
            match named mark more with
            | some ([d], after) => pure (d, after)
            | _ => .error "Invalid collation character"
          else pure (c, cs)
        | _, _ => pure (c, cs)
      match cs with
      | '-' :: last :: after =>
        if last = ']' then
          let (ms, left) ← members fuel false cs
          return (.range first first :: ms, left)
        else
          let (last, after) ←
            match last, after with
            | '[', mark :: more =>
              if mark = '=' ∨ mark = '.' then
                match named mark more with
                | some ([d], after) => pure (d, after)
                | _ => .error "Invalid collation character"
              else pure (last, after)
            | _, _ => pure (last, after)
          if last < first then .error "Invalid range end"
          let (ms, left) ← members fuel false after
          return (.range first last :: ms, left)
      | _ =>
        let (ms, left) ← members fuel false cs
        return (.range first first :: ms, left)

/-- The bounds of a repetition up to the closing brace. -/
def bounds (extended : Bool) (cs : List Char) : Except String (Nat × Option Nat × List Char) :=
  let number (cs : List Char) : Option Nat × List Char :=
    let digits := cs.takeWhile Char.isDigit
    let n := digits.foldl (fun n c => n * 10 + (c.toNat - '0'.toNat)) 0
    (if digits.isEmpty then none else some n, cs.drop digits.length)
  let (least, after) := number cs
  let (most, after) : Option Nat × List Char :=
    match after with
    | ',' :: more => number more
    | after => (least, after)
  let closed : Option (List Char) :=
    match extended, after with
    | true, '\x7d' :: left => some left
    | false, '\\' :: '\x7d' :: left => some left
    | _, _ => none
  match closed with
  | none =>
    .error (if after.isEmpty then "Unmatched \\\x7b" else "Invalid content of \\\x7b\\\x7d")
  | some left =>
    if most.any (· < least.getD 0) then .error "Invalid content of \\\x7b\\\x7d"
    else .ok (least.getD 0, most, left)

/-- The expression for a letter after a backslash, if it has a meaning. -/
def special? (c : Char) : Option Regex :=
  let word : List Pattern.Member := [.named "alnum", .range '_' '_']
  match c with
  | 'w' => some (.oneOf false word)
  | 'W' => some (.oneOf true word)
  | 's' => some (.oneOf false [.named "space"])
  | 'S' => some (.oneOf true [.named "space"])
  | 'b' => some .wordEdge
  | 'B' => some .noWordEdge
  | '<' => some .wordStart
  | '>' => some .wordEnd
  | '\x60' => some .atStart
  | '\'' => some .atEnd
  | _ => none

/-- A repetition after an expression, and those that follow it.  The fuel counts characters. -/
def repeats (extended : Bool) : Nat → Regex → Parser Regex
  | 0, regex => return regex
  | fuel + 1, regex => do
    let cs ← rest
    let go (least : Nat) (most : Option Nat) (left : List Char) : Parser Regex := do
      setRest left
      repeats extended fuel (.repeated regex least most)
    match extended, cs with
    | _, '*' :: left => go 0 none left
    | true, '+' :: left => go 1 none left
    | true, '?' :: left => go 0 (some 1) left
    | false, '\\' :: '+' :: left => go 1 none left
    | false, '\\' :: '?' :: left => go 0 (some 1) left
    | true, '\x7b' :: more =>
      match bounds true more with
      | .ok (least, most, left) => go least most left
      | .error text =>
        if more.head?.any Char.isDigit ∧ more.contains '\x7d' then throw text else return regex
    | false, '\\' :: '\x7b' :: more =>
      let (least, most, left) ← bounds false more
      go least most left
    | _, _ => return regex

/-- The end of an alternative comes next. -/
def isEnd (extended : Bool) (depth : Nat) (cs : List Char) : Bool :=
  match extended, cs with
  | _, [] => true
  | true, '|' :: _ => true
  | true, ')' :: _ => 0 < depth
  | false, '\\' :: '|' :: _ => true
  | false, '\\' :: ')' :: _ => true
  | _, _ => false

mutual

/-- Alternatives, inside so many groups.  The fuel counts characters. -/
def alternatives (fuel : Nat) (extended : Bool) (depth : Nat) : Parser Regex := do
  match fuel with
  | 0 => throw "Regular expression too big"
  | fuel + 1 =>
    let first ← branch fuel extended depth true
    match extended, ← rest with
    | true, '|' :: left =>
      setRest left
      return .either first (← alternatives fuel extended depth)
    | false, '\\' :: '|' :: left =>
      setRest left
      return .either first (← alternatives fuel extended depth)
    | _, _ => return first

/-- Expressions one after the other. -/
def branch (fuel : Nat) (extended : Bool) (depth : Nat) (isFirst : Bool) : Parser Regex := do
  match fuel with
  | 0 => throw "Regular expression too big"
  | fuel + 1 =>
    if isEnd extended depth (← rest) then return .empty
    let item ← one fuel extended depth isFirst
    let stillFirst := !extended && isFirst && item == .atStart
    return .sequence item (← branch fuel extended depth stillFirst)

/-- An expression and its repetitions. -/
def one (fuel : Nat) (extended : Bool) (depth : Nat) (isFirst : Bool) : Parser Regex := do
  match fuel with
  | 0 => throw "Regular expression too big"
  | fuel + 1 =>
    let cs ← rest
    let size := cs.length
    let finish (regex : Regex) (left : List Char) : Parser Regex := do
      setRest left
      repeats extended (size + 1) regex
    let group (left : List Char) : Parser Regex := do
      let (n, _) ← get
      set (n + 1, left)
      let inside ← alternatives fuel extended (depth + 1)
      match extended, ← rest with
      | true, ')' :: left => finish (.group (n + 1) inside) left
      | false, '\\' :: ')' :: left => finish (.group (n + 1) inside) left
      | _, _ => throw "Unmatched ( or \\("
    match cs with
    | [] => return .empty
    | '[' :: more =>
      let (negated, more) :=
        match more with
        | '^' :: more => (true, more)
        | more => (false, more)
      if more.isEmpty then throw "Invalid regular expression"
      let inside := more.takeWhile (· ≠ ']')
      if 2 < inside.length ∧ inside.head? = some ':' ∧ inside.getLast? = some ':' then
        throw "character class syntax is [[:space:]], not [:space:]"
      let (ms, left) ← members (more.length + 1) true more
      finish (.oneOf negated ms) left
    | '.' :: left => finish .any left
    | '^' :: left =>
      if extended ∨ isFirst then
        if extended then finish .atStart left
        else
          setRest left
          return .atStart
      else finish (.char '^') left
    | '$' :: left =>
      if extended ∨ isEnd extended depth left then
        setRest left
        if extended then repeats extended (size + 1) .atEnd else return .atEnd
      else finish (.char '$') left
    | '*' :: left =>
      if isFirst then
        if extended then
          setRest left
          return .empty
        else finish (.char '*') left
      else finish (.char '*') left
    | ['\\'] => throw "Trailing backslash"
    | '\\' :: c :: left =>
      if c = '(' ∧ ¬extended then group left
      else if c = ')' ∧ ¬extended then throw "Unmatched ) or \\)"
      else if c = '\x7b' ∧ ¬extended then throw "Invalid preceding regular expression"
      else if '1' ≤ c ∧ c ≤ '9' then
        let (n, _) ← get
        let number := c.toNat - '0'.toNat
        if n < number then throw "Invalid back reference"
        finish (.again number) left
      else
        match special? c with
        | some regex => finish regex left
        | none => finish (.char (if c = 'n' then '\n' else c)) left
    | '(' :: left => if extended then group left else finish (.char '(') left
    | c :: left =>
      if extended ∧ (c = '+' ∨ c = '?') ∧ isFirst then
        setRest left
        return .empty
      else finish (.char c) left

end

/-- Read an expression, or tell what is wrong with it. -/
def read (extended : Bool) (text : String) : Except String Regex := do
  let cs := text.toList
  let (regex, (_, left)) ← (alternatives (4 * cs.length + 8) extended 0).run (0, cs)
  match left with
  | [] => return regex
  | _ => .error "Unmatched ) or \\)"

/-- The expression for a text that only stands for itself. -/
def literal (text : String) : Regex :=
  text.toList.foldr (fun c regex => .sequence (.char c) regex) .empty

end Regex

end BootLayer.Shell
