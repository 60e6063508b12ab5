import BootLayer.Shell.Arithmetic
import BootLayer.Shell.Builtin

/-!
The expansion of words: parameters, the output of commands, arithmetic and home directories.  What
runs the commands is given to it (`Substitute`).  An expanded word is cut into fields, or taken as
one text, or as a pattern.
-/

namespace BootLayer.Shell

open Run

/-- Runs a command and takes its output. -/
abbrev Substitute : Type := Command → Run String

namespace Expansion

/-! ### Home directories -/

/-- What a word is expanded for. -/
structure Purpose where
  /-- Fields are wanted. -/
  splits : Bool := true
  /-- Plain text is split as well. -/
  splitsText : Bool := false
  deriving DecidableEq, Repr

/-- The home directory of a name; without a name, that of the user. -/
def home? (own : Option String) (name : List Char) : Option String :=
  match String.ofList name with
  | "" => own
  | "root" => some "/root"
  | _ => none

/-- Replace home directories in text, at its start and, in an assignment, after colons.  The text is
the last of the word if `isLast`.  The fuel counts characters. -/
def homesInText (own : Option String) (assigns isLast : Bool) : Nat → Bool → List Char → Word
  | 0, _, cs => [.text cs false]
  | _, _, [] => []
  | fuel + 1, isStart, c :: rest =>
    let isEnd (c : Char) : Bool := c == '/' || (assigns && c == ':')
    let name := rest.takeWhile fun c => !isEnd c
    let after := rest.drop name.length
    match
      if isStart ∧ c = '~' ∧ (isLast ∨ ¬after.isEmpty) then home? own name else none with
    | some path => .text path.toList true :: homesInText own assigns isLast fuel false after
    | none =>
      Word.prepend c false (homesInText own assigns isLast fuel (assigns && c == ':') rest)

/-- Replace home directories in a word, at its start and, in an assignment, after colons. -/
def homes (own : Option String) (assigns : Bool) (isStart : Bool) : Word → Word
  | .text chars false :: rest =>
    let isStart' := assigns && chars.getLast? == some ':'
    homesInText own assigns rest.isEmpty chars.length isStart chars ++
      (if assigns then homes own assigns isStart' rest else rest)
  | piece :: rest => piece :: (if assigns then homes own assigns false rest else rest)
  | [] => []

/-! ### Parameters -/

/-- What a parameter holds: a text, or the parameters of the shell. -/
inductive Held where
  | text (text : String)
  | list (values : List String)

/-- What a parameter holds; nothing if it is not set. -/
def held (name : String) : Run (Option Held) := do
  let p ← process
  match name with
  | "@" | "*" => return if p.parameters.isEmpty then none else some (.list p.parameters)
  | "?" => return some (.text (toString p.status))
  | "$" => return some (.text (toString p.shellNumber))
  | "#" => return some (.text (toString p.parameters.length))
  | "-" => return some (.text (Builtin.activeOptions p))
  | "!" => return p.lastJob.map fun n => .text (toString n)
  | name =>
    if name ≠ "" ∧ name.toList.all Char.isDigit then
      let n := name.toList.foldl (fun n c => n * 10 + (c.toNat - '0'.toNat)) 0
      if n = 0 then return some (.text p.name)
      else return (p.parameters[n - 1]?).map Held.text
    else return (← value? name).map Held.text

/-- The text between parameters that are joined. -/
def joint : Run String := do
  match ← value? "IFS" with
  | some text => return String.ofList (text.toList.take 1)
  | none => return " "

/-- What a parameter holds, as one text. -/
def Held.joined : Held → Run String
  | .text value => return value
  | .list values => return (← joint).intercalate values

/-- The glyphs of a text that has been put in for something. -/
def glyphs (quoted : Bool) (text : String) : List Glyph :=
  if quoted then Glyph.ofChars true false text.toList
  else .start false :: Glyph.ofChars false true text.toList

/-- The glyphs of what a parameter holds. -/
def Held.glyphs (splits quoted isEach : Bool) : Held → Run (List Glyph)
  | .text value => return Expansion.glyphs quoted value
  | .list values => do
    if splits ∧ quoted ∧ isEach then
      return .start true ::
        [Glyph.gap].intercalate (values.map fun value => Glyph.ofChars true false value.toList)
    else if splits ∧ ¬quoted then
      let between : List Glyph :=
        if (← value? "IFS").isSome then [.gap] else [.char ' ' false true]
      return .start false ::
        between.intercalate (values.map fun value => Glyph.ofChars false true value.toList)
    else return Expansion.glyphs quoted ((← joint).intercalate values)

/-- Evaluate an arithmetic expression. -/
def arithmetic (expression : String) : Run String := do
  let p ← process
  let scope : Arithmetic.Scope :=
    { value? := fun name => (p.bindings.find? name).bind Variable.value
      isReadOnly := fun name => (p.bindings.find? name).any Variable.readOnly }
  let (result, assigned) := Arithmetic.evaluate scope expression
  for (name, n) in assigned do assign name (toString n.toInt)
  match result with
  | .ok n => return toString n.toInt
  | .error .overflow => throw (.killed 8)
  | .error fault => fail (fault.message expression)

/-! ### Words -/

/-- The text of output that is put in: line ends at its end go, and so does the byte zero. -/
def outputText (text : String) : String :=
  let cs := text.toList.filter (· ≠ '\x00')
  String.ofList (cs.reverse.dropWhile (· = '\n')).reverse

mutual

/-- Expand the pieces of a word.  The fuel counts how deep words stand inside one another. -/
def pieces (fuel : Nat) (substitute : Substitute) (purpose : Purpose) (word : Word) :
    Run (List Glyph) := do
  match fuel with
  | 0 => fail "word too deep"
  | fuel + 1 =>
    let parts ← word.mapM fun piece => do
      match piece with
      | .mark => return [Glyph.mark]
      | .text chars quoted =>
        if purpose.splitsText ∧ ¬quoted then return .start false :: Glyph.ofChars false true chars
        else return Glyph.ofChars quoted false chars
      | .output command quoted => return glyphs quoted (outputText (← substitute command))
      | .arithmetic expression quoted =>
        let inside ← pieces fuel substitute { splits := false } expression
        return glyphs quoted (← arithmetic (Field.text inside))
      | .parameter name operation word quoted =>
        parameter fuel substitute purpose name operation word quoted
    return parts.flatten

/-- Expand a parameter. -/
def parameter (fuel : Nat) (substitute : Substitute) (purpose : Purpose) (name : String)
    (operation : Operation) (word : Word) (quoted : Bool) : Run (List Glyph) := do
  match fuel with
  | 0 => fail "word too deep"
  | fuel + 1 =>
    if operation = .bad then fail "Bad substitution"
    let held ← held name
    let isEach := name == "@"
    let inside (purpose : Purpose) : Run (List Glyph) := do
      pieces fuel substitute purpose (homes (← value? "HOME") false true word)
    let asText : Run String := return Field.text (← inside { splits := false })
    let shown (held : Option Held) : Run (List Glyph) := do
      match held with
      | some held => held.glyphs purpose.splits quoted isEach
      | none => return if quoted then [] else [.start false]
    let isMissing (orEmpty : Bool) : Run Bool := do
      match held with
      | none => return true
      | some held => return orEmpty && (← held.joined) == ""
    let instead : Run (List Glyph) :=
      if quoted then inside { purpose with splitsText := false }
      else inside { purpose with splitsText := purpose.splits }
    match operation with
    | .default orEmpty => if ← isMissing orEmpty then instead else shown held
    | .alternative orEmpty => if ← isMissing orEmpty then return [] else instead
    | .assign orEmpty =>
      if name ≠ "@" ∧ name ≠ "*" ∧ (← isMissing orEmpty) then
        let text ← asText
        Builtin.checkName name
        assign name text
        shown (some (.text text))
      else shown held
    | .demand orEmpty =>
      if ← isMissing orEmpty then
        let text ← asText
        if word.isEmpty then
          fail (name ++ ": parameter not set" ++ (if orEmpty then " or null" else ""))
        else fail (name ++ ": " ++ text)
      else shown held
    | _ =>
      if held.isNone ∧ name ≠ "@" ∧ name ≠ "*" ∧ (← isOn 'u') then
        fail (name ++ ": parameter not set")
      match operation with
      | .length =>
        let text ← (held.map Held.joined).getD (pure "")
        return glyphs quoted (toString text.length)
      | .trim atEnd longest =>
        let pattern ← inside { splits := false }
        let text ← (held.map Held.joined).getD (pure "")
        let items := Pattern.read (Field.pattern pattern)
        return glyphs quoted (String.ofList (Pattern.trim items atEnd longest text.toList))
      | _ => shown held

end

/-- How deep words may stand inside one another. -/
def maxDepth : Nat := 1000

/-- Expand a word into glyphs. -/
def word (substitute : Substitute) (purpose : Purpose) (assigns : Bool) (word : Word) :
    Run (List Glyph) := do
  pieces maxDepth substitute purpose (homes (← value? "HOME") assigns true word)

/-- The fields of a word. -/
def fields (substitute : Substitute) (word : Word) : Run (List String) := do
  let glyphs ← Expansion.word substitute {} false word
  let fields := Field.split (← separators) glyphs
  if ← isOn 'f' then return fields.map Field.text
  else
    let tree ← tree
    let cwd := (← process).cwd
    return fields.flatMap (Field.paths tree cwd)

/-- A word as one text. -/
def text (substitute : Substitute) (assigns : Bool) (word : Word) : Run String := do
  return Field.text (← Expansion.word substitute { splits := false } assigns word)

/-- A word as a pattern. -/
def pattern (substitute : Substitute) (word : Word) : Run (List Pattern.Item) := do
  return Pattern.read (Field.pattern (← Expansion.word substitute { splits := false } false word))

/-- The text of a document. -/
def document (substitute : Substitute) (word : Word) : Run String := do
  return Field.text (← pieces maxDepth substitute { splits := false } word)

/-- The name of a variable at the start of a word that looks like an assignment, and the rest. -/
def declaration? (word : Word) : Option (List Char × Word) :=
  match word with
  | .text chars false :: rest =>
    let name := chars.takeWhile isNameChar
    match chars.drop name.length with
    | '=' :: value =>
      if isName name then
        some (name ++ ['='], if value.isEmpty then rest else .text value false :: rest)
      else none
    | _ => none
  | _ => none

/-- The fields of an argument of a command that takes assignments. -/
def argument (substitute : Substitute) (word : Word) : Run (List String) := do
  match declaration? word with
  | some (lead, value) => return [String.ofList lead ++ (← text substitute true value)]
  | none => fields substitute word

end Expansion

end BootLayer.Shell
