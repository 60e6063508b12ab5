import BootLayer.Shell.Name
import BootLayer.Shell.Script

/-!
Reading shell scripts.  A script is read one complete command at a time (`nextCommand`), so that the
commands before a fault have run, and names of aliases have been set, when the reading goes on.
Words are read in the context they stand in; a script inside a word is read by the same reader.
-/

namespace BootLayer.Shell

/-! ### Tokens -/

/-- A token of a script. -/
inductive Token where
  | word (word : Word) (quoted : Bool)
  /-- A word with a meaning of its own. -/
  | keyword (text : String)
  /-- A separator, a connective or a parenthesis. -/
  | operator (text : String)
  /-- The operator of a redirection, and the descriptor it is about. -/
  | redirect (descriptor : Nat) (text : String)
  | newline
  | endOfFile

namespace Token

/-- The words with a meaning of their own in front of a command. -/
def keywords : List String :=
  ["!", "case", "do", "done", "elif", "else", "esac", "fi", "for", "if", "in", "then", "until",
    "while", "\x7b", "\x7d"]

/-- The tokens that end a list of commands. -/
def endsList : Token → Bool
  | keyword text => ["do", "done", "elif", "else", "esac", "fi", "then", "\x7d"].contains text
  | operator text => text == ";;" || text == ")"
  | endOfFile => true
  | _ => false

/-- The token is the given operator or keyword. -/
def isMark (text : String) : Token → Bool
  | keyword t | operator t => t == text
  | _ => false

/-- Text between double quotes, as it is. -/
def inQuotes (text : String) : String := "\"" ++ text ++ "\""

/-- A token in a complaint. -/
def shown : Token → String
  | word _ _ => "word"
  | keyword text | operator text => inQuotes text
  | redirect _ _ => "redirection"
  | newline => "newline"
  | endOfFile => "end of file"

end Token

/-! ### Sources -/

/-- Where a script cannot be read on. -/
structure Misplaced where
  line : Nat
  message : String
  deriving DecidableEq, Repr

/-- A document in a script whose text starts after the line. -/
structure Awaited where
  number : Nat
  /-- The line that ends it. -/
  ending : List Char
  /-- Tabs in front of its lines are left out. -/
  strips : Bool
  /-- It is taken as it is. -/
  literal : Bool

/-- An alias whose text is being read. -/
structure Expanding where
  name : String
  /-- How many characters are left when its text has been read. -/
  left : Nat
  /-- Its text ends in a blank. -/
  endsBlank : Bool

/-- What is left of a script. -/
structure Source where
  chars : List Char
  line : Nat := 1
  aliases : List (String × String) := []
  expanding : List Expanding := []
  /-- A token that was read too far. -/
  ahead : Option Token := none
  awaited : List Awaited := []
  /-- The document whose text is being read, and the script from the line that ends it on. -/
  inside : Option (Awaited × List Char) := none
  /-- The documents read so far, by number. -/
  documents : List (Nat × Word) := []
  /-- The number of the next document. -/
  next : Nat := 0

/-- A reader of scripts. -/
abbrev Reader (α : Type) : Type := StateT Source (Except Misplaced) α

namespace Reader

/-- Refuse the script here. -/
def refuse {α : Type} (message : String) : Reader α := fun source => .error ⟨source.line, message⟩

/-- Refuse a token; `expected` is what could have stood there. -/
def unexpected {α : Type} (token : Token) (expected : Option String) : Reader α :=
  refuse <|
    match expected with
    | some text => token.shown ++ " unexpected (expecting " ++ text ++ ")"
    | none => token.shown ++ " unexpected"

/-! ### Characters -/

/-- Leave out lines that are continued. -/
def joinLines : Nat → List Char → Nat × List Char
  | line, '\\' :: '\n' :: rest => joinLines (line + 1) rest
  | line, cs => (line, cs)

/-- The next character, after continued lines. -/
def peekChar : Reader (Option Char) := fun source =>
  let (line, chars) := joinLines source.line source.chars
  .ok (chars.head?, { source with line, chars })

/-- Drop a character. -/
def dropChar : Reader Unit := fun source =>
  match source.chars with
  | [] => .ok ((), source)
  | c :: chars =>
    .ok ((), { source with chars, line := if c = '\n' then source.line + 1 else source.line })

/-- Take the next character, after continued lines. -/
def takeChar : Reader (Option Char) := do
  let c ← peekChar
  dropChar
  return c

/-- Drop the next character if it is the given one. -/
def dropIf (expected : Char) : Reader Bool := do
  if (← peekChar) = some expected then
    dropChar
    return true
  else return false

/-- Drop the next character, after continued lines, without regard to lines that it ends. -/
def swallow : Reader Unit := do
  let _ ← peekChar
  modify fun source => { source with chars := source.chars.tail }

/-- Put a character back in front. -/
def putBack (c : Char) : Reader Unit := fun source =>
  .ok ((), { source with chars := c :: source.chars })

/-- Take the characters of a class. -/
def takeChars (allowed : Char → Bool) : Nat → Reader (List Char)
  | 0 => return []
  | fuel + 1 => do
    match ← peekChar with
    | some c =>
      if allowed c then
        dropChar
        return c :: (← takeChars allowed fuel)
      else return []
    | none => return []

/-- Take what stands up to a closing single quote. -/
def takeLiteral : Reader (List Char) := fun source =>
  match source.chars.span (· ≠ '\'') with
  | (text, _ :: rest) =>
    .ok (text, { source with chars := rest, line := source.line + text.count '\n' })
  | (text, []) => .error ⟨source.line + text.count '\n', "Unterminated quoted string"⟩

/-- Take the text of a script between backquotes, up to the closing one.  The fuel counts
characters. -/
def takeBackquoted (quoted : Bool) : Nat → Reader (List Char)
  | 0 => refuse "EOF in backquote substitution"
  | fuel + 1 => do
    match ← takeChar with
    | none => refuse "EOF in backquote substitution"
    | some '\x60' => return []
    | some '\\' =>
      match ← takeChar with
      | none => return ['\\']
      | some c =>
        let rest ← takeBackquoted quoted fuel
        if c = '\\' ∨ c = '\x60' ∨ c = '$' ∨ (quoted ∧ c = '"') then return c :: rest
        else return '\\' :: c :: rest
    | some c => return c :: (← takeBackquoted quoted fuel)

/-! ### Contexts -/

/-- What a word stands in, which settles where it ends and what is special in it. -/
inductive Context where
  /-- The open. -/
  | plain
  /-- The open or double quotes, as the line that ends a document: nothing is expanded. -/
  | ending
  | quotedEnding
  /-- Double quotes. -/
  | quotes
  /-- The braces of a parameter, in the open or in quotes; there further quotes may be open, inside
  which a brace closes nothing. -/
  | braces
  | quotedBraces (isInner : Bool)
  /-- A document. -/
  | document
  /-- Arithmetic, with some parentheses open. -/
  | arithmetic (parentheses : Nat)
  deriving DecidableEq

/-- What stands in the context is quoted. -/
def Context.isQuoted : Context → Bool
  | .plain | .ending | .braces => false
  | _ => true

/-- The context is the line that ends a document. -/
def Context.isEnding : Context → Bool
  | .ending | .quotedEnding => true
  | _ => false

/-- The context is the braces of a parameter in quotes. -/
def Context.isQuotedBraces : Context → Bool
  | .quotedBraces _ => true
  | _ => false

/-- The character ends a word in the open. -/
def isDelimiter (c : Char) : Bool := " \t\n;&|()<>".toList.contains c

/-- A backslash takes the special meaning of this character away inside quotes. -/
def Context.escapes (context : Context) (c : Char) : Bool :=
  c == '\\' || c == '\x60' || c == '$' || (c == '"' && context != .document) ||
    (c == '\x7d' && context.isQuotedBraces)

/-- What is wrong if the script ends in the context. -/
def Context.fault? : Context → Option String
  | .plain | .ending | .document => none
  | .quotes | .quotedEnding | .quotedBraces _ => some "Unterminated quoted string"
  | .braces => some "Missing '\x7d'"
  | .arithmetic _ => some "Missing '))'"

/-- A quotation around pieces.  Around the parameters alone it leaves no mark: without parameters
nothing is left of it. -/
def quotation : Word → Word
  | [.parameter "@" .value word quoted] => [.parameter "@" .value word quoted]
  | pieces => .mark :: pieces

/-! ### Documents -/

/-- The lines up to the one that ends a document, and the rest from that line on.  A line that is
continued is not looked at together with the next. -/
def documentLines (awaited : Awaited) : Nat → Bool → List Char → List Char × List Char
  | 0, _, cs => ([], cs)
  | fuel + 1, isStart, cs =>
    if cs.isEmpty then ([], [])
    else
      let cs := if awaited.strips ∧ isStart then cs.dropWhile (· = '\t') else cs
      let line := cs.takeWhile (· ≠ '\n')
      let rest := (cs.drop line.length).tail
      if isStart ∧ line = awaited.ending then ([], cs)
      else
        let isContinued :=
          !awaited.literal && (line.reverse.takeWhile (· = '\\')).length % 2 == 1
        let (more, rest') := documentLines awaited fuel (!isContinued) rest
        let ended := if line.length < cs.length then ['\n'] else []
        (line ++ ended ++ more, rest')

/-- Look for the end of the document being read from here on, where a line is under way. -/
def resumeDocument (awaited : Awaited) : Reader Unit := fun source =>
  let (text, rest) := documentLines awaited (source.chars.length + 1) false source.chars
  .ok ((), { source with chars := text, inside := some (awaited, rest) })

/-- Read something that does not end with the document it stands in. -/
def beyondDocument {α : Type} (reader : Reader α) : Reader α := do
  match (← get).inside with
  | none => reader
  | some (awaited, rest) =>
    modify fun source => { source with chars := source.chars ++ rest, inside := none }
    let result ← reader
    resumeDocument awaited
    return result

/-- Refuse a script that ends in a context; in a document it is the document that ends. -/
def refuseEnd (context : Context) : Reader Word := do
  match context.fault?, (← get).inside with
  | none, _ => return []
  | some message, none => refuse message
  | some message, some (_, rest) =>
    if !rest.isEmpty then modify fun source => { source with line := source.line + 1 }
    refuse (if context.isQuotedBraces then "Missing '\x7d'" else message)

/-! ### Words -/

/-- The operation that a character after the name of a parameter asks for. -/
def operationOf (c : Char) (orEmpty : Bool) : Option Operation :=
  match c with
  | '-' => some (.default orEmpty)
  | '=' => some (.assign orEmpty)
  | '?' => some (.demand orEmpty)
  | '+' => some (.alternative orEmpty)
  | _ => none

/-- Drop blanks, and a comment up to the end of its line. -/
def skipBlanks : Nat → Reader Unit
  | 0 => return
  | fuel + 1 => do
    match ← peekChar with
    | some ' ' | some '\t' =>
      dropChar
      skipBlanks fuel
    | some '#' =>
      modify fun source => { source with chars := source.chars.dropWhile (· ≠ '\n') }
    | _ => return

/-- The operator of a redirection after its first character. -/
def redirection (first : Char) : Reader String := do
  if first = '>' then
    if ← dropIf '>' then return ">>"
    else if ← dropIf '|' then return ">|"
    else if ← dropIf '&' then return ">&"
    else return ">"
  else
    if ← dropIf '<' then
      if ← dropIf '-' then return "<<-" else return "<<"
    else if ← dropIf '&' then return "<&"
    else if ← dropIf '>' then return "<>"
    else return "<"

/-- Push a token back. -/
def unread (token : Token) : Reader Unit := modify fun source => { source with ahead := some token }

/-- How a list of commands ends. -/
inductive Extent where
  /-- With its line. -/
  | line
  /-- With a token that cannot go on, after at least one command. -/
  | body
  /-- With such a token, and there may be no command. -/
  | optional
  deriving DecidableEq

/-- One command after another. -/
def join (first : Option Command) (second : Command) : Command :=
  match first with
  | some first => .sequence first second
  | none => second

/-- The name and the value of a word that is an assignment. -/
def assignment? (word : Word) : Option (String × Word) :=
  match word with
  | .text chars false :: rest =>
    let name := chars.takeWhile isNameChar
    match chars.drop name.length with
    | '=' :: value =>
      if isName name then
        some (String.ofList name, if value.isEmpty then rest else .text value false :: rest)
      else none
    | _ => none
  | _ => none

/-- The names of functions that the shell keeps for itself. -/
def reservedNames : List String :=
  [".", ":", "break", "continue", "eval", "exec", "exit", "export", "readonly", "return", "set",
    "shift", "times", "trap", "unset"]

mutual

/-- The pieces of a word up to the end of its context.  The fuel counts characters and levels. -/
def pieces (fuel : Nat) (context : Context) : Reader Word := do
  match fuel with
  | 0 => refuse "word too long"
  | fuel + 1 =>
    let quoted := context.isQuoted
    let keep (c : Char) (quoted : Bool) : Reader Word := do
      dropChar
      return Word.prepend c quoted (← pieces fuel context)
    match ← peekChar with
    | none => refuseEnd context
    | some '\\' =>
      dropChar
      match (← get).chars with
      | [] => return Word.prepend '\\' true (← pieces fuel context)
      | c :: _ =>
        dropChar
        let rest ← pieces fuel context
        if quoted ∧ ¬context.escapes c then
          return Word.prepend '\\' true (Word.prepend c true rest)
        else if quoted then return Word.prepend c true rest
        else return .mark :: Word.prepend c true rest
    | some '$' =>
      if context.isEnding then keep '$' quoted
      else
        dropChar
        let first ← dollar fuel quoted
        return first ++ (← pieces fuel context)
    | some '\x60' =>
      if context.isEnding then keep '\x60' quoted
      else
        dropChar
        let command ← beyondDocument do
          let text ← takeBackquoted quoted ((← get).chars.length + 1)
          inner fuel text
        return .output command quoted :: (← pieces fuel context)
    | some c =>
      match context with
      | .plain | .ending =>
        if c = '\'' then
          dropChar
          let text ← takeLiteral
          return .mark :: .text text true :: (← pieces fuel context)
        else if c = '"' then
          dropChar
          let inside ← pieces fuel (if context.isEnding then .quotedEnding else .quotes)
          return quotation inside ++ (← pieces fuel context)
        else if isDelimiter c then return []
        else keep c false
      | .quotes | .quotedEnding =>
        if c = '"' then
          dropChar
          return []
        else keep c true
      | .braces =>
        if c = '\'' then
          dropChar
          let text ← takeLiteral
          return .mark :: .text text true :: (← pieces fuel context)
        else if c = '"' then
          dropChar
          let inside ← pieces fuel .quotes
          return quotation inside ++ (← pieces fuel context)
        else if c = '\x7d' then
          dropChar
          return []
        else keep c false
      | .quotedBraces isInner =>
        if c = '"' then
          dropChar
          pieces fuel (.quotedBraces !isInner)
        else if c = '\x7d' ∧ ¬isInner then
          dropChar
          return []
        else keep c true
      | .document => keep c true
      | .arithmetic parentheses =>
        if c = '(' then
          dropChar
          return Word.prepend c true (← pieces fuel (.arithmetic (parentheses + 1)))
        else if c = ')' then
          dropChar
          match parentheses with
          | 0 =>
            if ← dropIf ')' then return []
            else return Word.prepend c true (← pieces fuel context)
          | p + 1 => return Word.prepend c true (← pieces fuel (.arithmetic p))
        else keep c true

/-- What stands after a dollar sign, which by itself is text. -/
def dollar (fuel : Nat) (quoted : Bool) : Reader Word := do
  match fuel with
  | 0 => refuse "word too long"
  | fuel + 1 =>
    match ← peekChar with
    | some '(' =>
      dropChar
      if ← dropIf '(' then return [.arithmetic (← pieces fuel (.arithmetic 0)) quoted]
      else return [.output (← beyondDocument (substitution fuel)) quoted]
    | some '\x7b' =>
      dropChar
      braced fuel quoted
    | some c =>
      if isNameStart c then
        let name ← takeChars isNameChar ((← get).chars.length + 1)
        return [.parameter (String.ofList name) .value [] quoted]
      else if isSpecial c then
        dropChar
        return [.parameter (String.singleton c) .value [] quoted]
      else return [.text ['$'] quoted]
    | none => return [.text ['$'] quoted]

/-- A parameter after its opening brace. -/
def braced (fuel : Nat) (quoted : Bool) : Reader Word := do
  match fuel with
  | 0 => refuse "word too long"
  | fuel + 1 =>
    let bound := (← get).chars.length + 1
    let rest (operation : Operation) : Reader Word :=
      pieces fuel <|
        match operation, quoted with
        | .trim _ _, _ | _, false => .braces
        | _, true => .quotedBraces false
    let finish (name : String) (operation : Operation) : Reader Word := do
      return [.parameter name operation (← rest operation) quoted]
    let spoilt (name : String) (next : Option Char) : Reader Word := do
      swallow
      if next = some '\n' then
        if let some (awaited, beyond) := (← get).inside then
          modify fun source => { source with chars := source.chars ++ beyond }
          resumeDocument awaited
      finish name .bad
    let operate (name : String) : Reader Word := do
      match ← peekChar with
      | some '\x7d' =>
        dropChar
        return [.parameter name .value [] quoted]
      | some ':' =>
        dropChar
        let next ← peekChar
        match next.bind fun c => operationOf c true with
        | some operation =>
          dropChar
          finish name operation
        | none =>
          if next = some '\x7d' then
            dropChar
            return .parameter name .value [] quoted :: (← rest .value)
          else spoilt name next
      | some '%' => do
        dropChar
        let longest ← dropIf '%'
        finish name (.trim true longest)
      | some '#' => do
        dropChar
        let longest ← dropIf '#'
        finish name (.trim false longest)
      | next =>
        match next.bind fun c => operationOf c false with
        | some operation =>
          dropChar
          finish name operation
        | none => spoilt name next
    match ← peekChar with
    | none => finish "" .bad
    | some c =>
      if isNameStart c then
        operate (String.ofList (← takeChars isNameChar bound))
      else if c.isDigit then
        operate (String.ofList (← takeChars Char.isDigit bound))
      else if c = '\x7d' then finish "" .bad
      else if c ≠ '#' ∧ ¬isSpecial c then spoilt "" (some c)
      else
        dropChar
        if c = '#' then
          match ← peekChar with
          | some d =>
            if isNameChar d then
              let allowed := if d.isDigit then Char.isDigit else isNameChar
              let name ← takeChars allowed bound
              let isWhole := (← peekChar) = some '\x7d'
              finish (String.ofList name) (if isWhole then .length else .bad)
            else
              dropChar
              if d ≠ '\x7d' ∧ (← peekChar) = some '\x7d' then
                if isSpecial d then finish (String.singleton d) .length
                else finish "" .bad
              else
                putBack d
                operate "#"
          | none => finish "" .bad
        else operate (String.singleton c)

/-- A script up to a closing parenthesis. -/
def substitution (fuel : Nat) : Reader Command := do
  match fuel with
  | 0 => refuse "script too deep"
  | fuel + 1 =>
    let awaited := (← get).awaited
    modify fun source => { source with awaited := [], ahead := none }
    let body ← list fuel .optional none
    expect fuel ")"
    modify fun source => { source with awaited }
    return body.getD (.simple 1 [] [] [])

/-- A script in a text of its own.  What stands after its commands is left out. -/
def inner (fuel : Nat) (text : List Char) : Reader Command := do
  match fuel with
  | 0 => refuse "script too deep"
  | fuel + 1 =>
    let outer ← get
    modify fun source =>
      { source with chars := text, line := 1, awaited := [], ahead := none, expanding := [] }
    let body ← list fuel .optional none
    modify fun source =>
      { source with
        chars := outer.chars, awaited := outer.awaited, ahead := outer.ahead
        expanding := outer.expanding, line := outer.line }
    return body.getD (.simple 1 [] [] [])

/-- Read the documents that the line has announced. -/
def readDocuments (fuel : Nat) : Reader Unit := do
  match fuel with
  | 0 => refuse "document too long"
  | fuel + 1 =>
    match (← get).awaited with
    | [] => return
    | first :: others =>
      let source ← get
      let (text, rest) := documentLines first (source.chars.length + 1) true source.chars
      let word ←
        if first.literal then
          modify fun source =>
            { source with line := source.line + text.count '\n', inside := some (first, rest) }
          pure [Piece.text text true]
        else do
          modify fun source =>
            { source with chars := text, awaited := [], inside := some (first, rest) }
          pieces fuel .document
      let rest := ((← get).inside.map Prod.snd).getD []
      let chars := (rest.dropWhile (· ≠ '\n')).tail
      modify fun source =>
        { source with
          chars, awaited := others, inside := none
          documents := (first.number, word) :: source.documents
          line := if rest.isEmpty then source.line else source.line + 1 }
      readDocuments fuel

/-- The next token of the script. -/
def lex (fuel : Nat) (forEnding : Bool) : Reader Token := do
  match fuel with
  | 0 => refuse "script too long"
  | fuel + 1 =>
    skipBlanks ((← get).chars.length + 1)
    let operator (text : String) : Reader Token := do
      dropChar
      return .operator text
    match ← peekChar with
    | none => return .endOfFile
    | some '\n' =>
      dropChar
      return .newline
    | some '&' =>
      dropChar
      if ← dropIf '&' then return .operator "&&" else return .operator "&"
    | some '|' =>
      dropChar
      if ← dropIf '|' then return .operator "||" else return .operator "|"
    | some ';' =>
      dropChar
      if ← dropIf ';' then return .operator ";;" else return .operator ";"
    | some '(' => operator "("
    | some ')' => operator ")"
    | some c =>
      if c = '<' ∨ c = '>' then
        dropChar
        return .redirect (if c = '<' then 0 else 1) (← redirection c)
      else
        if c.isDigit then
          dropChar
          match ← peekChar with
          | some d =>
            if d = '<' ∨ d = '>' then
              dropChar
              return .redirect (c.toNat - '0'.toNat) (← redirection d)
            else putBack c
          | none => putBack c
        let word ← pieces fuel (if forEnding then .ending else .plain)
        return .word word word.plain?.isNone

/-- Read a token.  Line ends may be skipped; a word may be taken for a keyword, or for an alias,
whose text is then read in its place. -/
def token (fuel : Nat) (newlines keywords aliases : Bool) : Reader Token := do
  match fuel with
  | 0 => refuse "script too long"
  | fuel + 1 =>
    let before := (← get).chars.length
    let expanding := (← get).expanding
    let ahead := (← get).ahead
    let (token', start) ← do
      match ahead with
      | some t =>
        modify fun source => { source with ahead := none }
        pure (t, before + 1)
      | none =>
        skipBlanks (before + 1)
        let start := (← get).chars.length
        pure (← lex fuel false, start)
    match token' with
    | .newline =>
      if newlines then
        readDocuments fuel
        token fuel newlines keywords aliases
      else return .newline
    | .word word false =>
      let text := String.ofList (word.plain?.getD [])
      let aliases :=
        aliases || expanding.any fun e => e.endsBlank && e.left < before && start ≤ e.left
      if keywords ∧ Token.keywords.contains text then return .keyword text
      else
        let source ← get
        let inUse := expanding.any fun e => e.name == text && e.left < start
        match (if aliases ∧ ¬inUse then source.aliases.lookup text else none) with
        | some value =>
          let chars := value.toList
          let isBlank (c : Char) : Bool := c == ' ' || c == '\t'
          set { source with
            chars := chars ++ source.chars
            expanding :=
              ⟨text, source.chars.length, chars.getLast?.any isBlank⟩ :: source.expanding }
          token fuel newlines keywords aliases
        | none => return .word word false
    | t => return t

/-- Drop the operator or keyword that has to stand here. -/
def expect (fuel : Nat) (text : String) : Reader Unit := do
  match fuel with
  | 0 => refuse "script too long"
  | fuel + 1 =>
    let found ← token fuel false true false
    if found.isMark text then return else unexpected found (some (Token.inQuotes text))

/-- Commands up to where they end, after those that have been read. -/
def list (fuel : Nat) (extent : Extent) (soFar : Option Command) : Reader (Option Command) := do
  match fuel with
  | 0 => refuse "script too long"
  | fuel + 1 =>
    let first ← token fuel (extent ≠ .line) true true
    match first with
    | .newline =>
      readDocuments fuel
      return soFar
    | .endOfFile =>
      readDocuments fuel
      unread .endOfFile
      return soFar
    | first =>
      unread first
      if extent ≠ .line ∧ (soFar.isSome ∨ extent = .optional) ∧ first.endsList then return soFar
      let next ← connected fuel none
      let separator ← token fuel false false false
      match separator with
      | .operator "&" => list fuel extent (some (join soFar (.background next)))
      | .operator ";" => list fuel extent (some (join soFar next))
      | .newline | .endOfFile =>
        unread separator
        list fuel extent (some (join soFar next))
      | other =>
        if extent = .line then unexpected other none
        else
          unread other
          return some (join soFar next)

/-- Pipelines that depend on the success of the one before.  Both connectives bind alike, from the
left. -/
def connected (fuel : Nat) (first : Option Command) : Reader Command := do
  match fuel with
  | 0 => refuse "script too long"
  | fuel + 1 =>
    let first ← do
      match first with
      | some first => pure first
      | none => pipeline fuel false
    let connective ← token fuel false false false
    match connective with
    | .operator "&&" => connected fuel (some (.both first (← pipeline fuel true)))
    | .operator "||" => connected fuel (some (.either first (← pipeline fuel true)))
    | other =>
      unread other
      return first

/-- Commands whose output is the input of the next, or one command; the outcome may be negated. -/
def pipeline (fuel : Nat) (newlines : Bool) : Reader Command := do
  match fuel with
  | 0 => refuse "script too long"
  | fuel + 1 =>
    let first ← token fuel newlines true true
    if first.isMark "!" then
      return .negated (← piped fuel (← command fuel (← token fuel false true true)))
    else piped fuel (← command fuel first)

/-- A command, and those that its output goes to. -/
def piped (fuel : Nat) (first : Command) : Reader Command := do
  match fuel with
  | 0 => refuse "script too long"
  | fuel + 1 =>
    let found ← token fuel false false false
    if found.isMark "|" then
      let next ← command fuel (← token fuel true true true)
      match ← piped fuel next with
      | .pipe parts => return .pipe (first :: parts)
      | other => return .pipe [first, other]
    else
      unread found
      return first

/-- A command that starts with a token. -/
def command (fuel : Nat) (first : Token) : Reader Command := do
  match fuel with
  | 0 => refuse "script too long"
  | fuel + 1 =>
    let line := (← get).line
    let body (isNeeded : String) : Reader Command := do
      match ← list fuel .body none with
      | some body => return body
      | none => unexpected .endOfFile (some (Token.inQuotes isNeeded))
    match first with
    | .keyword "if" =>
      let result ← branches fuel
      expect fuel "fi"
      wrapped fuel line result
    | .keyword "while" | .keyword "until" =>
      let test ← body "do"
      expect fuel "do"
      let repeated ← body "done"
      expect fuel "done"
      wrapped fuel line (.loop (first.isMark "until") test repeated)
    | .keyword "for" =>
      let name ←
        match ← token fuel false false false with
        | .word word false =>
          let name := word.plain?.getD []
          if isName name then pure (String.ofList name) else refuse "Bad for loop variable"
        | _ => refuse "Bad for loop variable"
      let found ← token fuel true true true
      let words ←
        if found.isMark "in" then do
          let words ← wordList fuel
          match ← token fuel false false false with
          | .newline | .operator ";" => pure words
          | other => unexpected other none
        else do
          if ¬found.isMark ";" then unread found
          pure [[Piece.parameter "@" .value [] true]]
      let found ← token fuel true true true
      if ¬found.isMark "do" then unexpected found (some (Token.inQuotes "do"))
      let repeated ← body "done"
      expect fuel "done"
      wrapped fuel line (.each line name words repeated)
    | .keyword "case" =>
      match ← token fuel false false false with
      | .word subject _ =>
        let found ← token fuel true true true
        if ¬found.isMark "in" then unexpected found (some (Token.inQuotes "in"))
        let branches ← choices fuel
        wrapped fuel line (.choice line subject branches)
      | other => unexpected other (some "word")
    | .operator "(" =>
      let inside ← body ")"
      expect fuel ")"
      let redirects ← redirects fuel true
      return .subshell line inside redirects
    | .keyword "\x7b" =>
      let inside ← body "\x7d"
      expect fuel "\x7d"
      wrapped fuel line inside
    | .word _ _ | .redirect _ _ =>
      unread first
      simple fuel line [] [] []
    | other => unexpected other none

/-- A compound command and the redirections that follow it. -/
def wrapped (fuel : Nat) (line : Nat) (body : Command) : Reader Command := do
  match fuel with
  | 0 => refuse "script too long"
  | fuel + 1 =>
    match ← redirects fuel true with
    | [] => return body
    | redirects => return .redirected line body redirects

/-- The branches of a conditional, after the keyword that opens the first one. -/
def branches (fuel : Nat) : Reader Command := do
  match fuel with
  | 0 => refuse "script too long"
  | fuel + 1 =>
    let body (isNeeded : String) : Reader Command := do
      match ← list fuel .body none with
      | some body => return body
      | none => unexpected .endOfFile (some (Token.inQuotes isNeeded))
    let test ← body "then"
    expect fuel "then"
    let yes ← body "fi"
    let found ← token fuel false true false
    if found.isMark "elif" then return .conditional test yes (some (← branches fuel))
    else if found.isMark "else" then return .conditional test yes (some (← body "fi"))
    else
      unread found
      return .conditional test yes none

/-- The branches of a choice, up to its last word. -/
def choices (fuel : Nat) : Reader (List (List Word × Option Command)) := do
  match fuel with
  | 0 => refuse "script too long"
  | fuel + 1 =>
    let found ← token fuel true true false
    if found.isMark "esac" then return []
    let found ← if found.isMark "(" then token fuel false false false else pure found
    let patterns ← patterns fuel found
    let body ← list fuel .optional none
    let ending ← token fuel true true false
    if ending.isMark "esac" then return [(patterns, body)]
    else if ending.isMark ";;" then return (patterns, body) :: (← choices fuel)
    else unexpected ending (some (Token.inQuotes ";;"))

/-- Patterns up to a closing parenthesis. -/
def patterns (fuel : Nat) (first : Token) : Reader (List Word) := do
  match fuel with
  | 0 => refuse "script too long"
  | fuel + 1 =>
    let pattern ←
      match first with
      | .word word _ => pure word
      | .keyword text => pure [Piece.text text.toList false]
      | _ => pure []
    let found ← token fuel false false false
    if found.isMark "|" then
      return pattern :: (← patterns fuel (← token fuel false false false))
    else if found.isMark ")" then return [pattern]
    else unexpected found (some (Token.inQuotes ")"))

/-- Words up to something else. -/
def wordList (fuel : Nat) : Reader (List Word) := do
  match fuel with
  | 0 => refuse "script too long"
  | fuel + 1 =>
    match ← token fuel false false false with
    | .word word _ => return word :: (← wordList fuel)
    | other =>
      unread other
      return []

/-- The redirections that stand here; after them a keyword may stand. -/
def redirects (fuel : Nat) (keywords : Bool) : Reader (List Redirect) := do
  match fuel with
  | 0 => refuse "script too long"
  | fuel + 1 =>
    match ← token fuel false keywords keywords with
    | .redirect descriptor operator =>
      let first ← target fuel descriptor operator
      return first :: (← redirects fuel keywords)
    | other =>
      unread other
      return []

/-- A redirection after its operator. -/
def target (fuel : Nat) (descriptor : Nat) (operator : String) : Reader Redirect := do
  match fuel with
  | 0 => refuse "script too long"
  | fuel + 1 =>
    let isDocument := operator.startsWith "<<"
    let found ←
      if isDocument then lex fuel true else token fuel false false false
    match found with
    | .word word quoted =>
      match operator with
      | "<" => return .file descriptor .read word
      | ">" => return .file descriptor .write word
      | ">|" => return .file descriptor .overwrite word
      | ">>" => return .file descriptor .append word
      | "<>" => return .file descriptor .readWrite word
      | ">&" | "<&" => return .duplicate descriptor word
      | _ =>
        let source ← get
        let awaited : Awaited := ⟨source.next, word.unquoted, operator = "<<-", quoted⟩
        set { source with awaited := source.awaited ++ [awaited], next := source.next + 1 }
        return .document descriptor source.next
    | other => unexpected other none

/-- A simple command, after its first parts.  A name and a pair of parentheses start the definition
of a function. -/
def simple (fuel : Nat) (line : Nat) (assignments : List (String × Word)) (words : List Word)
    (redirects : List Redirect) : Reader Command := do
  match fuel with
  | 0 => refuse "script too long"
  | fuel + 1 =>
    match ← token fuel false false words.isEmpty with
    | .word word _ =>
      match (if words.isEmpty then assignment? word else none) with
      | some assignment => simple fuel line (assignments ++ [assignment]) words redirects
      | none => simple fuel line assignments (words ++ [word]) redirects
    | .redirect descriptor operator =>
      let redirect ← target fuel descriptor operator
      simple fuel line assignments words (redirects ++ [redirect])
    | .operator "(" =>
      match assignments, words, redirects with
      | [], [word], [] =>
        let closing ← token fuel false false false
        if !closing.isMark ")" then unexpected closing (some (Token.inQuotes ")"))
        let name := word.plain?.getD []
        if isName name ∧ ¬reservedNames.contains (String.ofList name) then
          let body ← command fuel (← token fuel true true true)
          return .define (String.ofList name) body
        else refuse "Bad function name"
      | _, _, _ =>
        unread (.operator "(")
        return .simple line assignments words redirects
    | other =>
      unread other
      return .simple line assignments words redirects

end

end Reader

/-- The next complete command of a script: none for an empty line, and nothing at all at the end.
Every level of the grammar takes only a few steps to the next character. -/
def nextCommand (source : Source) : Except Misplaced (Option (Option Command) × Source) :=
  let fuel := 20 * source.chars.length + 100
  match (Reader.list fuel .line none).run source with
  | .error misplaced => .error misplaced
  | .ok (command, source) =>
    match command, source.ahead with
    | none, some .endOfFile => .ok (none, source)
    | command, _ => .ok (some command, source)

end BootLayer.Shell
