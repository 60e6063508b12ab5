import BootLayer.Toml.Scalar

/-!
Reading TOML text: keys, values, expressions and whole documents.  Arrays may spread over lines and
hold comments, tables in braces may not.
-/

namespace BootLayer.Toml

/-- How many arrays and tables in braces may stand inside one another. -/
def maxDepth : Nat := 79

/-- How many parts a dotted key may have. -/
def maxParts : Nat := 79

/-! ### Blanks -/

/-- The text after the blanks at its front. -/
def skipSpace (cs : List Char) : List Char := cs.dropWhile isSpace

/-- The text after blanks, line breaks and comments.  A comment ends with its line. -/
def skipLoose : Bool → List Char → List Char
  | _, '\r' :: '\n' :: rest => skipLoose false rest
  | comment, c :: rest =>
    if c = '\n' then skipLoose false rest
    else if comment then
      if isPlain c then skipLoose true rest else c :: rest
    else if isSpace c then skipLoose false rest
    else if c = '#' then skipLoose true rest
    else c :: rest
  | _, [] => []

/-- The text after the end of a line, before which there may be blanks and a comment. -/
def afterLine? (cs : List Char) : Option (List Char) :=
  let rest :=
    match skipSpace cs with
    | '#' :: rest => rest.dropWhile isPlain
    | rest => rest
  match rest with
  | [] => some []
  | rest => afterBreak? rest

/-! ### Keys -/

/-- A character of a key without quotes. -/
def isBare (c : Char) : Bool := c.isAlphanum || c == '_' || c == '-'

/-- Read one part of a key. -/
def readPart : List Char → Option (String × List Char)
  | '"' :: rest => readLine ('"' :: rest)
  | '\'' :: rest => readLine ('\'' :: rest)
  | cs =>
    let name := cs.takeWhile isBare
    if name = [] then none else some (String.ofList name, cs.dropWhile isBare)

/-- Read the parts of a dotted key, blanks around each. -/
def readParts (fuel : Nat) (cs : List Char) : Option (List String × List Char) :=
  match fuel with
  | 0 => none
  | fuel + 1 =>
    match readPart (skipSpace cs) with
    | none => none
    | some (part, rest) =>
      match skipSpace rest with
      | '.' :: rest => (readParts fuel rest).map fun (parts, rest) => (part :: parts, rest)
      | rest => some ([part], rest)

/-- Read a dotted key: the tables it leads through and the name in the last one. -/
def readKey (cs : List Char) : Option ((Key × String) × List Char) := do
  let (parts, rest) ← readParts (cs.length + 1) cs
  if maxParts < parts.length then none
  else
    let name ← parts.getLast?
    return ((parts.dropLast, name), rest)

/-! ### Values -/

mutual

/-- Read a value, with `depth` containers still allowed. -/
def readValue (fuel depth : Nat) (cs : List Char) : Option (Item × List Char) :=
  match fuel with
  | 0 => none
  | fuel + 1 =>
    match cs with
    | '"' :: _ => (readQuoted cs).map fun (t, rest) => (.text t, rest)
    | '\'' :: _ => (readQuoted cs).map fun (t, rest) => (.text t, rest)
    | '[' :: rest =>
      match depth with
      | 0 => none
      | depth + 1 => (readItems fuel depth rest).map fun (items, rest) => (.array items, rest)
    | '\x7b' :: rest =>
      match depth with
      | 0 => none
      | depth + 1 =>
        match skipSpace rest with
        | '\x7d' :: rest => some (.inline .header .nil, rest)
        | rest =>
          match readPairs fuel depth rest with
          | some (pairs, rest) => (buildInline pairs).map fun table => (table, rest)
          | none => none
    | 't' :: 'r' :: 'u' :: 'e' :: rest => some (.boolean true, rest)
    | 'f' :: 'a' :: 'l' :: 's' :: 'e' :: rest => some (.boolean false, rest)
    | 'i' :: _ => readSpecial cs
    | 'n' :: _ => readSpecial cs
    | _ => readNumber cs

/-- Read the items of an array up to its closing bracket.  A comma may follow the last one. -/
def readItems (fuel depth : Nat) (cs : List Char) : Option (List Item × List Char) :=
  match fuel with
  | 0 => none
  | fuel + 1 =>
    match skipLoose false cs with
    | ']' :: rest => some ([], rest)
    | start =>
      match readValue fuel depth start with
      | none => none
      | some (item, rest) =>
        match skipLoose false rest with
        | ',' :: rest => (readItems fuel depth rest).map fun (items, rest) => (item :: items, rest)
        | ']' :: rest => some ([item], rest)
        | _ => none

/-- Read the assignments in braces up to the closing one; there is at least one. -/
def readPairs (fuel depth : Nat) (cs : List Char) :
    Option (List (Key × String × Item) × List Char) :=
  match fuel with
  | 0 => none
  | fuel + 1 =>
    match readKey cs with
    | some ((path, name), '=' :: rest) =>
      match readValue fuel depth (skipSpace rest) with
      | none => none
      | some (item, rest) =>
        match skipSpace rest with
        | ',' :: rest =>
          (readPairs fuel depth rest).map fun (pairs, rest) => ((path, name, item) :: pairs, rest)
        | '\x7d' :: rest => some ([(path, name, item)], rest)
        | _ => none
    | _ => none

end

/-! ### Expressions -/

/-- Read the header of a table after its opening bracket. -/
def readHeader (cs : List Char) : Option (Expression × List Char) :=
  match cs with
  | '[' :: rest =>
    match readKey rest with
    | some ((path, name), ']' :: ']' :: rest) => some (.element path name, rest)
    | _ => none
  | rest =>
    match readKey rest with
    | some ((path, name), ']' :: rest) => some (.table path name, rest)
    | _ => none

/-- Read an assignment. -/
def readAssignment (cs : List Char) : Option (Expression × List Char) :=
  match readKey cs with
  | some ((path, name), '=' :: rest) =>
    (readValue (2 * rest.length + 2) maxDepth (skipSpace rest)).map fun (item, rest) =>
      (.assign path name item, rest)
  | _ => none

/-- Read the expressions of a document, one a line. -/
def readExpressions (fuel : Nat) (cs : List Char) : Option (List Expression) :=
  match fuel with
  | 0 => none
  | fuel + 1 =>
    match skipSpace cs with
    | [] => some []
    | '#' :: rest =>
      match afterLine? ('#' :: rest) with
      | some rest => readExpressions fuel rest
      | none => none
    | start =>
      match afterBreak? start with
      | some rest => readExpressions fuel rest
      | none =>
        let read :=
          match start with
          | '[' :: rest => readHeader rest
          | rest => readAssignment rest
        match read with
        | none => none
        | some (expression, rest) =>
          match afterLine? rest with
          | some rest => (readExpressions fuel rest).map (expression :: ·)
          | none => none

/-- The text without a byte order mark. -/
def withoutMark : List Char → List Char
  | c :: rest => if c.toNat = 0xFEFF then rest else c :: rest
  | [] => []

/-- The root table of the document that a text writes. -/
def read (text : String) : Option (Dict Item) :=
  let cs := withoutMark text.toList
  (readExpressions (cs.length + 1) cs).bind build

end BootLayer.Toml
