import BootLayer.Number.Hexadecimal

/-!
The four quoted forms of text in TOML: between double quotes with escapes, between single quotes
as it is, and both over several lines between three quotes.  A line break between three quotes is
read as one line feed, and one right after the opening quotes is left out.
-/

namespace BootLayer.Toml

/-- A character that may stand in text and comments as it is: no control other than the tab. -/
def isPlain (c : Char) : Bool := c == '\t' || (0x20 ≤ c.toNat && c.toNat != 0x7F)

/-- A blank inside a line. -/
def isSpace (c : Char) : Bool := c == ' ' || c == '\t'

/-- Put a character in front of what was read. -/
def prepend (c : Char) (r : Option (List Char × List Char)) : Option (List Char × List Char) :=
  r.map fun (text, rest) => (c :: text, rest)

/-! ### Escapes -/

/-- The number that hexadecimal digits spell. -/
def hexNumber? (cs : List Char) : Option Nat :=
  cs.foldlM (fun n c => (Hexadecimal.digit? c).map fun d => 16 * n + d) 0

/-- The character of a code, unless the code is a surrogate or too large. -/
def scalar? (n : Nat) : Option Char :=
  if n < 0xD800 ∨ (0xE000 ≤ n ∧ n ≤ 0x10FFFF) then some (Char.ofNat n) else none

/-- The character of a backslash and one letter. -/
def shortEscape? (c : Char) : Option Char :=
  if c = 'b' then some '\x08'
  else if c = 't' then some '\t'
  else if c = 'n' then some '\n'
  else if c = 'f' then some '\x0c'
  else if c = 'r' then some '\r'
  else if c = '"' then some '"'
  else if c = '\\' then some '\\'
  else none

/-- Read an escape after its backslash. -/
def readEscape : List Char → Option (Char × List Char)
  | 'u' :: a :: b :: c :: d :: rest =>
    ((hexNumber? [a, b, c, d]).bind scalar?).map fun e => (e, rest)
  | 'U' :: a :: b :: c :: d :: e :: f :: g :: h :: rest =>
    ((hexNumber? [a, b, c, d, e, f, g, h]).bind scalar?).map fun e => (e, rest)
  | c :: rest => (shortEscape? c).map fun e => (e, rest)
  | [] => none

/-! ### One line -/

/-- Read text in double quotes after the opening one; `fuel` bounds its characters. -/
def readBasic (fuel : Nat) (cs : List Char) : Option (List Char × List Char) :=
  match fuel, cs with
  | fuel + 1, c :: rest =>
    if c = '"' then some ([], rest)
    else if c = '\\' then
      match readEscape rest with
      | some (e, rest) => prepend e (readBasic fuel rest)
      | none => none
    else if isPlain c then prepend c (readBasic fuel rest)
    else none
  | _, _ => none

/-- Read text in single quotes after the opening one. -/
def readLiteral : List Char → Option (List Char × List Char)
  | [] => none
  | c :: rest =>
    if c = '\'' then some ([], rest)
    else if isPlain c then prepend c (readLiteral rest)
    else none

/-! ### Several lines -/

/-- The text after a line break at its front, if there is one. -/
def afterBreak? : List Char → Option (List Char)
  | '\n' :: rest => some rest
  | '\r' :: '\n' :: rest => some rest
  | _ => none

/-- The text after a line break at its front, or all of it. -/
def skipBreak (cs : List Char) : List Char := (afterBreak? cs).getD cs

/-- The quotes that belong to the text although they stand at the closing ones: three quotes
close, and of those that follow two at most are text. -/
def closing (quote : Char) : List Char → List Char × List Char
  | a :: b :: rest =>
    if a = quote then
      if b = quote then ([quote, quote], rest) else ([quote], b :: rest)
    else ([], a :: b :: rest)
  | [a] => if a = quote then ([quote], []) else ([], [a])
  | [] => ([], [])

/-- The text after three quotes at its front, if they stand there. -/
def afterTriple? (quote : Char) : List Char → Option (List Char)
  | a :: b :: c :: rest => if a = quote ∧ b = quote ∧ c = quote then some rest else none
  | _ => none

/-- Leave out blanks and line breaks. -/
def skipFold : List Char → List Char
  | '\r' :: '\n' :: rest => skipFold rest
  | c :: rest => if isSpace c ∨ c = '\n' then skipFold rest else c :: rest
  | [] => []

/-- A backslash at the end of a line takes with it the blanks and breaks after it. -/
def fold? (cs : List Char) : Option (List Char) :=
  (afterBreak? (cs.dropWhile isSpace)).map skipFold

/-- Read text in three double quotes after the opening ones and their line break. -/
def readBasicLines (fuel : Nat) (cs : List Char) : Option (List Char × List Char) :=
  match fuel with
  | 0 => none
  | fuel + 1 =>
    match afterTriple? '"' cs, afterBreak? cs, cs with
    | some rest, _, _ => some (closing '"' rest)
    | none, some rest, _ => prepend '\n' (readBasicLines fuel rest)
    | none, none, '\\' :: rest =>
      match fold? rest, readEscape rest with
      | some rest, _ => readBasicLines fuel rest
      | none, some (e, rest) => prepend e (readBasicLines fuel rest)
      | none, none => none
    | none, none, c :: rest => if isPlain c then prepend c (readBasicLines fuel rest) else none
    | none, none, [] => none

/-- Read text in three single quotes after the opening ones and their line break. -/
def readLiteralLines (fuel : Nat) (cs : List Char) : Option (List Char × List Char) :=
  match fuel with
  | 0 => none
  | fuel + 1 =>
    match afterTriple? '\'' cs, afterBreak? cs, cs with
    | some rest, _, _ => some (closing '\'' rest)
    | none, some rest, _ => prepend '\n' (readLiteralLines fuel rest)
    | none, none, c :: rest => if isPlain c then prepend c (readLiteralLines fuel rest) else none
    | none, none, [] => none

/-! ### Any form -/

/-- Read quoted text on one line. -/
def readLine : List Char → Option (String × List Char)
  | '"' :: rest => (readBasic (rest.length + 1) rest).map fun (t, rest) => (String.ofList t, rest)
  | '\'' :: rest => (readLiteral rest).map fun (t, rest) => (String.ofList t, rest)
  | _ => none

/-- Read quoted text in any form. -/
def readQuoted (cs : List Char) : Option (String × List Char) :=
  match afterTriple? '"' cs, afterTriple? '\'' cs with
  | some rest, _ =>
    (readBasicLines (rest.length + 1) (skipBreak rest)).map fun (t, rest) => (String.ofList t, rest)
  | none, some rest =>
    (readLiteralLines (rest.length + 1) (skipBreak rest)).map fun (t, rest) =>
      (String.ofList t, rest)
  | none, none => readLine cs

end BootLayer.Toml
