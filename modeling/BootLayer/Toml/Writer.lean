import BootLayer.Toml.Quoted

/-!
Writing text in TOML.  Of five forms the first that fits is taken: double quotes, single quotes,
three double quotes, three single quotes, and last double quotes (three of them if the text has
several lines) with escapes.
-/

namespace BootLayer.Toml

/-! ### What the forms ask for -/

/-- A control character. -/
def isControl (c : Char) : Bool := c.toNat < 0x20 || c.toNat == 0x7F

/-- The text has no control character besides those of a list. -/
def controlsOnly (allowed : List Char) (cs : List Char) : Bool :=
  cs.all fun c => !isControl c || allowed.contains c

/-- The greatest number of equal characters in a row, after `run` of them. -/
def longestRun (quote : Char) (run : Nat) : List Char → Nat
  | [] => run
  | c :: rest =>
    if c = quote then longestRun quote (run + 1) rest else max run (longestRun quote 0 rest)

/-! ### Escapes -/

/-- The hexadecimal digit of a number below sixteen, in upper case. -/
def upperDigit (n : Nat) : Char := if n < 10 then Char.ofNat (48 + n) else Char.ofNat (55 + n)

/-- A control character or backslash as an escape. -/
def escapeControl (c : Char) : List Char :=
  if c = '\x08' then ['\\', 'b']
  else if c = '\t' then ['\\', 't']
  else if c = '\n' then ['\\', 'n']
  else if c = '\x0c' then ['\\', 'f']
  else if c = '\r' then ['\\', 'r']
  else if c = '\\' then ['\\', '\\']
  else ['\\', 'u', '0', '0', upperDigit (c.toNat / 16), upperDigit (c.toNat % 16)]

/-- The inside of double quotes on one line. -/
def escapeLine (cs : List Char) : List Char :=
  cs.flatMap fun c =>
    if c = '"' then ['\\', '"'] else if c = '\\' ∨ isControl c then escapeControl c else [c]

/-- The inside of three double quotes, after `run` quotes in a row: the third is escaped, and
counting starts anew after each escape. -/
def escapeLines (run : Nat) : List Char → List Char
  | [] => []
  | c :: rest =>
    if c = '"' then
      if run < 2 then '"' :: escapeLines (run + 1) rest else '\\' :: '"' :: escapeLines 0 rest
    else if c ≠ '\n' ∧ (c = '\\' ∨ isControl c) then escapeControl c ++ escapeLines 0 rest
    else c :: escapeLines 0 rest

/-! ### The forms -/

/-- A text between quotes. -/
def enclose (quotes : String) (cs : List Char) : List Char :=
  quotes.toList ++ cs ++ quotes.toList

/-- A text between three quotes; one of several lines starts on a line of its own. -/
def encloseLines (quotes : String) (multiline : Bool) (cs : List Char) : List Char :=
  enclose quotes (if multiline then '\n' :: cs else cs)

/-- A text in the first form that fits. -/
def writeText (text : String) : String :=
  let cs := text.toList
  let multiline := cs.contains '\n'
  String.ofList <|
    if controlsOnly ['\t'] cs ∧ !cs.contains '\\' ∧ !cs.contains '"' then
      enclose "\"" (escapeLine cs)
    else if controlsOnly ['\t'] cs ∧ !cs.contains '\'' then enclose "'" cs
    else if controlsOnly ['\t', '\n'] cs ∧ !cs.contains '\\' ∧ longestRun '"' 0 cs ≤ 2 then
      encloseLines "\"\"\"" multiline (escapeLines 0 cs)
    else if controlsOnly ['\t', '\n'] cs ∧ longestRun '\'' 0 cs ≤ 2 then
      encloseLines "'''" multiline cs
    else if multiline then encloseLines "\"\"\"" true (escapeLines 0 cs)
    else enclose "\"" (escapeLine cs)

end BootLayer.Toml
