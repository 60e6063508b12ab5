import BootLayer.Text.Latin1

/-!
Text and names in a shell.  A shell works on bytes, so its texts have one character a byte, whatever
characters the bytes stand for: `ofText` and `toText` lead from the text of the outside to that of
the shell and back.
-/

namespace BootLayer.Shell

/-- The shell's view of a text: one character for each byte of it. -/
def ofText (text : String) : String := Text.Latin1.decode (Text.Utf8.encode text)

/-- The bytes of a text of the shell. -/
def bytesOf (text : String) : Bytes := text.toList.map Text.Latin1.byte

/-- The text of the shell with these bytes. -/
def ofBytes (data : Bytes) : String := Text.Latin1.decode data

/-- The text that the bytes of a text of the shell stand for. -/
def toText (text : String) : String := (Text.Utf8.decode (bytesOf text)).getD text

/-- The character may start the name of a variable. -/
def isNameStart (c : Char) : Bool := c.isAlpha || c == '_'

/-- The character may stand in the name of a variable. -/
def isNameChar (c : Char) : Bool := isNameStart c || c.isDigit

/-- The text is the name of a variable. -/
def isName : List Char → Bool
  | [] => false
  | c :: rest => isNameStart c && rest.all isNameChar

/-- The character names a parameter by itself. -/
def isSpecial (c : Char) : Bool := "$?#@*!-0123456789".toList.contains c

/-- A blank, as the readers of numbers skip it. -/
def isSpace (c : Char) : Bool := c == ' ' || (9 ≤ c.toNat && c.toNat ≤ 13)

/-- Read an integer with an optional sign after blanks; with `anyBase` a leading `0x`, `0b` or `0`
asks for base sixteen, two or eight.  The rest of the text comes with it; there is nothing without a
digit. -/
def readInteger (anyBase : Bool) (cs : List Char) : Option (Int × List Char) :=
  let cs := cs.dropWhile isSpace
  let (negative, cs) :=
    match cs with
    | '-' :: rest => (true, rest)
    | '+' :: rest => (false, rest)
    | cs => (false, cs)
  let value (base : Nat) (c : Char) : Option Nat :=
    let n :=
      if c.isDigit then c.toNat - '0'.toNat
      else if 'a' ≤ c ∧ c ≤ 'f' then c.toNat - 'a'.toNat + 10
      else if 'A' ≤ c ∧ c ≤ 'F' then c.toNat - 'A'.toNat + 10
      else base
    if n < base then some n else none
  let read (base : Nat) (cs : List Char) : Option (Int × List Char) :=
    let digits := cs.takeWhile fun c => (value base c).isSome
    if digits.isEmpty then none
    else
      let n := digits.foldl (fun n c => n * base + (value base c).getD 0) 0
      some (if negative then -(n : Int) else n, cs.drop digits.length)
  if anyBase then
    match cs with
    | '0' :: x :: rest =>
      if x = 'x' ∨ x = 'X' then (read 16 rest).or (some (0, x :: rest))
      else if x = 'b' ∨ x = 'B' then (read 2 rest).or (some (0, x :: rest))
      else read 8 cs
    | _ => read (if cs.head? = some '0' then 8 else 10) cs
  else read 10 cs

/-- The integer of a whole text, blanks around it allowed; there is none if it does not fit a signed
word of 64 bits. -/
def wholeInteger? (anyBase : Bool) (text : String) : Option Int :=
  match readInteger anyBase text.toList with
  | some (n, rest) =>
    if rest.all isSpace ∧ Int64.minValue.toInt ≤ n ∧ n ≤ Int64.maxValue.toInt then some n else none
  | none => none

/-- The count that an argument of the shell's own commands gives. -/
def count? (text : String) : Option Nat :=
  match wholeInteger? false text with
  | some n => if 0 ≤ n ∧ n ≤ Int32.maxValue.toInt then some n.toNat else none
  | none => none

end BootLayer.Shell
