import BootLayer.Shell.Numeral

/-!
The texts that `echo` and `printf` write.  Both know the backslash escapes.  The format of `printf`
is used again for as long as arguments are left; what is wrong with an argument is told and a number
is written all the same.
-/

namespace BootLayer.Shell.Format

/-! ### Escapes -/

/-- The character of a letter after a backslash. -/
def control? (c : Char) : Option Char :=
  [('a', '\x07'), ('b', '\x08'), ('e', '\x1b'), ('f', '\x0c'), ('n', '\n'), ('r', '\r'),
    ('t', '\t'),
    ('v', '\x0b'), ('\\', '\\')].lookup c

/-- The character is an octal digit. -/
def isOctal (c : Char) : Bool := '0' ≤ c && c ≤ '7'

/-- The character of octal digits, which are counted modulo a byte. -/
def octal (digits : List Char) : Char :=
  Char.ofNat ((digits.foldl (fun n c => n * 8 + (c.toNat - '0'.toNat)) 0) % 256)

/-- What stands after a backslash, and the rest.  With `longZero` a leading zero does not count
among the three digits of an octal number. -/
def escape (longZero : Bool) (cs : List Char) : List Char × List Char :=
  match cs with
  | [] => (['\\'], [])
  | c :: rest =>
    if longZero ∧ c = '0' then
      let digits := (rest.take 3).takeWhile isOctal
      ([octal digits], rest.drop digits.length)
    else if isOctal c then
      let digits := (cs.take 3).takeWhile isOctal
      ([octal digits], cs.drop digits.length)
    else
      match control? c with
      | some b => ([b], rest)
      | none => (['\\'], cs)

/-- The text with its escapes replaced, and whether the output ends in it.  The fuel counts
characters. -/
def unescape : Nat → List Char → List Char × Bool
  | 0, _ => ([], false)
  | _, [] => ([], false)
  | _ + 1, '\\' :: 'c' :: _ => ([], true)
  | fuel + 1, '\\' :: rest =>
    let (text, rest) := escape true rest
    let (more, ended) := unescape fuel rest
    (text ++ more, ended)
  | fuel + 1, c :: rest =>
    let (more, ended) := unescape fuel rest
    (c :: more, ended)

/-- What `echo` writes. -/
def echo (arguments : List String) : String :=
  let (words, newline) :=
    match arguments with
    | "-n" :: rest => (rest, false)
    | all => (all, true)
  let text := (" ".intercalate words).toList
  let (text, ended) := unescape text.length text
  String.ofList (if newline ∧ ¬ended then text ++ ['\n'] else text)

/-! ### Directives -/

/-- A directive of a format. -/
structure Directive where
  flags : List Char
  width : Nat
  precision : Option Nat
  conversion : Char

/-- Fill text up to the width of a directive; `lead` is a sign or a base in front of zeros. -/
def Directive.fill (d : Directive) (zeros : Bool) (lead text : List Char) : List Char :=
  let missing := d.width - (lead.length + text.length)
  if d.flags.contains '-' then lead ++ text ++ List.replicate missing ' '
  else if zeros then lead ++ List.replicate missing '0' ++ text
  else List.replicate missing ' ' ++ lead ++ text

/-- The sign in front of a number. -/
def Directive.sign (d : Directive) (negative : Bool) : List Char :=
  if negative then ['-']
  else if d.flags.contains '+' then ['+']
  else if d.flags.contains ' ' then [' ']
  else []

/-- What a directive writes for a text. -/
def Directive.text (d : Directive) (text : List Char) : List Char :=
  d.fill false [] (match d.precision with
    | some n => text.take n
    | none => text)

/-- What a directive writes for an integer. -/
def Directive.integer (d : Directive) (n : Int) : List Char :=
  let unsigned := (n % 18446744073709551616).toNat
  let isSigned := d.conversion = 'd' ∨ d.conversion = 'i'
  let isAlternative := d.flags.contains '#'
  let base :=
    match d.conversion with
    | 'x' | 'X' => 16
    | 'o' => 8
    | _ => 10
  let value := if isSigned then n.natAbs else unsigned
  let digits :=
    if value = 0 ∧ d.precision = some 0 then [] else Nat.toDigits base value
  let digits := if d.conversion = 'X' then digits.map Char.toUpper else digits
  let digits := List.replicate ((d.precision.getD 1) - digits.length) '0' ++ digits
  let digits :=
    if base = 8 ∧ isAlternative ∧ digits.head? ≠ some '0' then '0' :: digits else digits
  let lead :=
    if isSigned then d.sign (n < 0)
    else if base = 16 ∧ isAlternative ∧ value ≠ 0 then ['0', d.conversion]
    else []
  d.fill (d.flags.contains '0' && d.precision.isNone) lead digits

/-- What a directive writes for a double. -/
def Directive.double (d : Directive) (x : Double) : List Char :=
  let text := Numeral.unsigned d.conversion d.precision (d.flags.contains '#') x
  -- the mark of base sixteen stands in front of the zeros
  let isHex := d.conversion.toLower = 'a' ∧ x.isFinite
  let (base, digits) := if isHex then (text.take 2, text.drop 2) else ([], text)
  d.fill (d.flags.contains '0' && x.isFinite) (d.sign x.negative ++ base) digits

/-! ### Output -/

/-- The state of a `printf` under way. -/
structure Output where
  arguments : List String
  /-- The text so far, its last part first. -/
  parts : List (List Char) := []
  /-- What is wrong, the last complaint first. -/
  complaints : List String := []
  /-- Nothing more is written. -/
  ended : Bool := false
  /-- The command fails altogether. -/
  failed : Bool := false

namespace Output

/-- Add text. -/
def add (o : Output) (text : List Char) : Output := { o with parts := text :: o.parts }

/-- Add a complaint. -/
def complain (o : Output) (text : String) : Output :=
  { o with complaints := text :: o.complaints }

/-- Give up. -/
def fail (o : Output) (text : String) : Output :=
  { o.complain text with ended := true, failed := true }

/-- The next argument. -/
def next (o : Output) : Option String × Output :=
  (o.arguments.head?, { o with arguments := o.arguments.tail })

/-- Complain about what was left of an argument that a number was read from. -/
def judge (o : Output) (argument : String) (isNumber isComplete isInRange : Bool) : Output :=
  if ¬isNumber then o.complain (argument ++ ": expected numeric value")
  else if ¬isComplete then o.complain (argument ++ ": not completely converted")
  else if ¬isInRange then o.complain (argument ++ ": Numerical result out of range")
  else o

/-- The number of a character after a quote. -/
def quoted? (argument : String) : Option Nat :=
  match argument.toList with
  | '\'' :: rest | '"' :: rest => some ((rest.head?.map Char.toNat).getD 0)
  | _ => none

/-- The next argument as an integer. -/
def nextInteger (o : Output) (signed : Bool) : Int × Output :=
  match o.next with
  | (none, o) | (some "", o) => (0, o)
  | (some argument, o) =>
    match quoted? argument with
    | some n => (n, o)
    | none =>
      match readInteger true argument.toList with
      | none => (0, o.judge argument false false true)
      | some (n, rest) =>
        let least : Int := if signed then -9223372036854775808 else -18446744073709551615
        let most : Int := if signed then 9223372036854775807 else 18446744073709551615
        let inRange : Bool := least ≤ n && n ≤ most
        let lowest := if signed then least else most
        let n := if n < least then lowest else if most < n then most else n
        (n, o.judge argument true rest.isEmpty inRange)

/-- The next argument as a double. -/
def nextDouble (o : Output) : Double × Output :=
  match o.next with
  | (none, o) | (some "", o) => (Double.zero false, o)
  | (some argument, o) =>
    match quoted? argument with
    | some n => (Double.ofInt n, o)
    | none =>
      match Numeral.read? argument.toList with
      | none => (Double.zero false, o.judge argument false false true)
      | some reading =>
        (reading.value, o.judge argument true reading.rest.isEmpty !reading.outOfRange)

/-- Carry out a directive. -/
def direct (o : Output) (d : Directive) (source : List Char) : Output :=
  match d.conversion with
  | 's' =>
    let (argument, o) := o.next
    o.add (d.text (argument.getD "").toList)
  | 'c' =>
    let (argument, o) := o.next
    o.add (d.fill false [] [((argument.getD "").toList.head?).getD '\x00'])
  | 'b' =>
    let (argument, o) := o.next
    let cs := (argument.getD "").toList
    let (text, ended) := unescape cs.length cs
    { o.add (d.text text) with ended }
  | 'd' | 'i' =>
    let (n, o) := o.nextInteger true
    o.add (d.integer n)
  | 'o' | 'u' | 'x' | 'X' =>
    let (n, o) := o.nextInteger false
    o.add (d.integer n)
  | c =>
    if "aAeEfFgG".toList.contains c then
      let (x, o) := o.nextDouble
      o.add (d.double x)
    else o.fail (String.ofList source ++ ": invalid directive")

/-- A width or a precision at the front of a format, and the rest; a star takes an argument. -/
def measure (o : Output) (cs : List Char) : Option Int × List Char × Output :=
  match cs with
  | '*' :: rest =>
    let (n, o) := o.nextInteger true
    (some n, rest, o)
  | cs =>
    let digits := cs.takeWhile Char.isDigit
    let n := digits.foldl (fun n c => n * 10 + (c.toNat - '0'.toNat)) 0
    (if digits.isEmpty then none else some n, cs.drop digits.length, o)

/-- One use of a format.  The fuel counts characters. -/
def use : Nat → List Char → Output → Output
  | 0, _, o => o
  | _, [], o => o
  | fuel + 1, '\\' :: rest, o =>
    let (text, rest) := escape false rest
    use fuel rest (o.add text)
  | fuel + 1, '%' :: '%' :: rest, o => use fuel rest (o.add ['%'])
  | fuel + 1, '%' :: rest, o =>
    let flags := rest.takeWhile fun c => "#-+ 0".toList.contains c
    let (width, more, o) := o.measure (rest.drop flags.length)
    let (precision, more, o) :=
      match more with
      | '.' :: more =>
        let (precision, more, o) := o.measure more
        (some (precision.getD 0), more, o)
      | more => (none, more, o)
    match more with
    | [] => o.fail "missing format character"
    | c :: next =>
      let width := width.getD 0
      let d : Directive :=
        { flags := if width < 0 then '-' :: flags else flags
          width := width.natAbs
          precision := precision.bind fun n => if n < 0 then none else some n.toNat
          conversion := c }
      let o := o.direct d ('%' :: rest.take (rest.length - next.length))
      if o.ended then o else use fuel next o
  | fuel + 1, c :: rest, o => use fuel rest (o.add [c])

/-- Uses of a format until no arguments are left.  The fuel counts arguments. -/
def uses : Nat → List Char → Output → Output
  | 0, _, o => o
  | fuel + 1, format, o =>
    let after := use format.length format o
    let isStuck := after.arguments.length = o.arguments.length
    if after.ended ∨ after.arguments.isEmpty ∨ isStuck then after
    else uses fuel format after

/-- The text that was written. -/
def text (o : Output) : String := String.ofList o.parts.reverse.flatten

end Output

/-- What `printf` writes and complains about. -/
def printf (format : String) (arguments : List String) : Output :=
  Output.uses (arguments.length + 1) format.toList { arguments }

end BootLayer.Shell.Format
