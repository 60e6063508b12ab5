import BootLayer.Shell.Utility.Basic

/-!
Utilities that make their output from their arguments and surroundings alone.
-/

namespace BootLayer.Shell.Utility

open Run

/-! ### Sequences of numbers -/

/-- A decimal number, its value in units of so many places, with the width and the places that it is
written with. -/
structure Decimal where
  units : Int
  places : Nat
  width : Nat
  shownPlaces : Nat

/-- A number written without a fraction. -/
def Decimal.one : Decimal := { units := 1, places := 0, width := 1, shownPlaces := 0 }

/-- The value in units of more places. -/
def Decimal.scaled (d : Decimal) (places : Nat) : Int :=
  d.units * (Nat.pow 10 (places - d.places) : Nat)

/-- The number that a text spells in digits. -/
def digitsValue (digits : List Char) : Nat :=
  digits.foldl (fun n c => n * 10 + (c.toNat - '0'.toNat)) 0

/-- Read a decimal number. -/
def decimal? (text : String) : Option Decimal := do
  let cs := text.toList.dropWhile fun c => isSpace c || c == '+'
  let (negative, body) : Bool × List Char :=
    match cs with
    | '-' :: rest => (true, rest)
    | rest => (false, rest)
  let whole := body.takeWhile Char.isDigit
  let rest := body.drop whole.length
  let (pointed, fraction, rest) : Bool × List Char × List Char :=
    match rest with
    | '.' :: rest =>
      let digits := rest.takeWhile Char.isDigit
      (true, digits, rest.drop digits.length)
    | rest => (false, [], rest)
  if whole.isEmpty ∧ fraction.isEmpty then none
  let exponent : Int ←
    match rest with
    | [] => pure 0
    | e :: rest =>
      if e = 'e' ∨ e = 'E' then (wholeInteger? false (String.ofList rest)) else none
  let units : Int := digitsValue (whole ++ fraction)
  let units := if negative then -units else units
  let width := (if negative then 1 else 0) + whole.length +
    (if pointed ∧ ¬fraction.isEmpty then fraction.length + (if whole.isEmpty then 2 else 1) else 0)
  if exponent < 0 then
    let e := exponent.natAbs
    return {
      units, places := fraction.length + e, width := width + e + (if pointed then 0 else 1)
      shownPlaces := fraction.length + e }
  else
    let e := exponent.toNat
    return {
      units := units * (Nat.pow 10 (e - fraction.length) : Nat)
      places := fraction.length - e
      width := width + (e - fraction.length) -
        (if e ≠ 0 ∧ ¬fraction.isEmpty ∧ fraction.length ≤ e then 1 else 0)
      shownPlaces := fraction.length - e }

/-- The text of a number of units, with some places and at least some width. -/
def fixedText (units : Int) (places width : Nat) : String :=
  let digits := (toString units.natAbs).toList
  let digits := List.replicate (places + 1 - digits.length) '0' ++ digits
  let whole := digits.take (digits.length - places)
  let fraction := if places = 0 then [] else '.' :: digits.drop (digits.length - places)
  let sign := if units < 0 then ['-'] else []
  let zeros := List.replicate (width - (sign.length + whole.length + fraction.length)) '0'
  String.ofList (sign ++ zeros ++ whole ++ fraction)

/-- The conversion of a format for numbers, or what is wrong with the format. -/
def checkFormat (format : String) : Except String Unit :=
  let shown := "format " ++ quoteWord format ++ " "
  let rec go (found : Bool) : Nat → List Char → Except String Unit
    | 0, _ => .ok ()
    | _, [] => if found then .ok () else .error (shown ++ "has no % directive")
    | fuel + 1, '%' :: '%' :: rest => go found fuel rest
    | fuel + 1, '%' :: rest =>
      if found then .error (shown ++ "has too many % directives")
      else
        let rest := rest.dropWhile fun c => "-+#0 '".toList.contains c
        let rest := rest.dropWhile Char.isDigit
        let rest :=
          match rest with
          | '.' :: rest => rest.dropWhile Char.isDigit
          | rest => rest
        match rest with
        | [] => .error (shown ++ "ends in %")
        | c :: rest =>
          if "aAeEfFgG".toList.contains c then go true fuel rest
          else .error (shown ++ "has unknown %" ++ String.singleton c ++ " directive")
    | fuel + 1, _ :: rest => go found fuel rest
  go false (format.length + 1) format.toList

/-- The numbers from one to another in equal steps. -/
def numbersBetween (first step last : Int) : List Int :=
  let count : Nat :=
    if step = 0 ∨ (0 < step ∧ last < first) ∨ (step < 0 ∧ first < last) then 0
    else ((last - first).tdiv step).toNat + 1
  (List.range count).map fun (i : Nat) => first + i * step

/-- Write the numbers from one to another. -/
def seq : Utility := fun arguments =>
  let isNumber (text : String) : Bool :=
    match text.toList with
    | '-' :: c :: _ => c.isDigit || c == '.'
    | _ => false
  let options := arguments.takeWhile fun text => !isNumber text
  let known : Known :=
    { plain := "w", valued := "fs", mixed := false
      long := [("equal-width", 'w'), ("format", 'f'), ("separator", 's')] }
  let withAll (rest : List String) (action : Given → Run Nat) : Run Nat :=
    withOptions known 1
      (fun given => action { given with operands := given.operands ++ rest }) options
  withAll (arguments.drop options.length) fun given => do
    let bad := given.operands.find? fun text => (decimal? text).isNone
    match given.operands.length, bad, given.operands.filterMap decimal? with
    | 0, _, _ => missingOperand 1
    | _, some text, _ =>
      misused ("invalid floating point argument: " ++ quoteWord text)
      return 1
    | _, none, _ :: _ :: _ :: _ :: _ =>
      misused ("extra operand " ++ quoteWord (given.operands[3]?.getD ""))
      return 1
    | _, none, numbers =>
      let (first, step, last) : Decimal × Decimal × Decimal :=
        match numbers with
        | [first, last] => (first, .one, last)
        | [first, step, last] => (first, step, last)
        | _ => (.one, .one, numbers.head?.getD .one)
      if step.units = 0 then
        misused ("invalid Zero increment value: " ++ quoteWord (given.operands[1]?.getD ""))
        return 1
      let places := max first.places (max step.places last.places)
      let values := numbersBetween (first.scaled places) (step.scaled places) (last.scaled places)
      let shown := max first.shownPlaces step.shownPlaces
      let widthOf (d : Decimal) (kept : Nat) : Nat :=
        d.width - d.shownPlaces + kept + (if d.shownPlaces = 0 ∧ 0 < kept then 1 else 0) -
          (if 0 < d.shownPlaces ∧ kept = 0 then 1 else 0)
      let width := if given.has 'w' then max (widthOf first shown) (widthOf last shown) else 0
      let text (value : Int) : String :=
        fixedText (value.tdiv (Nat.pow 10 (places - shown) : Nat)) shown width
      let separator := (given.value? 's').getD "\n"
      let all (show' : Int → String) : Run Nat := do
        if ¬values.isEmpty then writeLine (separator.intercalate (values.map show'))
        return 0
      match given.value? 'f' with
      | none => all text
      | some format =>
        match checkFormat format with
        | .error text =>
          report text
          return 1
        | .ok () =>
          let escaped := String.ofList (format.toList.flatMap fun c =>
            if c = '\\' then ['\\', '\\'] else [c])
          all fun value => (Format.printf escaped [fixedText value places 0]).text

/-! ### Text -/

/-- How `echo` is asked to write. -/
structure EchoStyle where
  ends : Bool := true
  escapes : Bool := false

/-- Read the options of `echo`. -/
def echoStyle : EchoStyle → List String → EchoStyle × List String
  | style, [] => (style, [])
  | style, first :: rest =>
    match first.toList with
    | '-' :: c :: letters =>
      if (c :: letters).all fun c => c == 'n' || c == 'e' || c == 'E' then
        let add (style : EchoStyle) (c : Char) : EchoStyle :=
          if c = 'n' then { style with ends := false } else { style with escapes := c == 'e' }
        echoStyle ((c :: letters).foldl add style) rest
      else (style, first :: rest)
    | _ => (style, first :: rest)

/-- Text with its escapes carried out, and whether nothing is to follow.  The fuel counts
characters. -/
def unescaped : Nat → List Char → List Char × Bool
  | 0, _ => ([], false)
  | _, [] => ([], false)
  | fuel + 1, '\\' :: c :: rest =>
    let go (cs : List Char) (rest : List Char) : List Char × Bool :=
      let (text, ended) := unescaped fuel rest
      (cs ++ text, ended)
    let octal (digits : List Char) : Char :=
      Char.ofNat (digits.foldl (fun n c => n * 8 + (c.toNat - '0'.toNat)) 0 % 256)
    let hexDigit (c : Char) : Bool := c.isDigit || ('a' ≤ c.toLower && c.toLower ≤ 'f')
    let hexValue (n : Nat) (c : Char) : Nat :=
      n * 16 + (if c.isDigit then c.toNat - '0'.toNat else c.toLower.toNat - 'a'.toNat + 10)
    if c = 'c' then ([], true)
    else if c = 'e' then go ['\x1b'] rest
    else if c = '0' then
      let digits := (rest.take 3).takeWhile Format.isOctal
      go [octal digits] (rest.drop digits.length)
    else if Format.isOctal c then
      let digits := c :: (rest.take 2).takeWhile Format.isOctal
      go [octal digits] (rest.drop (digits.length - 1))
    else if c = 'x' then
      let digits := (rest.take 2).takeWhile hexDigit
      if digits.isEmpty then go ['\\', 'x'] rest
      else go [Char.ofNat (digits.foldl hexValue 0)] (rest.drop digits.length)
    else if c = '\\' then go ['\\'] rest
    else
      match Format.control? c with
      | some control => go [control] rest
      | none => go ['\\', c] rest
  | fuel + 1, c :: rest =>
    let (text, ended) := unescaped fuel rest
    (c :: text, ended)

/-- Write the arguments. -/
def echo : Utility := fun arguments => do
  let (style, words) := echoStyle {} arguments
  let text := (" ".intercalate words).toList
  let (text, ended) := if style.escapes then unescaped text.length text else (text, false)
  write (String.ofList text ++ (if style.ends && !ended then "\n" else ""))
  return 0

/-- Write arguments as a format says. -/
def printf : Utility := fun arguments => do
  match arguments with
  | [] => missingOperand 1
  | format :: arguments =>
    let output := Format.printf format arguments
    write output.text
    for text in output.complaints.reverse do report text
    return if output.complaints.isEmpty then 0 else 1

/-- How many lines a process can write at most before its reader is gone. -/
def linesAhead : Nat := 8192

/-- Write a line over and over, until nobody reads it. -/
def yes : Utility := fun arguments => do
  let line := if arguments.isEmpty then "y" else " ".intercalate arguments
  put (List.replicate linesAhead (lineOf line)).flatten
  throw (.killed 13)

/-! ### Surroundings -/

/-- Write the values of variables. -/
def printenv : Utility :=
  withOptions { plain := "0", long := [("null", '0')], mixed := false } 2 fun given => do
    let ending := if given.has '0' then "\x00" else "\n"
    let seen ← environment
    if given.operands.isEmpty then
      for (name, value) in seen do write (name ++ "=" ++ value ++ ending)
      return 0
    let mut status := 0
    for name in given.operands do
      match seen.lookup name with
      | some value => write (value ++ ending)
      | none => status := 1
    return status

/-- The options for running a program with other variables. -/
def envOptions : Known :=
  { plain := "i0v", valued := "u", mixed := false
    long := [("ignore-environment", 'i'), ("null", '0'), ("unset", 'u')] }

/-- Write the working directory. -/
def pwd : Utility := fun _ => do
  writeLine (Builtin.placeText (← process).cwd)
  return 0

/-- Write the name of the system. -/
def uname : Utility :=
  withOptions { plain := "s", long := [("kernel-name", 's')] } 1 fun given => do
    match given.operands with
    | [] =>
      writeLine "Linux"
      return 0
    | extra :: _ =>
      misused ("extra operand " ++ quoteWord extra)
      return 1

/-- Tell the terminal of the input. -/
def tty : Utility := fun arguments => do
  if ¬arguments.contains "-s" then writeLine "not a tty"
  return 1

/-! ### Statuses -/

/-- Do nothing, and give a status. -/
def idle (status : Nat) : Utility := fun _ => return status

/-- A length of time is well formed. -/
def isInterval (text : String) : Bool :=
  let body : List Char :=
    match text.toList.getLast? with
    | some c => if "smhd".toList.contains c then text.toList.dropLast else text.toList
    | none => []
  (decimal? (String.ofList body)).any fun d => 0 ≤ d.units

/-- Wait.  No time passes here. -/
def sleep : Utility :=
  withOptions {} 1 fun given => do
    if given.operands.isEmpty then return ← missingOperand 1
    let bad := given.operands.filter fun text => !isInterval text
    match bad.getLast? with
    | none => return 0
    | some last =>
      for text in bad.dropLast do report ("invalid time interval " ++ quoteWord text)
      misused ("invalid time interval " ++ quoteWord last)
      return 1

/-- Test a condition. -/
def test : Utility := fun arguments => do
  match Condition.holds (← Builtin.files) arguments with
  | .ok truth => return if truth then 0 else 1
  | .error text =>
    report text
    return 2

/-- Test a condition between brackets. -/
def bracket : Utility := fun arguments => do
  if arguments.getLast? = some "]" then test arguments.dropLast
  else
    report "missing ']'"
    return 2

end BootLayer.Shell.Utility
