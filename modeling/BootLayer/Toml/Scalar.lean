import BootLayer.Number.Decimal
import BootLayer.Toml
import BootLayer.Toml.Quoted

/-!
Numbers, dates and times in TOML.  Digits may be grouped by single underscores.  Integers have to
fit 64 bits with sign; a fraction or exponent makes a double, which must not overflow upwards.
-/

namespace BootLayer.Toml

/-! ### Digits -/

/-- Digits with single underscores between them, after a first digit; the underscores are left
out. -/
def groupedDigits (isDigit : Char → Bool) : List Char → Option (List Char × List Char)
  | '_' :: d :: rest =>
    if isDigit d then prepend d (groupedDigits isDigit rest) else none
  | ['_'] => none
  | c :: rest => if isDigit c then prepend c (groupedDigits isDigit rest) else some ([], c :: rest)
  | [] => some ([], [])

/-- A digit, then digits and single underscores between them. -/
def digitGroups (isDigit : Char → Bool) : List Char → Option (List Char × List Char)
  | c :: rest => if isDigit c then prepend c (groupedDigits isDigit rest) else none
  | [] => none

/-- A sign in front of what `body` reads. -/
def withSign (body : List Char → Option (List Char × List Char)) :
    List Char → Option (List Char × List Char)
  | '+' :: rest => body rest
  | '-' :: rest => prepend '-' (body rest)
  | cs => body cs

/-- A zero, or digits that start with none. -/
def wholeDigits : List Char → Option (List Char × List Char)
  | '0' :: rest => some (['0'], rest)
  | cs => digitGroups Char.isDigit cs

/-! ### Integers and doubles -/

/-- An integer that fits 64 bits with sign. -/
def fit? (n : Int) : Option Item :=
  if Int64.minValue.toInt ≤ n ∧ n ≤ Int64.maxValue.toInt then some (.integer (Int64.ofInt n))
  else none

/-- The integer that digits of a base spell after an optional minus sign. -/
def spelled (base : Nat) (cs : List Char) : Int :=
  let value (ds : List Char) : Int :=
    (ds.foldl (fun n c => base * n + (Hexadecimal.digit? c).getD 0) 0 : Nat)
  match cs with
  | '-' :: ds => -value ds
  | ds => value ds

/-- A digit of a base up to sixteen. -/
def isDigitOf (base : Nat) (c : Char) : Bool :=
  match Hexadecimal.digit? c with
  | some d => d < base
  | none => false

/-- Read an integer.  Base sixteen, eight and two are marked and take no sign. -/
def readInteger (cs : List Char) : Option (Item × List Char) :=
  let inBase (base : Nat) (rest : List Char) : Option (Item × List Char) := do
    let (digits, rest) ← digitGroups (isDigitOf base) rest
    let item ← fit? (spelled base digits)
    return (item, rest)
  match cs with
  | '0' :: 'x' :: rest => inBase 16 rest
  | '0' :: 'o' :: rest => inBase 8 rest
  | '0' :: 'b' :: rest => inBase 2 rest
  | _ => do
    let (digits, rest) ← withSign wholeDigits cs
    let item ← fit? (spelled 10 digits)
    return (item, rest)

/-- An exponent: a mark, an optional sign and digits. -/
def readExponent : List Char → Option (List Char × List Char)
  | c :: rest =>
    if c = 'e' ∨ c = 'E' then prepend 'e' (withSign (digitGroups Char.isDigit) rest) else none
  | [] => none

/-- A fraction or an exponent, or both. -/
def readTail : List Char → Option (List Char × List Char)
  | '.' :: rest => do
    let (fraction, rest) ← digitGroups Char.isDigit rest
    match rest with
    | c :: _ =>
      if c = 'e' ∨ c = 'E' then
        let (exponent, rest) ← readExponent rest
        return ('.' :: fraction ++ exponent, rest)
      else return ('.' :: fraction, rest)
    | [] => return ('.' :: fraction, [])
  | cs => readExponent cs

/-- The names of the doubles that have no digits. -/
def readSpecial : List Char → Option (Item × List Char)
  | 'i' :: 'n' :: 'f' :: rest => some (.float (Double.infinity false), rest)
  | 'n' :: 'a' :: 'n' :: rest => some (.float (Double.nan false), rest)
  | _ => none

/-- Read a double. -/
def readFloat (cs : List Char) : Option (Item × List Char) :=
  let digits : Option (Item × List Char) := do
    let (whole, rest) ← withSign wholeDigits cs
    let (tail, rest) ← readTail rest
    let numeral ← Numeral.read (whole ++ tail)
    let x := numeral.toDouble
    if x = Double.infinity false then none else return (.float x, rest)
  match digits with
  | some r => some r
  | none =>
    match cs with
    | '+' :: rest => readSpecial rest
    | '-' :: rest => do
      let (item, rest) ← readSpecial rest
      match item with
      | .float x => return (.float x.neg, rest)
      | _ => none
    | _ => none

/-! ### Dates and times -/

/-- Exactly `count` digits that spell a number between two bounds. -/
def readField (count low high : Nat) (cs : List Char) : Option (Nat × List Char) :=
  let digits := cs.take count
  if digits.length = count ∧ digits.all Char.isDigit then
    let n := Decimal.ofDigits digits
    if low ≤ n ∧ n ≤ high then some (n, cs.drop count) else none
  else none

/-- A given character. -/
def readMark (mark : Char) : List Char → Option (List Char)
  | c :: rest => if c = mark then some rest else none
  | [] => none

/-- The number of days in a month. -/
def daysIn (year month : Nat) : Nat :=
  if month = 2 then
    if year % 4 = 0 ∧ (year % 100 ≠ 0 ∨ year % 400 = 0) then 29 else 28
  else if month = 4 ∨ month = 6 ∨ month = 9 ∨ month = 11 then 30
  else 31

/-- The text after a date. -/
def afterDate? (cs : List Char) : Option (List Char) := do
  let (year, rest) ← readField 4 0 9999 cs
  let rest ← readMark '-' rest
  let (month, rest) ← readField 2 1 12 rest
  let rest ← readMark '-' rest
  let (_, rest) ← readField 2 1 (daysIn year month) rest
  return rest

/-- The text after a time of day, with or without a fraction of a second. -/
def afterTime? (cs : List Char) : Option (List Char) := do
  let (_, rest) ← readField 2 0 23 cs
  let rest ← readMark ':' rest
  let (_, rest) ← readField 2 0 59 rest
  let rest ← readMark ':' rest
  let (_, rest) ← readField 2 0 60 rest
  match rest with
  | '.' :: d :: more => if d.isDigit then return more.dropWhile Char.isDigit else return rest
  | _ => return rest

/-- The text after a distance from universal time. -/
def afterOffset? : List Char → Option (List Char)
  | c :: rest =>
    if c = 'Z' ∨ c = 'z' then some rest
    else if c = '+' ∨ c = '-' then do
      let (_, rest) ← readField 2 0 23 rest
      let rest ← readMark ':' rest
      let (_, rest) ← readField 2 0 59 rest
      return rest
    else none
  | [] => none

/-- The text after a date, a time, or both. -/
def afterMoment? (cs : List Char) : Option (List Char) :=
  match afterDate? cs with
  | none => afterTime? cs
  | some rest =>
    match rest with
    | c :: more =>
      if c = 'T' ∨ c = 't' ∨ c = ' ' then
        match afterTime? more with
        | some more => some ((afterOffset? more).getD more)
        | none => some rest
      else some rest
    | [] => some []

/-- Read a date, a time, or both. -/
def readMoment (cs : List Char) : Option (Item × List Char) :=
  (afterMoment? cs).map fun rest =>
    (.moment (String.ofList (cs.take (cs.length - rest.length))), rest)

/-- Read a number, a date or a time. -/
def readNumber (cs : List Char) : Option (Item × List Char) :=
  match readMoment cs with
  | some r => some r
  | none =>
    match readFloat cs with
    | some r => some r
    | none => readInteger cs

end BootLayer.Toml
