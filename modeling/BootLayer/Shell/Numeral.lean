import BootLayer.Number.Decimal
import BootLayer.Number.Hexadecimal
import BootLayer.Shell.Name

/-!
Doubles as the formats of `printf` read and write them: with a fixed number of places, with an
exponent, with whichever of the two is shorter, and in base sixteen.  The exact value of the double
is rounded once, a half going to the even digit.
-/

namespace BootLayer.Shell.Numeral

/-! ### Reading -/

/-- What was read: a number, the rest of the text, and whether the number was too big or too small
for a double. -/
structure Reading where
  value : Double
  rest : List Char
  outOfRange : Bool := false

/-- An exponent after its mark, and the rest; nothing without a digit. -/
def exponent? (cs : List Char) : Option (Int × List Char) :=
  match cs with
  | c :: _ => if isSpace c then none else readInteger false cs
  | [] => none

/-- A number in base ten: digits with a point, and an exponent. -/
def decimal? (negative : Bool) (cs : List Char) : Option Reading :=
  let whole := cs.takeWhile Char.isDigit
  let rest := cs.drop whole.length
  let (fraction, rest) :=
    match rest with
    | '.' :: more =>
      let fraction := more.takeWhile Char.isDigit
      if whole.isEmpty ∧ fraction.isEmpty then ([], rest)
      else (fraction, more.drop fraction.length)
    | rest => ([], rest)
  if whole.isEmpty ∧ fraction.isEmpty then none
  else
    let (power, rest) : Int × List Char :=
      match rest with
      | c :: more => if c = 'e' ∨ c = 'E' then (exponent? more).getD (0, rest) else (0, rest)
      | [] => (0, [])
    let size : Decimal := ⟨Decimal.ofDigits (whole ++ fraction), power - fraction.length⟩
    let magnitude := size.magnitude
    some
      { value := Double.ofParts negative magnitude
        rest
        outOfRange := magnitude == Double.infMagnitude ||
          (size.digits != 0 && magnitude < Nat.pow 2 52) }

/-- A number in base sixteen, after its `0x`: digits with a point, and a power of two. -/
def hexadecimal? (negative : Bool) (cs : List Char) : Option Reading :=
  let isDigit (c : Char) : Bool := (Hexadecimal.digit? c).isSome
  let whole := cs.takeWhile isDigit
  let rest := cs.drop whole.length
  let (fraction, rest) :=
    match rest with
    | '.' :: more =>
      let fraction := more.takeWhile isDigit
      if whole.isEmpty ∧ fraction.isEmpty then ([], rest)
      else (fraction, more.drop fraction.length)
    | rest => ([], rest)
  if whole.isEmpty ∧ fraction.isEmpty then none
  else
    let (power, rest) : Int × List Char :=
      match rest with
      | c :: more => if c = 'p' ∨ c = 'P' then (exponent? more).getD (0, rest) else (0, rest)
      | [] => (0, [])
    let digits :=
      (whole ++ fraction).foldl (fun n c => 16 * n + (Hexadecimal.digit? c).getD 0) 0
    let power := power - 4 * fraction.length
    let magnitude :=
      if digits = 0 then 0
      else if 2000 < power then Double.infMagnitude
      else if power < -4000 then 0
      else if 0 ≤ power then Double.nearest (digits * Nat.pow 2 power.toNat * Double.one) 1
      else Double.nearest (digits * Double.one) (Nat.pow 2 (-power).toNat)
    some
      { value := Double.ofParts negative magnitude
        rest
        outOfRange := magnitude == Double.infMagnitude ||
          (digits != 0 && magnitude < Nat.pow 2 52) }

/-- Read a number at the front of a text, after blanks. -/
def read? (text : List Char) : Option Reading :=
  let cs := text.dropWhile isSpace
  let (negative, cs) :=
    match cs with
    | '-' :: rest => (true, rest)
    | '+' :: rest => (false, rest)
    | cs => (false, cs)
  let starts (word : String) : Bool :=
    (cs.take word.length).map Char.toLower == word.toList
  if starts "infinity" then some { value := Double.infinity negative, rest := cs.drop 8 }
  else if starts "inf" then some { value := Double.infinity negative, rest := cs.drop 3 }
  else if starts "nan" then some { value := Double.nan negative, rest := cs.drop 3 }
  else if starts "0x" then (hexadecimal? negative (cs.drop 2)).or (decimal? negative cs)
  else decimal? negative cs

/-! ### Writing -/

/-- The digits of a number, at least `width` of them. -/
def padded (width : Nat) (n : Nat) : List Char :=
  let digits := Nat.toDigits 10 n
  List.replicate (width - digits.length) '0' ++ digits

/-- The quotient `num / den` with this many places; with `pointed` the point is always written. -/
def fixed (num den places : Nat) (pointed : Bool) : List Char :=
  let digits := padded (places + 1) (Double.roundHalfEven (num * Nat.pow 10 places) den)
  let whole := digits.take (digits.length - places)
  let fraction := digits.drop (digits.length - places)
  whole ++ (if pointed ∨ places ≠ 0 then '.' :: fraction else [])

/-- The quotient scaled by a power of ten and rounded. -/
def scaled (num den : Nat) (power : Int) : Nat :=
  if 0 ≤ power then Double.roundHalfEven (num * Nat.pow 10 power.toNat) den
  else Double.roundHalfEven num (den * Nat.pow 10 (-power).toNat)

/-- The digits of a quotient, one more than `places`, and the exponent of the first one. -/
def rounded (num den places : Nat) : Nat × Int :=
  if num = 0 then (0, 0)
  else
    let guess : Int := (Nat.toDigits 10 num).length - (Nat.toDigits 10 den).length
    let isBelow : Bool :=
      if 0 ≤ guess then num < den * Nat.pow 10 guess.toNat
      else num * Nat.pow 10 (-guess).toNat < den
    let e := if isBelow then guess - 1 else guess
    let digits := scaled num den (places - e)
    if Nat.pow 10 (places + 1) ≤ digits then (digits / 10, e + 1) else (digits, e)

/-- An exponent with its sign and at least two digits. -/
def exponentText (e : Int) : List Char := (if e < 0 then '-' else '+') :: padded 2 e.natAbs

/-- The quotient with one digit before the point and an exponent. -/
def scientific (num den places : Nat) (pointed : Bool) : List Char :=
  let (digits, e) := rounded num den places
  let cs := padded (places + 1) digits
  cs.take 1 ++ (if pointed ∨ places ≠ 0 then '.' :: cs.drop 1 else []) ++ 'e' :: exponentText e

/-- Drop zeros at the end of the places, and a point that nothing follows. -/
def withoutZeros (cs : List Char) : List Char :=
  let mantissa := cs.takeWhile (· ≠ 'e')
  let rest := cs.drop mantissa.length
  let short :=
    if mantissa.contains '.' then
      let kept := mantissa.reverse.dropWhile (· = '0')
      (if kept.head? = some '.' then kept.tail else kept).reverse
    else mantissa
  short ++ rest

/-- The quotient with so many digits, in the shorter of the two ways; zeros at the end are kept with
`pointed` only. -/
def general (num den precision : Nat) (pointed : Bool) : List Char :=
  let precision := max precision 1
  let e := (rounded num den (precision - 1)).2
  let cs :=
    if -4 ≤ e ∧ e < precision then fixed num den ((precision : Int) - 1 - e).toNat pointed
    else scientific num den (precision - 1) pointed
  if pointed then cs else withoutZeros cs

/-- A magnitude in base sixteen, with a power of two. -/
def hexadecimal (magnitude : Nat) (places : Option Nat) (pointed : Bool) : List Char :=
  let isSubnormal : Bool := magnitude < Nat.pow 2 52
  let e : Int :=
    if magnitude = 0 then 0
    else if isSubnormal then -1022
    else (magnitude / Nat.pow 2 52 : Nat) - 1023
  let lead := if isSubnormal then 0 else 1
  let whole := lead * Nat.pow 2 52 + magnitude % Nat.pow 2 52
  let hex (width n : Nat) : List Char :=
    let digits := Nat.toDigits 16 n
    List.replicate (width - digits.length) '0' ++ digits
  let (first, fraction) :=
    match places with
    | some p =>
      if p < 13 then
        let n := Double.roundHalfEven whole (Nat.pow 16 (13 - p))
        (n / Nat.pow 16 p, if p = 0 then [] else hex p (n % Nat.pow 16 p))
      else
        (lead, hex 13 (whole % Nat.pow 2 52) ++ List.replicate (p - 13) '0')
    | none =>
      (lead, ((hex 13 (whole % Nat.pow 2 52)).reverse.dropWhile (· = '0')).reverse)
  let point := if pointed ∨ ¬fraction.isEmpty then ['.'] else []
  "0x".toList ++ Nat.toDigits 10 first ++ point ++ fraction ++
    'p' :: (if e < 0 then '-' else '+') :: Nat.toDigits 10 e.natAbs

/-- The text of a double without its sign, as a conversion writes it. -/
def unsigned (conversion : Char) (precision : Option Nat) (pointed : Bool) (x : Double) :
    List Char :=
  let text :=
    if x.isNaN then "nan".toList
    else if x.isInfinite then "inf".toList
    else
      let num := Double.units x.magnitude
      match conversion.toLower with
      | 'f' => fixed num Double.one (precision.getD 6) pointed
      | 'e' => scientific num Double.one (precision.getD 6) pointed
      | 'g' => general num Double.one (precision.getD 6) pointed
      | _ => hexadecimal x.magnitude precision pointed
  if conversion.isUpper then text.map Char.toUpper else text

end BootLayer.Shell.Numeral
