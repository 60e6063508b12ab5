import BootLayer.Number.Double

/-!
Decimal numbers and their reading.  A numeric text is an optional sign followed by `inf`,
`infinity` or `nan` in any case, or by digits with at most one point and at least one digit and
an optional exponent.  It denotes an exact decimal, and that is rounded once.
-/

namespace BootLayer

/-- The nonnegative number `digits · 10 ^ exponent`. -/
structure Decimal where
  digits : Nat
  exponent : Int
  deriving DecidableEq, Repr

namespace Decimal

/-- The magnitude of the nearest double.  Exponents far outside the range of doubles are decided
by size alone, so that no huge power is formed. -/
def magnitude (d : Decimal) : Nat :=
  if d.digits = 0 then 0
  else if 400 < d.exponent then Double.infMagnitude
  else if d.exponent + (Nat.toDigits 10 d.digits).length < -400 then 0
  else if 0 ≤ d.exponent then Double.nearest (d.digits * Nat.pow 10 d.exponent.toNat * Double.one) 1
  else Double.nearest (d.digits * Double.one) (Nat.pow 10 (-d.exponent).toNat)

/-- The number that a list of digits spells. -/
def ofDigits (cs : List Char) : Nat := cs.foldl (fun n c => 10 * n + (c.toNat - 48)) 0

end Decimal

/-- What a numeric text denotes. -/
inductive Numeral where
  | nan (negative : Bool)
  | infinity (negative : Bool)
  | finite (negative : Bool) (size : Decimal)
  deriving DecidableEq, Repr

namespace Numeral

/-! ### Reading -/

/-- Split off a sign; without one the number is positive. -/
def splitSign : List Char → Bool × List Char
  | '-' :: rest => (true, rest)
  | '+' :: rest => (false, rest)
  | cs => (false, cs)

/-- The exponent that ends a numeral: nothing, or a mark, an optional sign and digits. -/
def readExponent : List Char → Option Int
  | [] => some 0
  | mark :: rest =>
    if mark = 'e' ∨ mark = 'E' then
      let (negative, digits) := splitSign rest
      if digits ≠ [] ∧ digits.all Char.isDigit then
        let n : Int := Decimal.ofDigits digits
        some (if negative then -n else n)
      else none
    else none

/-- Digits with at most one point, then the exponent. -/
def readDecimal (cs : List Char) : Option Decimal :=
  let whole := cs.takeWhile Char.isDigit
  let (fraction, rest) :=
    match cs.dropWhile Char.isDigit with
    | '.' :: rest => (rest.takeWhile Char.isDigit, rest.dropWhile Char.isDigit)
    | rest => ([], rest)
  if whole = [] ∧ fraction = [] then none
  else (readExponent rest).map fun e =>
    ⟨Decimal.ofDigits (whole ++ fraction), e - fraction.length⟩

/-- Read a numeral without blanks around it. -/
def read (cs : List Char) : Option Numeral :=
  let (negative, rest) := splitSign cs
  let word := String.ofList (rest.map Char.toLower)
  if word = "nan" then some (nan negative)
  else if word = "inf" ∨ word = "infinity" then some (infinity negative)
  else (readDecimal rest).map (finite negative)

/-- The double nearest to what the numeral denotes. -/
def toDouble : Numeral → Double
  | nan negative => Double.nan negative
  | infinity negative => Double.infinity negative
  | finite negative size => Double.ofParts negative size.magnitude

end Numeral

end BootLayer
