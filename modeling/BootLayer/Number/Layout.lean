import BootLayer.Number.Shortest

/-!
Texts of doubles.  `Double.text` is what a reader of output sees: all digits written out, never an
exponent, and one place kept for whole numbers below `10 ^ 15`.  `Double.jsonText` is the form in
JSON documents, where very large and very small numbers carry an exponent.
-/

namespace BootLayer

namespace Decimal

/-- The digits of a natural number in base ten. -/
def digitsOf (n : Nat) : List Char := Nat.toDigits 10 n

/-- All digits written out, with a point only where a fraction follows it. -/
def positional (d : Decimal) : List Char :=
  let ds := digitsOf d.digits
  if 0 ≤ d.exponent then ds ++ List.replicate d.exponent.toNat '0'
  else
    let places := (-d.exponent).toNat
    if places < ds.length then
      ds.take (ds.length - places) ++ '.' :: ds.drop (ds.length - places)
    else '0' :: '.' :: (List.replicate (places - ds.length) '0' ++ ds)

/-- The exponent of the first digit. -/
def leading (d : Decimal) : Int := d.exponent + (digitsOf d.digits).length - 1

/-- One digit, the others after a point, and the exponent with its sign. -/
def scientific (d : Decimal) : List Char :=
  let e := d.leading
  let tail := (if e < 0 then '-' else '+') :: digitsOf e.natAbs
  match digitsOf d.digits with
  | first :: second :: rest => first :: '.' :: second :: (rest ++ 'e' :: tail)
  | ds => ds ++ 'e' :: tail

end Decimal

namespace Double

/-- The number is whole and its absolute value below `10 ^ 15`. -/
def isSmallWhole (x : Double) : Bool :=
  x.isFinite && units x.magnitude % one == 0 && units x.magnitude < Nat.pow 10 15 * one

/-- A sign in front of the text of a negative number. -/
def signed (x : Double) (cs : List Char) : List Char := if x.negative then '-' :: cs else cs

/-- The text of a double in output: the shortest digits, a tie between two going up. -/
def text (x : Double) : String :=
  if x.isNaN then "NaN"
  else String.ofList <| x.signed <|
    if x.isInfinite then ['i', 'n', 'f']
    else if x.isSmallWhole then Decimal.digitsOf (units x.magnitude / one) ++ ['.', '0']
    else (Decimal.shortest .up x.magnitude).positional

/-- The text of a finite double in JSON: the shortest digits, a tie between two going to the even
one.  First digits from the fifth place after the point to the sixteenth before it are written
out, with at least one place; others carry an exponent. -/
def jsonText (x : Double) : String :=
  let d := Decimal.shortest .even x.magnitude
  String.ofList <| x.signed <|
    if x.magnitude = 0 then ['0', '.', '0']
    else if -5 ≤ d.leading ∧ d.leading < 16 then
      if 0 ≤ d.exponent then d.positional ++ ['.', '0'] else d.positional
    else d.scientific

end Double

end BootLayer
