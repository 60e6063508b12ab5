import BootLayer.Number.Decimal

/-!
The shortest decimal that reads back as a given double.  For one digit, two digits and so on, the
two neighbours of the exact value on the grid of that many digits are read back; the first grid
with a hit gives the digits, the nearer neighbour if both hit.
-/

namespace BootLayer

/-- Which of two equally near neighbours is taken. -/
inductive Tie where
  | up
  | even
  deriving DecidableEq, Repr

namespace Decimal

/-- The same number without zeros at the end of its digits. -/
def reduce (d : Decimal) : Decimal :=
  if h : d.digits ≠ 0 ∧ d.digits % 10 = 0 then reduce ⟨d.digits / 10, d.exponent + 1⟩ else d
termination_by d.digits
decreasing_by
  show d.digits / 10 < d.digits
  omega

/-- The exact value of a finite magnitude. -/
def exact (magnitude : Nat) : Decimal := reduce ⟨Double.units magnitude * Nat.pow 5 1074, -1074⟩

/-- A decimal exponent below that of every digit of every double. -/
def depth : Nat := 400

/-- The neighbours of the magnitude on the grid of `count` significant digits that read back as
it, the nearer one if both do. -/
def shortestOn (tie : Tie) (magnitude count : Nat) : Option Decimal :=
  let value := Double.units magnitude * Nat.pow 10 depth
  let whole := value / Double.one
  let size := (Nat.toDigits 10 whole).length
  let step := Nat.pow 10 (size - count)
  let lower := whole / step
  let exponent : Int := (size - count : Nat) - (depth : Int)
  let below : Decimal := ⟨lower, exponent⟩
  let above : Decimal := ⟨lower + 1, exponent⟩
  -- twice the exact value against the middle of the two neighbours
  let twice := 2 * value
  let middle := (2 * lower + 1) * step * Double.one
  let lowerNearer :=
    twice < middle ∨ (twice = middle ∧ tie = .even ∧ lower % 2 = 0)
  if below.magnitude = magnitude then
    some (if above.magnitude = magnitude ∧ ¬lowerNearer then above else below)
  else if above.magnitude = magnitude then some above
  else none

/-- The decimal with the fewest digits that reads back as a finite magnitude, zeros at its end
left out.  Seventeen digits always suffice; the exact value stands behind them. -/
def shortest (tie : Tie) (magnitude : Nat) : Decimal :=
  ((List.range 17).findSome? fun i => shortestOn tie magnitude (i + 1)).elim (exact magnitude) reduce

end Decimal

end BootLayer
