import BootLayer.Json
import BootLayer.Number.Decimal

/-!
Numbers in JSON text.  A number without point and exponent that fits 64 bits is an integer.  Every
other number is brought to a double in two steps: as many leading digits as fit an unsigned word
are widened, and the result is multiplied or divided by a power of ten that is itself a double.
Both steps round, so the double need not be the nearest one.  A number beyond every finite double
is refused.
-/

namespace BootLayer.Json.Numeral

/-- The leading digits that still fit an unsigned word after `significand`, and their number. -/
def absorb (significand : Nat) : List Char → Nat × Nat
  | [] => (significand, 0)
  | c :: rest =>
    let next := 10 * significand + (c.toNat - 48)
    if next < Nat.pow 2 64 then
      let (final, count) := absorb next rest
      (final, count + 1)
    else (significand, 0)

/-- The greatest power of ten that is a double. -/
def maxPower : Nat := 308

/-- The magnitude of the double nearest to a power of ten. -/
def powerOfTen (n : Nat) : Nat := Double.ofNatMagnitude (Nat.pow 10 n)

/-- Multiply a magnitude by a power of ten, in steps of at most `maxPower`; nothing if it leaves
the finite range. -/
def scale (magnitude : Nat) (exponent : Int) : Option Nat :=
  if exponent.natAbs ≤ maxPower then
    if 0 ≤ exponent then
      let product := Double.mulMagnitude magnitude (powerOfTen exponent.natAbs)
      if product < Double.infMagnitude then some product else none
    else some (Double.divMagnitude magnitude (powerOfTen exponent.natAbs))
  else if magnitude = 0 then some 0
  else if 0 ≤ exponent then none
  else scale (Double.divMagnitude magnitude (powerOfTen maxPower)) (exponent + maxPower)
termination_by exponent.natAbs
decreasing_by
  simp only [maxPower] at *
  omega

/-- The number with this sign, significand and exponent, as a double. -/
def double? (negative : Bool) (significand : Nat) (exponent : Int) : Option Json :=
  (scale (Double.ofNatMagnitude significand) exponent).bind fun magnitude =>
    let x := Double.ofParts negative magnitude
    if h : x.isFinite = true then some (num x h) else none

/-- An integer of at most 64 bits.  A negative one below `Int64`, and negative zero, is a
double. -/
def integer (negative : Bool) (n : UInt64) : Option Json :=
  if negative then
    if 0 < n.toNat ∧ n.toNat ≤ Nat.pow 2 63 then some (int (Int64.ofInt (-n.toNat)))
    else double? true n.toNat 0
  else if h : Nat.pow 2 63 ≤ n.toNat then some (nat n h)
  else some (int n.toInt64)

/-- The greatest exponent that is read as a number; past it only its sign counts. -/
def maxExponent : Nat := 2147483647

/-- The number with these parts.  The fraction is nothing if there is no point, and the exponent
is nothing if there is no mark. -/
def assemble (negative : Bool) (whole : List Char) (fraction : Option (List Char))
    (exponent : Option (Bool × List Char)) : Option Json :=
  let (start, taken) := absorb 0 whole
  let dropped := whole.length - taken
  match fraction, exponent with
  | none, none =>
    if dropped = 0 then integer negative start.toUInt64 else double? negative start dropped
  | _, _ =>
    let (significand, places) := absorb start (fraction.getD [])
    let base : Int := dropped - places
    match exponent with
    | none => double? negative significand base
    | some (negativeExponent, digits) =>
      let e := Decimal.ofDigits digits
      if maxExponent < e then
        if significand ≠ 0 ∧ !negativeExponent then none else double? negative 0 0
      else double? negative significand (if negativeExponent then base - e else base + e)

/-- Split off the digits at the front. -/
def splitDigits (cs : List Char) : List Char × List Char :=
  (cs.takeWhile Char.isDigit, cs.dropWhile Char.isDigit)

/-- A point and the digits that have to follow it, if there is a point. -/
def splitFraction : List Char → Option (Option (List Char) × List Char)
  | '.' :: rest =>
    let (digits, rest) := splitDigits rest
    if digits = [] then none else some (some digits, rest)
  | cs => some (none, cs)

/-- An exponent mark, its sign, and the digits that have to follow, if there is a mark. -/
def splitExponent : List Char → Option (Option (Bool × List Char) × List Char)
  | [] => some (none, [])
  | mark :: rest =>
    if mark = 'e' ∨ mark = 'E' then
      let (negative, rest) := Numeral.splitSign rest
      let (digits, rest) := splitDigits rest
      if digits = [] then none else some (some (negative, digits), rest)
    else some (none, mark :: rest)

/-- Read a number after its sign.  A zero in front of other digits is refused. -/
def read (negative : Bool) (cs : List Char) : Option (Json × List Char) :=
  let (whole, rest) := splitDigits cs
  if whole = [] ∨ (1 < whole.length ∧ whole.head? = some '0') then none
  else do
    let (fraction, rest) ← splitFraction rest
    let (exponent, rest) ← splitExponent rest
    let number ← assemble negative whole fraction exponent
    return (number, rest)

end BootLayer.Json.Numeral
