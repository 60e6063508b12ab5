import BootLayer.Number.Double

/-!
Integers written in base sixteen: an optional sign, a digit of either case, then digits and
underscores, which are skipped.
-/

namespace BootLayer.Hexadecimal

/-- The value of a digit of either case. -/
def digit? (c : Char) : Option Nat :=
  if '0' ≤ c ∧ c ≤ '9' then some (c.toNat - 48)
  else if 'a' ≤ c ∧ c ≤ 'f' then some (c.toNat - 87)
  else if 'A' ≤ c ∧ c ≤ 'F' then some (c.toNat - 55)
  else none

/-- The digits after those that spell `acc`, underscores skipped. -/
def readDigits (acc : Nat) : List Char → Option Nat
  | [] => some acc
  | c :: rest =>
    if c = '_' then readDigits acc rest
    else match digit? c with
      | some d => readDigits (16 * acc + d) rest
      | none => none

/-- An unsigned integer: a digit, then digits and underscores. -/
def readNat : List Char → Option Nat
  | [] => none
  | c :: rest => (digit? c).bind fun d => readDigits d rest

/-- An integer with an optional sign. -/
def readInt : List Char → Option Int
  | '-' :: rest => (readNat rest).map fun n => -(n : Int)
  | '+' :: rest => (readNat rest).map Int.ofNat
  | cs => (readNat cs).map Int.ofNat

end BootLayer.Hexadecimal
