import BootLayer.Text.Blank
import BootLayer.Text.Quoted
import BootLayer.Text.Utf8

/-!
Bytes written as pairs of hexadecimal digits.  Writing uses lower case; reading takes both cases
and blanks around the digits, and names the first thing that is wrong: an odd number of bytes, or
the first byte that is no digit.
-/

namespace BootLayer.Text.Hex

/-! ### Writing -/

/-- The digit of a number below sixteen. -/
def digit (n : Nat) : Char := if n < 10 then Char.ofNat (48 + n) else Char.ofNat (87 + n)

/-- The two digits of a byte, the high one first. -/
def pair (b : UInt8) : List Char := [digit (b.toNat / 16), digit (b.toNat % 16)]

/-- The lower-case digits of a byte string. -/
def encode (bytes : Bytes) : String := String.ofList (bytes.flatMap pair)

/-! ### Reading -/

/-- Why a text is no byte string. -/
inductive Fault where
  /-- The digits do not come in pairs. -/
  | oddLength
  /-- The byte at this position is no digit. -/
  | badDigit (byte : UInt8) (position : Nat)
  deriving DecidableEq, Repr

/-- What is wrong, in words.  A byte that is no digit is shown as the character of its code. -/
def Fault.message : Fault → String
  | oddLength => "Odd number of digits"
  | badDigit b i =>
    "Invalid character " ++ quoted (Char.ofNat b.toNat) ++ " at position " ++ toString i

/-- The value of a digit of either case. -/
def value? (b : UInt8) : Option Nat :=
  let n := b.toNat
  if 48 ≤ n ∧ n ≤ 57 then some (n - 48)
  else if 97 ≤ n ∧ n ≤ 102 then some (n - 87)
  else if 65 ≤ n ∧ n ≤ 70 then some (n - 55)
  else none

/-- Read pairs of digits, the first of which stands at `position`. -/
def decodePairs (position : Nat) : Bytes → Except Fault Bytes
  | a :: b :: rest =>
    match value? a, value? b with
    | some x, some y =>
      match decodePairs (position + 2) rest with
      | .ok bytes => .ok ((16 * x + y).toUInt8 :: bytes)
      | .error fault => .error fault
    | none, _ => .error (.badDigit a position)
    | some _, none => .error (.badDigit b (position + 1))
  | _ => .ok []

/-- The bytes that a text writes, blanks around it left out. -/
def decode (text : String) : Except Fault Bytes :=
  let digits := Utf8.encode (String.ofList (trim text.toList))
  if digits.length % 2 = 1 then .error .oddLength else decodePairs 0 digits

end BootLayer.Text.Hex
