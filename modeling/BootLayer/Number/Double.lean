import BootLayer.Text.Utf8

/-!
Double-precision numbers as their 64 bits.  The sign is the top bit; the other 63 bits, the
*magnitude*, order the absolute values: `units` gives the exact value of a finite magnitude as a
multiple of the least positive double, and `nearest` is the magnitude nearest to a quotient of
such multiples, ties going to the even one.  All rounding in the library is this one function.
-/

namespace BootLayer

/-- A double-precision number, as its bits.  Equality tells NaNs and zeros apart. -/
structure Double where
  bits : UInt64
  deriving DecidableEq, Repr, Inhabited

namespace Double

/-! ### Sign and magnitude -/

/-- The magnitude of infinity; those above it are NaNs. -/
def infMagnitude : Nat := 0x7FF0000000000000

/-- The sign bit is set. -/
def negative (x : Double) : Bool := Nat.pow 2 63 ≤ x.bits.toNat

/-- The bits below the sign. -/
def magnitude (x : Double) : Nat := x.bits.toNat % Nat.pow 2 63

/-- The double with this sign and magnitude. -/
def ofParts (negative : Bool) (magnitude : Nat) : Double :=
  ⟨((if negative then Nat.pow 2 63 else 0) + magnitude).toUInt64⟩

def isNaN (x : Double) : Bool := infMagnitude < x.magnitude

def isInfinite (x : Double) : Bool := x.magnitude == infMagnitude

def isFinite (x : Double) : Bool := x.magnitude < infMagnitude

/-- The zero or infinity of a sign. -/
def zero (negative : Bool) : Double := ofParts negative 0

@[inherit_doc zero]
def infinity (negative : Bool) : Double := ofParts negative infMagnitude

/-- The quiet NaN without payload. -/
def nan (negative : Bool) : Double := ofParts negative 0x7FF8000000000000

/-- The same magnitude under the other sign. -/
def neg (x : Double) : Double := ofParts (!x.negative) x.magnitude

/-! ### Exact values -/

/-- The number of units in one: the least positive double is `2 ^ -1074`. -/
def one : Nat := Nat.pow 2 1074

/-- The exact value of a finite magnitude, in units.  Below `2 ^ 52` the magnitude counts units;
above, its upper part is an exponent and its lower 52 bits follow a leading one. -/
def units (magnitude : Nat) : Nat :=
  if magnitude < Nat.pow 2 52 then magnitude
  else (Nat.pow 2 52 + magnitude % Nat.pow 2 52) * Nat.pow 2 (magnitude / Nat.pow 2 52 - 1)

/-- The integer nearest to `num / den`, a half going to the even neighbour. -/
def roundHalfEven (num den : Nat) : Nat :=
  let q := num / den
  let r := num % den
  if 2 * r < den then q else if den < 2 * r then q + 1 else q + q % 2

/-- The magnitude nearest to `num / den` units, a half going to the even neighbour.  A quotient of
more than 53 bits is rounded on a grid of `2 ^ k` units; a carry out of the last grid point lands
on the first point of the next grid by itself.  Past the largest finite magnitude it is that of
infinity. -/
def nearest (num den : Nat) : Nat :=
  let k := (num / den).log2 - 52
  min (k * Nat.pow 2 52 + roundHalfEven num (den * Nat.pow 2 k)) infMagnitude

/-- The magnitude nearest to a natural number. -/
def ofNatMagnitude (n : Nat) : Nat := nearest (n * one) 1

/-- The double nearest to an integer. -/
def ofInt (n : Int) : Double := ofParts (n < 0) (ofNatMagnitude n.natAbs)

/-- The magnitude nearest to the product of two finite ones. -/
def mulMagnitude (a b : Nat) : Nat := nearest (units a * units b) one

/-- The magnitude nearest to the quotient of two finite ones. -/
def divMagnitude (a b : Nat) : Nat := nearest (units a * one) (units b)

/-! ### Arithmetic comparison -/

/-- Equality of the numbers: a NaN equals nothing, and the two zeros are equal. -/
def sameNumber (x y : Double) : Bool :=
  !x.isNaN && !y.isNaN && (x == y || (x.magnitude == 0 && y.magnitude == 0))

/-! ### Bytes -/

/-- The eight bytes of the bits, the least significant first. -/
def pack (x : Double) : Vector UInt8 8 :=
  Vector.ofFn fun i => (x.bits >>> (8 * i.val).toUInt64).toUInt8

/-- The double whose bits these bytes spell, the least significant first. -/
def ofBytes (bytes : Bytes) : Double :=
  ⟨bytes.foldr (fun b n => n <<< 8 ||| b.toUInt64) 0⟩

/-- The double packed into a byte string of length eight. -/
def unpack? (bytes : Bytes) : Option Double :=
  if bytes.length = 8 then some (ofBytes bytes) else none

end Double

end BootLayer
