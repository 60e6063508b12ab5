import BootLayer.Value

/-!
Equality of values as programs see it.  It is structural, except that numbers are compared as
numbers: an integer equals a double if it widens to an equal one, zeros are equal and a NaN equals
nothing.  Truth values equal no number, and a map equals no record.
-/

namespace BootLayer.Value

mutual

/-- Two values are equal to a program. -/
def same : Value → Value → Bool
  | none, none => true
  | bool a, bool b => a == b
  | int a, int b => a == b
  | float a, float b => a.sameNumber b
  | int a, float b => (widen a).sameNumber b
  | float a, int b => a.sameNumber (widen b)
  | str a, str b => a == b
  | bytes a, bytes b => a == b
  | list a, list b => sameItems a b
  | map a, map b => sameEntries a b
  | record s a, record t b => s == t && sameEntries a b
  | _, _ => false

/-- Two lists have equal items in the same order. -/
def sameItems : List Value → List Value → Bool
  | [], [] => true
  | a :: as, b :: bs => same a b && sameItems as bs
  | _, _ => false

/-- Two maps have the same keys with equal values. -/
def sameEntries {lo lo' : Option String} : Entries Value lo → Entries Value lo' → Bool
  | .nil, .nil => true
  | .cons k _ a as, .cons l _ b bs => k == l && same a b && sameEntries as bs
  | _, _ => false

end

end BootLayer.Value
