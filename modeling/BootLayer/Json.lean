import BootLayer.Entries
import BootLayer.Value

/-!
JSON documents as trees, and their correspondence with values.  A number is an integer of 64 bits,
signed or not, or a double; an object is a map, so its members are in key order and have one value
a key.
-/

namespace BootLayer

/-- A JSON document. -/
inductive Json where
  | null
  | bool (b : Bool)
  /-- An integer in the range of `Int64`. -/
  | int (n : Int64)
  /-- An integer that only fits an unsigned word. -/
  | nat (n : UInt64) (large : Nat.pow 2 63 ≤ n.toNat)
  /-- A finite number that is no integer of 64 bits, or was written as a fraction. -/
  | num (x : Double) (finite : x.isFinite = true)
  | str (text : String)
  | array (items : List Json)
  | object (members : Entries Json none)
  deriving Inhabited

namespace Json

mutual

/-- The value of a document.  Integers beyond `Int64` become doubles. -/
def toValue : Json → Value
  | null => .none
  | bool b => .bool b
  | int n => .int n
  | nat n _ => .float (Double.ofInt n.toNat)
  | num x _ => .float x
  | str s => .str s
  | array l => .list (toValues l)
  | object m => .map (toEntries m)

/-- The values of the items of an array. -/
def toValues : List Json → List Value
  | [] => []
  | j :: rest => toValue j :: toValues rest

/-- The values of the members of an object. -/
def toEntries {lo : Option String} : Entries Json lo → Entries Value lo
  | .nil => .nil
  | .cons k h j rest => .cons k h (toValue j) (toEntries rest)

end

/-- The document of a byte: a small integer. -/
def ofByte (b : UInt8) : Json := int b.toUInt64.toInt64

mutual

/-- The document of a value.  Bytes become an array of integers, a record the object of its
fields, and a number that is not finite becomes `null`. -/
def ofValue : Value → Json
  | .none => null
  | .bool b => bool b
  | .int n => int n
  | .float x => if h : x.isFinite = true then num x h else null
  | .str s => str s
  | .bytes b => array (b.map ofByte)
  | .list l => array (ofValues l)
  | .map m => object (ofEntries m)
  | .record _ m => object (ofEntries m)

/-- The documents of the items of a list. -/
def ofValues : List Value → List Json
  | [] => []
  | v :: rest => ofValue v :: ofValues rest

/-- The documents of the entries of a map. -/
def ofEntries {lo : Option String} : Entries Value lo → Entries Json lo
  | .nil => .nil
  | .cons k h v rest => .cons k h (ofValue v) (ofEntries rest)

end

end Json

end BootLayer
