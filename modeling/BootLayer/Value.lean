import BootLayer.Entries
import BootLayer.Number.Double

/-!
The dynamic values that primitives take and give: nothing, truth values, 64-bit integers,
doubles, text, bytes, lists, maps and records.  A record is a map of named fields under a type
name.  The module holds the type, its kinds and its partial views.
-/

namespace BootLayer

/-- A dynamic value. -/
inductive Value where
  | none
  | bool (b : Bool)
  | int (n : Int64)
  | float (x : Double)
  | str (text : String)
  | bytes (data : Bytes)
  | list (items : List Value)
  | map (entries : Entries Value Option.none)
  | record (typeName : String) (fields : Entries Value Option.none)
  deriving Inhabited

/-- The kind of a value, as messages name it. -/
inductive Kind where
  | none
  | bool
  | int
  | float
  | str
  | bytes
  | list
  | map
  | record
  deriving DecidableEq, Repr

/-- The name of a kind. -/
def Kind.name : Kind → String
  | none => "none"
  | bool => "bool"
  | int => "int"
  | float => "float"
  | str => "string"
  | bytes => "bytes"
  | list => "list"
  | map => "dict"
  | record => "record"

namespace Value

/-- The kind of a value. -/
def kind : Value → Kind
  | none => .none
  | bool _ => .bool
  | int _ => .int
  | float _ => .float
  | str _ => .str
  | bytes _ => .bytes
  | list _ => .list
  | map _ => .map
  | record .. => .record

/-! ### Views -/

/-- The text of a text value. -/
def text? : Value → Option String
  | str s => some s
  | _ => Option.none

/-- The bytes of a byte value; text is not bytes. -/
def bytes? : Value → Option Bytes
  | bytes b => some b
  | _ => Option.none

/-- The items of a list. -/
def list? : Value → Option (List Value)
  | list l => some l
  | _ => Option.none

/-- The entries of a map or the fields of a record. -/
def entries? : Value → Option (Dict Value)
  | map m => some m
  | record _ m => some m
  | _ => Option.none

/-- The double that an integer widens to. -/
def widen (n : Int64) : Double := Double.ofInt n.toInt

/-- The number that a value stands for; the truth values count as zero and one. -/
def number? : Value → Option Double
  | float x => some x
  | int n => some (widen n)
  | bool b => some (Double.ofInt (if b then 1 else 0))
  | _ => Option.none

end Value

/-! ### Records on their own -/

/-- Named fields under a type name. -/
structure Record where
  typeName : String
  fields : Dict Value

namespace Record

/-- The field of a name. -/
def get? (r : Record) (name : String) : Option Value := r.fields.find? name

/-- Assign a field. -/
def set (r : Record) (name : String) (value : Value) : Record :=
  { r with fields := r.fields.insert name value }

/-- The record as a value. -/
def toValue (r : Record) : Value := .record r.typeName r.fields

end Record

end BootLayer
