import BootLayer.Value

/-!
The four tags by which programs ask for the type of a value.  `dict` has a second spelling,
`mapping`; `none` and bytes carry no tag.
-/

namespace BootLayer

/-- A type that programs can ask for. -/
inductive Tag where
  | string
  | list
  | dict
  | number
  deriving DecidableEq, Repr

namespace Tag

/-- The name of a tag. -/
def name : Tag → String
  | string => "string"
  | list => "list"
  | dict => "dict"
  | number => "number"

/-- The tag with a name; case and blanks count. -/
def ofName? (text : String) : Option Tag :=
  if text = "string" then some string
  else if text = "list" then some list
  else if text = "dict" ∨ text = "mapping" then some dict
  else if text = "number" then some number
  else none

/-- The tag of a value. -/
def of : Value → Option Tag
  | .str _ => some string
  | .list _ => some list
  | .map _ | .record .. => some dict
  | .int _ | .float _ | .bool _ => some number
  | .none | .bytes _ => none

/-- The value carries the tag. -/
def fits (tag : Tag) (value : Value) : Bool := of value == some tag

theorem ofName?_name (tag : Tag) : ofName? tag.name = some tag := by
  cases tag <;> decide

end Tag

end BootLayer
