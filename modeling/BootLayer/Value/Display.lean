import BootLayer.Number.Layout
import BootLayer.Value

/-!
The display text of a value.  Text stands by itself at the top and between double quotes inside a
container; nothing inside it is escaped.  Bytes show only their number.
-/

namespace BootLayer.Value

/-- Texts with a comma and a blank between them. -/
def commaSeparated (texts : List String) : String := ", ".intercalate texts

/-- Text inside a container. -/
def inQuotes (text : String) : String := "\"" ++ text ++ "\""

/-- The text of an integer. -/
def intText (n : Int64) : String := toString n.toInt

mutual

/-- The display text of a value, with text written by `quote`. -/
def displayBy (quote : String → String) : Value → String
  | none => "None"
  | bool b => if b then "true" else "false"
  | int n => intText n
  | float x => x.text
  | str s => quote s
  | bytes b => "<bytes:" ++ toString b.length ++ ">"
  | list l => "[" ++ commaSeparated (displayItems l) ++ "]"
  | map m => "\x7b" ++ commaSeparated (displayEntries inQuotes m) ++ "\x7d"
  | record name m => name ++ "(" ++ commaSeparated (displayEntries id m) ++ ")"

/-- The texts of the items of a list. -/
def displayItems : List Value → List String
  | [] => []
  | v :: rest => displayBy inQuotes v :: displayItems rest

/-- The texts of entries, each key written by `key`. -/
def displayEntries {lo : Option String} (key : String → String) :
    Entries Value lo → List String
  | .nil => []
  | .cons k _ v rest => (key k ++ ": " ++ displayBy inQuotes v) :: displayEntries key rest

end

/-- The display text of a value. -/
def display (v : Value) : String := displayBy id v

end BootLayer.Value
